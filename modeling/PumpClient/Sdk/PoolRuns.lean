import PumpClient.Math.DustFees
import PumpClient.Sdk.PoolLedger

open machine exchange Relation

namespace pump_rust_client.sdk

open state state.pump_amm math math.fees math.amm Outcome PoolLedger

namespace PoolLedger

variable {s : PoolLedger} {boost : Int}

/-- Without a boost a pool holds all it can be asked to pay. -/
theorem Sound.swap_le_real (sound : s.Sound boost) (hboost : boost ≤ 0)
    {real_quote quote_reserve : UInt64}
    (hreal : real_quote_reserve s.pool s.quote_vault = .ok real_quote)
    (heffective : effective_quote_reserve s.pool s.quote_vault = .ok quote_reserve)
    (amount : UInt64) :
    swapOut amount.toNat s.base_vault.toNat quote_reserve.toNat ≤ real_quote.toNat := by
  obtain ⟨real_quote', hreal', hprice⟩ := sound.reserves
  obtain rfl : real_quote' = real_quote := Except.ok.inj (hreal'.symm.trans hreal)
  have heffective := effective_of_read heffective
  have hle := swapOut_le amount.toNat s.base_vault.toNat quote_reserve.toNat
  omega

variable [Build] [Solana]

theorem sell_quote_amm_covered (sound : s.Sound boost) (hboost : boost ≤ 0)
    (global_config : GlobalConfig) (fee_config : FeeConfig) (base_mint_supply amount : UInt64)
    (slippage_bps : UInt16) :
    Avoids (.error .InsufficientRealQuoteReserves) (PumpSdk.sell_quote_amm global_config fee_config
      (.Pool s.pool s.base_vault s.quote_vault base_mint_supply) amount slippage_bps) := by
  intro h
  rcases bind_eq_error_iff.mp h with heffective | ⟨quote_reserve, heffective, h⟩
  · cases effective_quote_reserve_error heffective
  rcases bind_eq_error_iff.mp h with hreal | ⟨real_quote, hreal, h⟩
  · cases real_quote_reserve_error hreal
  have hcovered := sound.swap_le_real hboost hreal heffective amount
  rcases bind_eq_error_iff.mp h with h | ⟨_, _, h⟩
  swap
  · cases h
  rcases check_trading_enabled_cases global_config false with hopen | hclosed
  swap
  · rw [sell_base_input, hclosed, err_bind] at h
    cases h
  rcases AmmContext.check_reserves_cases (poolContext global_config fee_config s.pool s.base_vault
    base_mint_supply quote_reserve real_quote) with hreserves | hempty
  swap
  · rw [sell_base_input, hopen, ok_bind] at h
    rw [poolContext] at hempty
    rw [hempty, err_bind] at h
    cases h
  rw [poolContext] at hreserves
  rw [sell_base_input_eq hopen hreserves rfl] at h
  rcases bind_eq_error_iff.mp h with hbps | ⟨bps, hbps, h⟩
  · exact compute_amm_fee_bps_avoids (by decide) _ _ _ _ _ _ _ _ _ hbps
  split at h
  · cases h
  split at h
  · next hshort => exact absurd ((Nat.sub_le _ _).trans hcovered) (not_le.mpr hshort)
  · cases h

theorem multi_hop_pool_hop_covered (sound : s.Sound boost) (hboost : boost ≤ 0)
    (global_config : GlobalConfig) (fee_config : FeeConfig)
    (base_mint_supply amount : UInt64) (is_buy : Bool) (legs : HopFees) :
    Avoids (.error .InsufficientRealQuoteReserves) (multi_hop_pool_hop global_config fee_config
      s.pool s.base_vault s.quote_vault base_mint_supply is_buy amount legs) := by
  intro h
  obtain ⟨hopen, real_quote, quote_reserve, rates, venue⟩ :=
    multi_hop_pool_hop_venue_of_refused (by decide) h
  have hcovered := sound.swap_le_real hboost venue.real venue.effective amount
  cases is_buy with
  | true =>
    rw [venue.buy_eq hopen] at h
    split at h <;> cases h
  | false =>
    rw [venue.sell_eq hopen rfl] at h
    split at h
    · cases h
    split at h
    · next hshort => exact absurd ((Nat.sub_le _ _).trans hcovered) (not_le.mpr hshort)
    split at h
    · cases h
    split at h <;> cases h

end PoolLedger

/-- The graduated pool with its vaults, and after a sell on it whose protocol
    and creator fees stay in the vault. -/
def graduatedLedger : PoolLedger where
  pool := graduatedPool
  base_vault := 206_900_000_000_000
  quote_vault := 85_000_000_000
  paid := 0
  received := 0
  fees := 0

def graduatedSold : PoolLedger where
  pool := { graduatedPool with
    protocol_fees := 3_000 + 4_088_504
    creator_fees := 2_000 + 2_044_252
    virtual_quote_reserves := ⟨-5_000 - 4_088_504 - 2_044_252, by decide⟩ }
  base_vault := 206_900_000_000_000 + 1_000_000_000_000
  quote_vault := 85_000_000_000 - 402_717_628
  paid := 0
  received := 402_717_628
  fees := 4_088_504 + 2_044_252

theorem graduatedLedger_sound : graduatedLedger.Sound 0 := by
  constructor <;> decide

theorem graduatedLedger_sells :
    letI : Build := ⟨true⟩
    letI : Solana := graduatedPoolAuthority
    PoolLedger.Trade (.sell 1_000_000_000_000 ⟨402_717_628, 408_850_384⟩) graduatedLedger
      graduatedSold := by
  let _ : Build := ⟨true⟩
  let _ : Solana := graduatedPoolAuthority
  let ctx : AmmContext := poolContext GlobalConfig.default bonding_curve.launchFees graduatedPool
    206_900_000_000_000 0 84_999_995_000 84_999_995_000
  have hrates : ctx.fee_bps = .ok ⟨0, 100, 50⟩ := by decide +kernel
  have hreads : Reads graduatedLedger ctx (0, 100, 50) :=
    ⟨by decide +kernel, by decide +kernel, ⟨_, _, _, rfl⟩, _, hrates, by decide +kernel⟩
  have hquote : sell_base_input ctx 1_000_000_000_000 = .ok ⟨402_717_628, 408_850_384⟩ := by
    decide +kernel
  have hprotocol : (fee_amount 408_850_384 100 : QuoteResult Nat) = .ok 4_088_504 := by
    decide +kernel
  have hcreator : (fee_amount 408_850_384 50 : QuoteResult Nat) = .ok 2_044_252 := by decide +kernel
  have hsettles : Settles graduatedLedger graduatedSold 1_000_000_000_000 0 0 402_717_628 4_088_504
      2_044_252 4_088_504 2_044_252 := by
    constructor
    case terms => rfl
    all_goals decide +kernel
  exact .sell hreads hquote hprotocol hcreator hsettles

/-- Sweeps all there is to sweep, where the books allow it. -/
def sweepAll (t : PoolLedger) : PoolLedger :=
  if h : t.buckets ≤ t.quote_vault.toNat ∧
      t.pool.virtual_quote_reserves.val + t.buckets < 2 ^ 127 then
    let sweep : Sweep t.pool t.quote_vault := {
      protocol := t.pool.protocol_fees
      creator := t.pool.creator_fees
      virtual_quote_reserves := ⟨t.pool.virtual_quote_reserves.val + t.buckets, by
        have hrange := t.pool.virtual_quote_reserves.range
        omega⟩
      protocol_le := le_rfl
      creator_le := le_rfl
      covered := h.1
      virtual_eq := by simp [buckets, Int.add_assoc] }
    { t with pool := sweep.swept, quote_vault := sweep.vault }
  else t

theorem swept_sweepAll (t : PoolLedger) : Swept t (sweepAll t) := by
  unfold sweepAll
  split
  · exact ⟨_, rfl⟩
  · exact .refl t

/-- A sound pool stays sound however it is swept and traded at exact quotes.
    What it prices on is always what it really holds and its boost, and the product
    of what it prices on never falls; the ledger, which books what each trade moves,
    has every unit of quote in that, with the traders, or in the fees. Without a
    boost no sell is ever refused for what the vault holds. -/
theorem pool_books_stay_straight [Build] [Solana] {boost : Int} {s s' : PoolLedger}
    (sound : s.Sound boost) (hrun : ReflTransGen Step s s') :
    (∃ real_quote, real_quote_reserve s'.pool s'.quote_vault = .ok real_quote ∧
      s'.effective = real_quote.toNat + boost) ∧
    s.effective.toNat * s.base_vault.toNat ≤ s'.effective.toNat * s'.base_vault.toNat ∧
    s'.effective + s'.received + s'.fees + s.paid = s.effective + s.received + s.fees + s'.paid ∧
    (boost ≤ 0 → ∀ global_config fee_config base_mint_supply amount,
      (∀ slippage_bps, PumpSdk.sell_quote_amm global_config fee_config
          (.Pool s'.pool s'.base_vault s'.quote_vault base_mint_supply) amount slippage_bps ≠
        Outcome.err .InsufficientRealQuoteReserves) ∧
      ∀ is_buy legs, multi_hop_pool_hop global_config fee_config s'.pool s'.base_vault
          s'.quote_vault base_mint_supply is_buy amount legs ≠
        Outcome.err .InsufficientRealQuoteReserves) := by
  obtain ⟨sound', hfollows⟩ := run_sound_follows sound hrun
  have hbalance := hfollows.balance
  have hpos := sound.effective_pos
  have hpos' := sound'.effective_pos
  refine ⟨sound'.reserves, hfollows.product_le, ?_, ?_⟩
  · simp only [market] at hbalance
    omega
  · intro hboost global_config fee_config base_mint_supply amount
    constructor
    · intro slippage_bps
      exact sell_quote_amm_covered sound' hboost _ _ _ _ _
    · intro is_buy legs
      exact multi_hop_pool_hop_covered sound' hboost _ _ _ _ _ _

/-- The graduated pool after a sell, and after all the fees it left are swept. -/
theorem pool_books_stay_straight_graduated :
    (sweepAll graduatedSold).buckets = 0 ∧
      (∃ real_quote, real_quote_reserve (sweepAll graduatedSold).pool
          (sweepAll graduatedSold).quote_vault = .ok real_quote ∧
        (sweepAll graduatedSold).effective = real_quote.toNat + 0) ∧
      graduatedLedger.effective.toNat * graduatedLedger.base_vault.toNat ≤
        (sweepAll graduatedSold).effective.toNat * (sweepAll graduatedSold).base_vault.toNat := by
  let _ : Build := ⟨true⟩
  let _ : Solana := graduatedPoolAuthority
  have hrun : ReflTransGen Step graduatedLedger (sweepAll graduatedSold) :=
    .tail (.single (.trade graduatedLedger_sells)) (.sweep (swept_sweepAll graduatedSold))
  obtain ⟨hreal, hproduct, -⟩ := pool_books_stay_straight graduatedLedger_sound hrun
  exact ⟨by decide +kernel, hreal, hproduct⟩

/-- No sequence of trades at exact quotes on a pool, swept or not, beats one.
    Traders who took as much base out as they put in paid for all they received and
    the fees; for what they put in beyond that they received no more than one
    fee-less sell brings on the reserves the run started from, and for the quote
    they put in no more base than one fee-less buy. -/
theorem pool_run_never_beats_one_trade [Build] [Solana] {boost : Int} {s s' : PoolLedger}
    (sound : s.Sound boost) (hrun : ReflTransGen Step s s') :
    (s'.base_vault ≤ s.base_vault →
      s.paid + s'.received + s'.fees ≤ s'.paid + s.received + s.fees) ∧
    ∀ quote_reserve, effective_quote_reserve s.pool s.quote_vault = .ok quote_reserve →
      (∀ sold : UInt64, s'.base_vault.toNat = s.base_vault.toNat + sold.toNat →
        ∃ gross, sell_quote s.base_vault quote_reserve sold = .ok gross ∧
          s.paid + s'.received + s'.fees ≤ s'.paid + s.received + s.fees + gross) ∧
      ∀ raised : UInt64, s'.effective = s.effective + raised.toNat →
        ∃ bought, buy_token_quote_with_sol s.base_vault quote_reserve raised = .ok bought ∧
          s.base_vault.toNat ≤ s'.base_vault.toNat + bought := by
  obtain ⟨sound', hfollows⟩ := run_sound_follows sound hrun
  have hbase := sound.base_pos
  have hpos := sound.effective_pos
  constructor
  · intro hless
    have hpay := hfollows.traders_pay (UInt64.le_iff_toNat_le.mp hless) sound'.base_pos
    simp only [market] at hpay
    omega
  intro quote_reserve heffective
  have hquote := effective_of_read heffective
  constructor
  · intro sold hsold
    have hbest := hfollows.received_le_swapOut (n := sold.toNat) hbase hsold
    refine ⟨_, sell_quote_eq _ _ hbase, ?_⟩
    simp only [market, hquote] at hbest
    omega
  · intro raised hraised
    have hput : s'.market.quote = s.market.quote + raised.toNat := by
      simp only [market]
      omega
    have hbest := hfollows.taken_le_swapOut (show 0 < s.effective.toNat by omega) hput
    refine ⟨_, buy_token_quote_with_sol_eq _ _ (by omega), ?_⟩
    simp only [market, hquote] at hbest
    exact hbest

theorem pool_run_never_beats_one_trade_graduated :
    graduatedLedger.paid + graduatedSold.received + graduatedSold.fees ≤
      graduatedSold.paid + graduatedLedger.received + graduatedLedger.fees + 408_850_384 := by
  let _ : Build := ⟨true⟩
  let _ : Solana := graduatedPoolAuthority
  obtain ⟨-, hbest⟩ := pool_run_never_beats_one_trade graduatedLedger_sound
    (.single (.trade graduatedLedger_sells))
  obtain ⟨hsell, -⟩ := hbest 84_999_995_000 (by decide +kernel)
  obtain ⟨gross, hgross, hreceived⟩ := hsell 1_000_000_000_000 (by decide +kernel)
  have heq : gross = 408_850_384 := Except.ok.inj (hgross.symm.trans (by decide +kernel))
  exact heq ▸ hreceived

end pump_rust_client.sdk
