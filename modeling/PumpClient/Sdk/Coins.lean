import PumpClient.Sdk.CurveLedger
import PumpClient.Sdk.Graduation
import PumpClient.Sdk.PoolRuns

open machine exchange Relation

namespace pump_rust_client.sdk

open state state.pump_amm math math.utils math.fees math.bonding_curve

/-- A coin on its curve or, once it has migrated, on its pool with the tokens
    that its traders hold. -/
inductive Coin where
  | curve (ledger : CurveLedger)
  | pool (ledger : PoolLedger) (outside : Nat)

/-- What a migration keeps of the raise. -/
def migration_fee (global : Global) (quote_mint : Pubkey) : Nat :=
  if is_sol_like_quote_mint quote_mint then global.pool_migration_fee.toNat else 0

/-- The pool that the migration opens after a last buy. Of what was `charged`
    for it, `net` completed the curve, `quote_in` took `base_out` out of the pool and
    the rest were fees; the vaults hold what the completed curve is estimated to
    deposit. -/
structure Migrates (global : Global) (s : CurveLedger) (net base_out quote_in charged : UInt64)
    (p : PoolLedger) : Prop where
  raised : s.curve.real_quote_reserves.toNat + net.toNat < 2 ^ 64
  estimate : estimated_reserves global (completedCurve s.curve net base_out quote_in) =
    .ok (p.base_vault, p.quote_vault)
  protocol_fees : p.pool.protocol_fees = 0
  creator_fees : p.pool.creator_fees = 0
  virtual : p.pool.virtual_quote_reserves.val = 0
  paid : p.paid = s.paid + charged.toNat
  received : p.received = s.received
  fees : p.fees = s.fees + (charged.toNat - (net.toNat + quote_in.toNat))

/-- What the estimate deposits: the base that was never for sale and did not
    leave with the last buy, and the raise less the migration fee. -/
theorem estimated_reserves_ok {global : Global} {bonding_curve : BondingCurve}
    {base quote : UInt64} (h : estimated_reserves global bonding_curve = .ok (base, quote)) :
    base.toNat + bonding_curve.post_complete_base_out.toNat +
        global.initial_real_token_reserves.toNat = bonding_curve.token_total_supply.toNat ∧
      quote.toNat + migration_fee global bonding_curve.quote_mint =
        bonding_curve.real_quote_reserves.toNat + bonding_curve.post_complete_quote_in.toNat ∧
      0 < base.toNat ∧ 0 < quote.toNat := by
  have hzero : ∀ n : UInt64, n = 0 ↔ n.toNat = 0 := fun n => UInt64.toNat_inj.symm
  have hfee : (if is_sol_like_quote_mint bonding_curve.quote_mint then global.pool_migration_fee
      else 0).toNat = migration_fee global bonding_curve.quote_mint := apply_ite UInt64.toNat _ _ _
  simp only [estimated_reserves, Outcome.bind_eq_ok_iff, Outcome.ok_or_eq_ok_iff,
    Option.bind_eq_some_iff, U64.checked_sub_eq_some_iff, U64.checked_add_eq_some_iff, hzero,
    hfee] at h
  obtain ⟨base', ⟨supply, hsupply, hbase⟩, quote', ⟨raised, hraised, hquote⟩, h⟩ := h
  split at h
  · cases h
  · cases h
    omega

variable {global : Global}

/-- What a pool opened by a migration starts from: straight books, which account
    for all that was paid on the curve. -/
theorem Migrates.opens {s : CurveLedger} {net base_out quote_in charged : UInt64} {p : PoolLedger}
    (migrates : Migrates global s net base_out quote_in charged p)
    (hcharged : net.toNat + quote_in.toNat ≤ charged.toNat)
    (hbalance : s.paid = s.curve.real_quote_reserves.toNat + s.received + s.fees) :
    p.Sound 0 ∧
      p.effective + migration_fee global s.curve.quote_mint + p.received + p.fees = p.paid ∧
      p.base_vault.toNat + base_out.toNat + global.initial_real_token_reserves.toNat =
        s.curve.token_total_supply.toNat := by
  obtain ⟨hbase, hquote, hbase_pos, hquote_pos⟩ := estimated_reserves_ok migrates.estimate
  have hraised := U64.toNat_add_of_lt migrates.raised
  have hpaid := migrates.paid
  have hreceived := migrates.received
  have hfees := migrates.fees
  have hvirtual := migrates.virtual
  have hbuckets : p.buckets = 0 := by
    rw [PoolLedger.buckets, migrates.protocol_fees, migrates.creator_fees]
    rfl
  have heffective : p.effective = p.quote_vault.toNat := by
    rw [PoolLedger.effective, hvirtual, Int.add_zero]
  simp only [completedCurve] at hbase hquote
  refine ⟨⟨hbase_pos, by omega, by omega, by omega⟩, by omega, hbase⟩

section

variable [Build]

/-- The quote a buy past the remaining supply puts into the pool for what it
    takes from it. -/
def LegTakes (bps : UInt64 × UInt64) (sol_amount net base_out quote_in : UInt64) : Prop :=
  if base_out = 0 then quote_in = 0
  else ∃ curve_total budget_left fee creator_fee fee₂ : UInt64,
    with_fees net bps = .ok curve_total.toNat ∧
    U64.checked_sub sol_amount curve_total = some budget_left ∧
    exact_in_fee_amounts budget_left (bps.1, bps.2, 0) = .ok (quote_in, fee, creator_fee, fee₂)

section Buys

variable {fee_config : FeeConfig} {bonding_curve : BondingCurve}
  {mint_supply base_ata_amount : UInt64} {bps : UInt64 × UInt64}

/-- An exact-in buy past the remainder charges what it puts into the curve and
    the pool, and its fees. -/
theorem exact_in_covers {sol_amount tokens charged net base_out quote_in : UInt64}
    (hquote : buy_v3_token_amount_from_sol_amount global fee_config bonding_curve mint_supply
      base_ata_amount sol_amount = .ok (tokens, charged))
    (htokens : tokens.toNat = bonding_curve.real_token_reserves.toNat + base_out.toNat)
    (hbps : curve_fee_bps global fee_config bonding_curve mint_supply = .ok bps)
    (hnet : buy_quote bonding_curve bonding_curve.real_token_reserves = .ok net)
    (hleg : LegTakes bps sol_amount net base_out quote_in) :
    net.toNat + quote_in.toNat ≤ charged.toNat := by
  obtain ⟨hremaining, -, hprice⟩ := buy_quote_eq_ok_iff.mp hnet
  by_cases hnone : base_out = 0
  · rw [LegTakes, if_pos hnone] at hleg
    subst hnone hleg
    have htokens_eq : tokens.toNat = bonding_curve.real_token_reserves.toNat := htokens
    have hpos : 0 < tokens := U64.pos_iff.mpr (by omega)
    obtain ⟨rates, -, priced, hout, hcharge⟩ := buy_v3_token_amount_ok hquote hpos
    have hcost := (completingQuoter global bonding_curve base_ata_amount rates).cost_out_le_charge
      (hout ▸ U64.pos_iff.mp hpos)
    rw [← hout, ← hcharge, htokens_eq, completingQuoter, Quoter.glue_cost_of_le le_rfl, quoter_cost,
      ← hprice] at hcost
    exact (Nat.le_add_right _ _).trans hcost
  · rw [LegTakes, if_neg hnone] at hleg
    obtain ⟨curve_total, budget_left, fee, creator_fee, fee₂, hcost, hleft, hsplit⟩ := hleg
    have hout_pos := U64.ne_zero_iff.mp hnone
    have hpast : bonding_curve.real_token_reserves < tokens :=
      UInt64.lt_iff_toNat_lt.mpr (by omega)
    obtain ⟨rates, pool, net', curve_total', budget_left', base_out', leg_total, -, -, -, -, hrates,
      hnet', hcost', hleft', hpool, hleg, -, -, hcharged, -⟩ := buy_v3_token_amount_leg hquote hpast
    obtain rfl : bps = rates := Except.ok.inj (hbps.symm.trans hrates)
    obtain rfl : net = net' := Except.ok.inj (hnet.symm.trans hnet')
    obtain rfl : curve_total = curve_total' :=
      UInt64.toNat_inj.mp (Except.ok.inj (hcost.symm.trans hcost'))
    obtain rfl : budget_left = budget_left' := Option.some.inj (hleft.symm.trans hleft')
    obtain ⟨-, hquote_in, -, -⟩ := exact_in_fee_amounts_curve_ok hsplit
    rw [with_fees_eq] at hcost
    have hnet_le : net.toNat ≤ curve_total.toNat := Except.ok.inj hcost ▸ Nat.le_add_right _ _
    rw [post_complete_leg_exact_quote_net pool bps budget_left
      (pool_to_be_eq_ok_iff.mp hpool).2.2.2.2] at hleg
    split at hleg
    · cases hleg
    · next hbought =>
      cases hleg
      have hcharge := (legQuoter pool bps).charge_le (Nat.pos_of_ne_zero hbought)
      have htotal := U64.toNat_cast_of_lt (hcharge.trans_lt (U64.toNat_lt _))
      have hin : quote_in.toNat ≤ (legQuoter pool bps).charge budget_left.toNat :=
        hquote_in ▸ Nat.le_add_right _ _
      omega

/-- So does an exact-out buy of a coin that opens a pool. -/
theorem exact_out_covers {tokens cost net base_out quote_in : UInt64} {pool : UInt64 × UInt64}
    (hquote : buy_v3_sol_amount_from_token_amount global fee_config bonding_curve mint_supply
      base_ata_amount tokens = .ok cost)
    (hmayhem : bonding_curve.is_mayhem_mode = false) (hout : 0 < base_out)
    (htokens : tokens.toNat = bonding_curve.real_token_reserves.toNat + base_out.toNat)
    (hnet : buy_quote bonding_curve bonding_curve.real_token_reserves = .ok net)
    (hpool : pool_to_be global bonding_curve base_ata_amount
      (is_sol_like_quote_mint bonding_curve.quote_mint) bonding_curve.real_token_reserves net =
      .ok pool)
    (hin : quote_in.toNat = swapInCeil base_out.toNat pool.2.toNat pool.1.toNat) :
    net.toNat + quote_in.toNat ≤ cost.toNat := by
  have hout_pos := U64.pos_iff.mp hout
  have hpast_nat : bonding_curve.real_token_reserves.toNat < tokens.toNat := by omega
  obtain ⟨⟨⟩, hopen, -⟩ := Outcome.bind_eq_ok_iff.mp hquote
  obtain ⟨rates, net', pool', -, hnet', hpool', -, hcost⟩ := (buy_v3_sol_amount_past_ok_iff hopen
    (UInt64.lt_iff_toNat_lt.mpr hpast_nat) hmayhem).mp hquote
  obtain rfl : net = net' := Except.ok.inj (hnet.symm.trans hnet')
  obtain rfl : pool = pool' := Except.ok.inj (hpool.symm.trans hpool')
  obtain ⟨-, -, hprice⟩ := buy_quote_eq_ok_iff.mp hnet
  have hleg : (legQuoter pool rates).cost base_out.toNat =
      (curveSchedule rates).gross quote_in.toNat := hin ▸ rfl
  rw [Quoter.glue_cost_of_lt hpast_nat, quoter_cost, ← hprice, htokens, Nat.add_sub_cancel_left,
    hleg] at hcost
  rw [hcost]
  exact Nat.add_le_add (Nat.le_add_right _ _) (Nat.le_add_right _ _)

end Buys

end

section Life

variable [Build] [Solana]

/-- What can happen to a coin: a trade inside its curve, its migration (sold
    out, or by a v3 buy past what is left), and a trade or a sweep of its pool. -/
inductive Coin.Step (global : Global) : Coin → Coin → Prop
  | trade {s s' : CurveLedger} (htrade : QuotedTrade s s') : Step global (.curve s) (.curve s')
  | sold_out {s : CurveLedger} {p : PoolLedger} (hsold : s.curve.real_token_reserves = 0)
      (migrates : Migrates global s 0 0 0 0 p) : Step global (.curve s) (.pool p s.outside)
  | exact_in {s : CurveLedger} {p : PoolLedger} {fee_config : FeeConfig}
      {mint_supply base_ata_amount sol_amount tokens charged net base_out quote_in : UInt64}
      {bps : UInt64 × UInt64} {uncapped : Nat}
      (hquote : buy_v3_token_amount_from_sol_amount global fee_config s.curve mint_supply
        base_ata_amount sol_amount = .ok (tokens, charged))
      (huncapped : buy_tokens_exact_in global fee_config s.curve mint_supply sol_amount =
        .ok uncapped)
      (hpast : s.curve.real_token_reserves.toNat < uncapped)
      (htokens : tokens.toNat = s.curve.real_token_reserves.toNat + base_out.toNat)
      (hbps : curve_fee_bps global fee_config s.curve mint_supply = .ok bps)
      (hnet : buy_quote s.curve s.curve.real_token_reserves = .ok net)
      (hleg : LegTakes bps sol_amount net base_out quote_in)
      (migrates : Migrates global s net base_out quote_in charged p) :
      Step global (.curve s) (.pool p (s.outside + tokens.toNat))
  | exact_out {s : CurveLedger} {p : PoolLedger} {fee_config : FeeConfig}
      {mint_supply base_ata_amount tokens cost net base_out quote_in : UInt64}
      {pool : UInt64 × UInt64}
      (hquote : buy_v3_sol_amount_from_token_amount global fee_config s.curve mint_supply
        base_ata_amount tokens = .ok cost)
      (hmayhem : s.curve.is_mayhem_mode = false) (hout : 0 < base_out)
      (htokens : tokens.toNat = s.curve.real_token_reserves.toNat + base_out.toNat)
      (hnet : buy_quote s.curve s.curve.real_token_reserves = .ok net)
      (hpool : pool_to_be global s.curve base_ata_amount
        (is_sol_like_quote_mint s.curve.quote_mint) s.curve.real_token_reserves net = .ok pool)
      (hin : quote_in.toNat = swapInCeil base_out.toNat pool.2.toNat pool.1.toNat)
      (migrates : Migrates global s net base_out quote_in cost p) :
      Step global (.curve s) (.pool p (s.outside + tokens.toNat))
  | pool_trade {p p' : PoolLedger} {quote : PoolQuote} {outside : Nat}
      (htrade : PoolLedger.Trade quote p p') (hheld : quote.base_in ≤ outside) :
      Step global (.pool p outside) (.pool p' (outside + quote.base_out - quote.base_in))
  | pool_sweep {p p' : PoolLedger} {outside : Nat} (hswept : PoolLedger.Swept p p') :
      Step global (.pool p outside) (.pool p' outside)

namespace Coin

/-- Where all that was paid and all the tokens are. A migrated coin has straight
    books, on what is left of the raise. -/
def Accounted (global : Global) (quote_mint : Pubkey) : Coin → Prop
  | .curve s =>
    s.paid = s.curve.real_quote_reserves.toNat + s.received + s.fees ∧
      s.outside + s.curve.real_token_reserves.toNat = global.initial_real_token_reserves.toNat
  | .pool p outside =>
    p.Sound 0 ∧
      p.effective + migration_fee global quote_mint + p.received + p.fees = p.paid ∧
      outside + p.base_vault.toNat = global.token_total_supply.toNat

variable {s s' : CurveLedger} {coin coin' : Coin} {quote_mint : Pubkey}

theorem Step.accounted_pool {p : PoolLedger} {outside : Nat}
    (hstep : Step global (.curve s) (.pool p outside))
    (haccounted : (Coin.curve s).Accounted global quote_mint) (hmint : s.curve.quote_mint = quote_mint)
    (hsupply : s.curve.token_total_supply = global.token_total_supply) :
    (Coin.pool p outside).Accounted global quote_mint := by
  obtain ⟨hbalance, houtside⟩ := haccounted
  subst hmint
  rw [Accounted, ← hsupply]
  cases hstep with
  | sold_out hsold migrates =>
    obtain ⟨sound, hpaid, hbase⟩ := migrates.opens le_rfl hbalance
    have hnone : s.curve.real_token_reserves.toNat = 0 := congrArg UInt64.toNat hsold
    rw [UInt64.toNat_zero] at hbase
    exact ⟨sound, hpaid, by omega⟩
  | exact_in hquote _ _ htokens hbps hnet hleg migrates =>
    obtain ⟨sound, hpaid, hbase⟩ :=
      migrates.opens (exact_in_covers hquote htokens hbps hnet hleg) hbalance
    exact ⟨sound, hpaid, by omega⟩
  | exact_out hquote hmayhem hout htokens hnet hpool hin migrates =>
    obtain ⟨sound, hpaid, hbase⟩ :=
      migrates.opens (exact_out_covers hquote hmayhem hout htokens hnet hpool hin) hbalance
    exact ⟨sound, hpaid, by omega⟩

theorem Step.accounted_of_pool {p p' : PoolLedger} {outside outside' : Nat}
    (hstep : Step global (.pool p outside) (.pool p' outside'))
    (haccounted : (Coin.pool p outside).Accounted global quote_mint) :
    (Coin.pool p' outside').Accounted global quote_mint := by
  obtain ⟨sound, hpaid, htotal⟩ := haccounted
  have hstep' : PoolLedger.Step p p' ∧
      outside' + p'.base_vault.toNat = outside + p.base_vault.toNat := by
    cases hstep with
    | pool_trade htrade hheld =>
      have hbase := htrade.base_vault_eq
      exact ⟨.trade htrade, by omega⟩
    | pool_sweep hswept =>
      obtain ⟨sweep, rfl⟩ := hswept
      exact ⟨.sweep ⟨sweep, rfl⟩, rfl⟩
  obtain ⟨hmoved, htokens⟩ := hstep'
  obtain ⟨sound', hfollows⟩ := hmoved.sound_follows sound
  have hbalance := hfollows.balance
  have hpos := sound.effective_pos
  have hpos' := sound'.effective_pos
  simp only [PoolLedger.market] at hbalance
  exact ⟨sound', by omega, by omega⟩

/-- A launched coin accounts for everything through its whole life, and a curve
    has only been traded. -/
theorem accounted_of_launched {creator : Pubkey} {seed : UInt64} {mayhem_mode cashback : Bool}
    {creator_fee_bps : UInt64} (hseed : 1 ≤ seed)
    (htokens : global.initial_real_token_reserves < global.initial_virtual_token_reserves)
    (hlife : ReflTransGen (Step global) (.curve (CurveLedger.new (PumpSdk.initial_bonding_curve
      global creator quote_mint seed mayhem_mode cashback creator_fee_bps))) coin) :
    coin.Accounted global (PumpSdk.resolve_quote_mint quote_mint) ∧
      ∀ s, coin = .curve s → ReflTransGen QuotedTrade (CurveLedger.new
        (PumpSdk.initial_bonding_curve global creator quote_mint seed mayhem_mode cashback
          creator_fee_bps)) s := by
  induction hlife with
  | refl =>
    refine ⟨quoted_trades_balance hseed htokens .refl, ?_⟩
    rintro s ⟨⟩
    exact .refl
  | @tail coin coin' _ hstep ih =>
    obtain ⟨haccounted, hcurve⟩ := ih
    cases coin with
    | curve s =>
      have hrun := hcurve s rfl
      cases coin' with
      | curve s' =>
        cases hstep with
        | trade htrade =>
          refine ⟨quoted_trades_balance hseed htokens (hrun.tail htrade), ?_⟩
          rintro _ ⟨⟩
          exact hrun.tail htrade
      | pool p outside =>
        have hframe := trades_frame (hrun.lift CurveLedger.traded fun _ _ htrade => htrade.trade)
        refine ⟨hstep.accounted_pool haccounted ?_ ?_, nofun⟩ <;> rw [CurveLedger.curve, hframe] <;> rfl
    | pool p outside =>
      cases coin' with
      | curve s' => cases hstep
      | pool p' outside' => exact ⟨hstep.accounted_of_pool haccounted, nofun⟩

end Coin

end Life

/-- The pool that opens when 150 of quote buy past the remainder of the launch
    curve. -/
def openedLedger : PoolLedger where
  pool := { amm.graduatedPool with
    protocol_fees := 0, creator_fees := 0, virtual_quote_reserves := ⟨0, by decide⟩ }
  base_vault := 118_212_401_676_826
  quote_vault := 148_753_472_903
  paid := boughtLedger.paid + 150_000_000_000
  received := boughtLedger.received
  fees := boughtLedger.fees + (150_000_000_000 - (84_020_137_387 + 63_763_113_843))

theorem openedLedger_migrates :
    Migrates launchGlobal boughtLedger 84_020_137_387 88_687_598_323_174 63_763_113_843
      150_000_000_000 openedLedger := by
  constructor <;> decide +kernel

/-- A sell on that pool, and the pool after it: its protocol and creator fees
    stay in the vault. -/
def openedSell : PoolQuote := .sell 1_000_000_000_000 ⟨1_229_084_967, 1_247_801_997⟩

def openedSold : PoolLedger where
  pool := { openedLedger.pool with
    protocol_fees := 12_478_020
    creator_fees := 6_239_010
    virtual_quote_reserves := ⟨-12_478_020 - 6_239_010, by decide⟩ }
  base_vault := 118_212_401_676_826 + 1_000_000_000_000
  quote_vault := 148_753_472_903 - 1_229_084_967
  paid := openedLedger.paid
  received := openedLedger.received + 1_229_084_967
  fees := openedLedger.fees + (12_478_020 + 6_239_010)

theorem openedLedger_sells :
    letI : Build := ⟨true⟩
    letI : Solana := amm.graduatedPoolAuthority
    PoolLedger.Trade openedSell openedLedger openedSold := by
  let _ : Build := ⟨true⟩
  let _ : Solana := amm.graduatedPoolAuthority
  let ctx : amm.AmmContext := poolContext GlobalConfig.default launchFees openedLedger.pool
    118_212_401_676_826 0 148_753_472_903 148_753_472_903
  have hrates : ctx.fee_bps = .ok ⟨0, 100, 50⟩ := by decide +kernel
  have hreads : PoolLedger.Reads openedLedger ctx (0, 100, 50) :=
    ⟨by decide +kernel, by decide +kernel, ⟨_, _, _, rfl⟩, _, hrates, by decide +kernel⟩
  have hsettles : PoolLedger.Settles openedLedger openedSold 1_000_000_000_000 0 0 1_229_084_967
      12_478_020 6_239_010 12_478_020 6_239_010 := by
    constructor
    case terms => rfl
    all_goals decide +kernel
  exact .sell hreads (by decide +kernel) (by decide +kernel) (by decide +kernel) hsettles

end pump_rust_client.sdk
