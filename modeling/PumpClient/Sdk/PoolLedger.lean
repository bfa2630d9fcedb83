import PumpClient.Exchange.Market
import PumpClient.Math.Amm.Bracket
import PumpClient.Sdk.Payable
import PumpClient.Sdk.Sweep

open machine exchange Relation

namespace pump_rust_client.sdk

open state state.pump_amm math math.fees math.amm

/-- A trade of a pool, by what it was asked for and what it was quoted. -/
inductive PoolQuote where
  | buy_exact_in (quote_in : UInt64) (res : BuyQuoteInputResult)
  | buy_exact_out (base_out : UInt64) (res : BuyBaseInputResult)
  | sell (base_in : UInt64) (res : SellBaseInputResult)
  | hop (is_buy : Bool) (amount_in out : UInt64)

namespace PoolQuote

/-- The base its trader gives. -/
def base_in : PoolQuote → Nat
  | sell base_in _ => base_in.toNat
  | hop false amount_in _ => amount_in.toNat
  | buy_exact_in .. | buy_exact_out .. | hop true .. => 0

/-- The base its trader takes. -/
def base_out : PoolQuote → Nat
  | buy_exact_in _ res => res.base_amount_out.toNat
  | buy_exact_out base_out _ => base_out.toNat
  | hop true _ out => out.toNat
  | sell .. | hop false .. => 0

end PoolQuote

/-- A pool with the balances of its vaults, what its traders have paid and
    received, and what of either went to protocol and creator fees. -/
structure PoolLedger where
  pool : Pool
  base_vault : UInt64
  quote_vault : UInt64
  paid : Nat
  received : Nat
  fees : Nat

namespace PoolLedger

/-- The un-swept fees in the quote vault. -/
def buckets (s : PoolLedger) : Nat := s.pool.protocol_fees.toNat + s.pool.creator_fees.toNat

/-- The quote the pool prices on, before it has to fit `u64`. -/
def effective (s : PoolLedger) : Int := s.quote_vault.toNat + s.pool.virtual_quote_reserves.val

def market (s : PoolLedger) : Market where
  quote := s.effective.toNat
  tokens := s.base_vault.toNat
  paid := s.paid
  received := s.received
  fees := s.fees

/-- A pool that trades and whose books are straight: it has something on both
    sides, its virtual reserve is its boost less the un-swept fees, and its vault
    holds those. -/
structure Sound (boost : Int) (s : PoolLedger) : Prop where
  base_pos : 0 < s.base_vault.toNat
  effective_pos : 0 < s.effective
  boosted : s.pool.virtual_quote_reserves.val = boost - s.buckets
  covered : s.buckets ≤ s.quote_vault.toNat

/-- `t` is `s` after a sweep. -/
def Swept (s t : PoolLedger) : Prop :=
  ∃ sweep : Sweep s.pool s.quote_vault,
    t = { s with pool := sweep.swept, quote_vault := sweep.vault }

/-- What `s'` has over `s` once a trade is settled. Of the protocol and creator
    fees what was kept stays in the quote vault, in the pool's buckets and out of
    its price; the rest has been paid on. -/
structure Settles (s s' : PoolLedger) (base_in base_out quote_in quote_out protocol creator
    protocol_kept creator_kept : Nat) : Prop where
  protocol_le : protocol_kept ≤ protocol
  creator_le : creator_kept ≤ creator
  base_vault : s'.base_vault.toNat + base_out = s.base_vault.toNat + base_in
  quote_vault : s'.quote_vault.toNat + quote_out + (protocol - protocol_kept) +
    (creator - creator_kept) = s.quote_vault.toNat + quote_in
  protocol_fees : s'.pool.protocol_fees.toNat = s.pool.protocol_fees.toNat + protocol_kept
  creator_fees : s'.pool.creator_fees.toNat = s.pool.creator_fees.toNat + creator_kept
  virtual : s'.pool.virtual_quote_reserves.val =
    s.pool.virtual_quote_reserves.val - protocol_kept - creator_kept
  terms : s'.pool = { s.pool with
    protocol_fees := s'.pool.protocol_fees
    creator_fees := s'.pool.creator_fees
    virtual_quote_reserves := s'.pool.virtual_quote_reserves }
  paid : s'.paid = s.paid + quote_in
  received : s'.received = s.received + quote_out
  fees : s'.fees = s.fees + (protocol + creator)

section Settling

variable {s s' t : PoolLedger} {boost : Int}
  {base_in base_out quote_in quote_out protocol creator protocol_kept creator_kept : Nat}

theorem Settles.effective_eq (h : Settles s s' base_in base_out quote_in quote_out protocol creator
    protocol_kept creator_kept) :
    s'.effective = s.effective + quote_in - quote_out - protocol - creator := by
  have hprotocol := h.protocol_le
  have hcreator := h.creator_le
  have hvault := h.quote_vault
  have hvirtual := h.virtual
  unfold effective
  omega

theorem effective_of_read {quote_reserve : UInt64}
    (h : effective_quote_reserve s.pool s.quote_vault = .ok quote_reserve) :
    s.effective.toNat = quote_reserve.toNat := by
  have heffective := effective_quote_reserve_eq_ok_iff.mp h
  unfold effective
  omega

/-- A sound pool has its boost and what it really holds to price on. -/
theorem Sound.reserves (sound : s.Sound boost) :
    ∃ real_quote, real_quote_reserve s.pool s.quote_vault = .ok real_quote ∧
      s.effective = real_quote.toNat + boost := by
  have hcovered := sound.covered
  have hboosted := sound.boosted
  have hvault := U64.toNat_lt s.quote_vault
  have hcast := U64.toNat_cast_of_lt (n := s.quote_vault.toNat - s.buckets) (by omega)
  refine ⟨U64.cast (s.quote_vault.toNat - s.buckets), real_quote_reserve_eq_ok_iff.mpr ?_, ?_⟩
  · rw [hcast]
    exact Nat.sub_add_cancel hcovered
  · rw [hcast]
    unfold effective
    omega

/-- Kept fees go into the buckets, so that the boost stays and the vault still
    covers them, as long as what left came out of liquidity. -/
theorem Settles.sound (h : Settles s s' base_in base_out quote_in quote_out protocol creator
      protocol_kept creator_kept) (sound : s.Sound boost)
    (hpayable : quote_out + protocol + creator + s.buckets ≤ s.quote_vault.toNat + quote_in)
    (hbase : 0 < s'.base_vault.toNat) (heffective : 0 < s'.effective) : s'.Sound boost := by
  have hprotocol := h.protocol_le
  have hcreator := h.creator_le
  have hvault := h.quote_vault
  have hprotocol_fees := h.protocol_fees
  have hcreator_fees := h.creator_fees
  have hvirtual := h.virtual
  have hboosted := sound.boosted
  refine ⟨hbase, heffective, ?_, ?_⟩
  · unfold buckets at *
    omega
  · unfold buckets at *
    omega

/-- A buy on terms that keep the product: the raw quote and the LP fee join the
    price. -/
theorem Settles.buy (raw lp : Nat) (h : Settles s s' 0 base_out quote_in 0 protocol creator
      protocol_kept creator_kept) (sound : s.Sound boost)
    (hin : quote_in = raw + lp + protocol + creator)
    (hproduct : s.effective.toNat * s.base_vault.toNat ≤
      (s.effective.toNat + raw) * (s.base_vault.toNat - base_out))
    (hleft : base_out < s.base_vault.toNat) :
    s'.Sound boost ∧ Market.Follows s.market s'.market := by
  have heffective := h.effective_eq
  have hpos := sound.effective_pos
  have hcovered := sound.covered
  have hbase := h.base_vault
  have hquote : s'.effective.toNat = s.effective.toNat + (raw + lp) := by omega
  refine ⟨h.sound sound (by omega) (by omega) (by omega), ?_⟩
  refine .of_buy (raw + lp) (protocol + creator) base_out ?_ hquote hbase ?_
    h.received h.fees
  · change s.effective.toNat * s.base_vault.toNat ≤
      (s.effective.toNat + (raw + lp)) * (s.base_vault.toNat - base_out)
    exact hproduct.trans (Nat.mul_le_mul_right _ (by omega))
  · exact h.paid.trans (by rw [hin, Nat.add_assoc (raw + lp)]; rfl)

/-- A sell that the vault's liquidity pays: all of the swap but the LP fee leaves
    the price. -/
theorem Settles.sell (gross lp : Nat) (h : Settles s s' base_in 0 0 quote_out protocol creator
      protocol_kept creator_kept) (sound : s.Sound boost)
    (hgross : gross = swapOut base_in s.base_vault.toNat s.effective.toNat)
    (hsplit : gross = quote_out + lp + protocol + creator)
    (hpayable : quote_out + protocol + creator + s.buckets ≤ s.quote_vault.toNat) :
    s'.Sound boost ∧ Market.Follows s.market s'.market := by
  have heffective := h.effective_eq
  have hpos := sound.effective_pos
  have hbase_pos := sound.base_pos
  have hbase := h.base_vault
  have hlt : gross < s.effective.toNat := hgross ▸ swapOut_lt hbase_pos (by omega)
  refine ⟨h.sound sound (by omega) (by omega) (by omega), ?_⟩
  refine .of_sell base_in (quote_out + (protocol + creator)) quote_out (protocol + creator) ?_ rfl
    ?_ ?_ h.paid h.received h.fees
  · change _ ≤ swapOut base_in s.base_vault.toNat s.effective.toNat
    omega
  · change s'.effective.toNat + _ = s.effective.toNat
    omega
  · exact hbase

theorem Swept.refl (s : PoolLedger) : Swept s s := by
  let none_swept : Sweep s.pool s.quote_vault := {
    protocol := 0
    creator := 0
    virtual_quote_reserves := s.pool.virtual_quote_reserves
    protocol_le := Nat.zero_le _
    creator_le := Nat.zero_le _
    covered := Nat.zero_le _
    virtual_eq := by simp }
  have hpool : none_swept.swept = s.pool := by simp [none_swept, Sweep.swept]
  have hvault : none_swept.vault = s.quote_vault := by simp [none_swept, Sweep.vault]
  exact ⟨none_swept, by rw [hpool, hvault]⟩

/-- Sweeping moves the vault and the buckets together, and the price not at
    all. -/
theorem Swept.market_eq (swept : Swept s t) : t.market = s.market := by
  obtain ⟨sweep, rfl⟩ := swept
  have hvault := sweep.toNat_vault
  have hvirtual := sweep.virtual_eq
  have hprice : effective { s with pool := sweep.swept, quote_vault := sweep.vault } =
      s.effective := by
    simp only [effective, Sweep.swept]
    omega
  simp only [market, hprice]

theorem Swept.sound (swept : Swept s t) (sound : s.Sound boost) : t.Sound boost := by
  obtain ⟨sweep, rfl⟩ := swept
  have hvault := sweep.toNat_vault
  have hprotocol : (s.pool.protocol_fees - sweep.protocol).toNat =
      s.pool.protocol_fees.toNat - sweep.protocol.toNat := U64.toNat_sub_of_le sweep.protocol_le
  have hcreator : (s.pool.creator_fees - sweep.creator).toNat =
      s.pool.creator_fees.toNat - sweep.creator.toNat := U64.toNat_sub_of_le sweep.creator_le
  have hprotocol_le := sweep.protocol_le
  have hcreator_le := sweep.creator_le
  have hvirtual := sweep.virtual_eq
  have hboosted := sound.boosted
  have hcovered := sound.covered
  have hpos := sound.effective_pos
  refine ⟨sound.base_pos, ?_, ?_, ?_⟩
  · simp only [effective, Sweep.swept] at *
    omega
  · simp only [buckets, Sweep.swept] at *
    omega
  · simp only [buckets, Sweep.swept] at *
    omega

/-- A sell at its gross swap takes its payout and the fees that leave out of
    the vault's liquidity. -/
theorem Settles.sell_of_checks {rates : UInt64 × UInt64 × UInt64}
    {amount out real_quote : UInt64} {gross : Nat}
    (settles : Settles s s' amount.toNat 0 0 out.toNat ((schedule rates).fee gross rates.2.1.toNat)
      ((schedule rates).fee gross rates.2.2.toNat) protocol_kept creator_kept)
    (sound : s.Sound boost)
    (hgross : gross = swapOut amount.toNat s.base_vault.toNat s.effective.toNat)
    (hfees : (schedule rates).fees gross ≤ gross)
    (hcovered : gross - (schedule rates).fee gross rates.1.toNat ≤ real_quote.toNat)
    (hreal : real_quote_reserve s.pool s.quote_vault = .ok real_quote)
    (hout : out.toNat = gross - (schedule rates).fees gross) :
    s'.Sound boost ∧ Market.Follows s.market s'.market := by
  have hsplit := schedule_fees rates gross
  have hvault := real_quote_reserve_eq_ok_iff.mp hreal
  apply settles.sell gross ((schedule rates).fee gross rates.1.toNat) sound hgross (by omega)
  unfold buckets
  omega

end Settling

section Trades

variable [Build] [Solana]

/-- The context a direct trade on the pool is priced in, and the rates it
    charges. -/
structure Reads (s : PoolLedger) (ctx : AmmContext) (rates : UInt64 × UInt64 × UInt64) : Prop where
  effective : effective_quote_reserve s.pool s.quote_vault = .ok ctx.quote_reserve
  real : real_quote_reserve s.pool s.quote_vault = .ok ctx.real_quote_reserve
  context : ∃ global_config fee_config base_mint_supply, ctx = poolContext global_config fee_config
    s.pool s.base_vault base_mint_supply ctx.quote_reserve ctx.real_quote_reserve
  rates : ∃ bps, ctx.fee_bps = .ok bps ∧ rates = ctx.charged_bps bps

/-- One trade of a pool at its own quote, an exact-out buy at its exact cost. The
    configuration may be another one at every trade, and any part of the protocol
    and creator fees may be kept in the vault. -/
inductive Trade : PoolQuote → PoolLedger → PoolLedger → Prop
  | buy_exact_in {s s' : PoolLedger} {ctx : AmmContext} {rates : UInt64 × UInt64 × UInt64}
      {quote_in net lp protocol creator : UInt64} {res : BuyQuoteInputResult}
      {protocol_kept creator_kept : Nat} (reads : Reads s ctx rates)
      (hquote : buy_quote_input ctx quote_in = .ok res)
      (hsplit : exact_in_fee_amounts quote_in rates = .ok (net, lp, protocol, creator))
      (settles : Settles s s' 0 res.base_amount_out.toNat
        (net.toNat + lp.toNat + protocol.toNat + creator.toNat) 0 protocol.toNat creator.toNat
        protocol_kept creator_kept) : Trade (.buy_exact_in quote_in res) s s'
  | buy_exact_out {s s' : PoolLedger} {ctx : AmmContext} {rates : UInt64 × UInt64 × UInt64}
      {base_out : UInt64} {res : BuyBaseInputResult} {lp protocol creator : Nat}
      {protocol_kept creator_kept : Nat} (reads : Reads s ctx rates)
      (hquote : buy_base_input ctx base_out = .ok res)
      -- the quoted cost is the exact one
      (hexact : ExactCost ctx base_out res.total_quote_in)
      (hlp : fee_amount res.raw_quote_in.toNat rates.1 = .ok lp)
      (hprotocol : fee_amount res.raw_quote_in.toNat rates.2.1 = .ok protocol)
      (hcreator : fee_amount res.raw_quote_in.toNat rates.2.2 = .ok creator)
      (settles : Settles s s' 0 base_out.toNat
        (res.raw_quote_in.toNat + lp + protocol + creator) 0 protocol creator
        protocol_kept creator_kept) : Trade (.buy_exact_out base_out res) s s'
  | sell {s s' : PoolLedger} {ctx : AmmContext} {rates : UInt64 × UInt64 × UInt64}
      {base_in : UInt64} {res : SellBaseInputResult} {protocol creator : Nat}
      {protocol_kept creator_kept : Nat} (reads : Reads s ctx rates)
      (hquote : sell_base_input ctx base_in = .ok res)
      (hprotocol : fee_amount res.raw_quote_out.toNat rates.2.1 = .ok protocol)
      (hcreator : fee_amount res.raw_quote_out.toNat rates.2.2 = .ok creator)
      (settles : Settles s s' base_in.toNat 0 0 res.final_quote_out.toNat protocol creator
        protocol_kept creator_kept) : Trade (.sell base_in res) s s'
  | hop_buy {s s' : PoolLedger} {global_config : GlobalConfig} {fee_config : FeeConfig}
      {base_mint_supply quote_reserve amount_in out net lp protocol creator : UInt64}
      {legs : HopFees} {bps : AmmFeeBps} {protocol_kept creator_kept : Nat}
      (hquote : multi_hop_pool_hop global_config fee_config s.pool s.base_vault s.quote_vault
        base_mint_supply true amount_in legs = .ok out)
      (heffective : effective_quote_reserve s.pool s.quote_vault = .ok quote_reserve)
      (hbps : compute_amm_fee_bps global_config fee_config s.pool.base_mint s.pool.creator
        s.pool.quote_mint s.pool.creator_fee_bps base_mint_supply s.base_vault quote_reserve =
        .ok bps)
      (hsplit : exact_in_fee_amounts amount_in (hop_fee_bps s.pool legs bps) =
        .ok (net, lp, protocol, creator))
      (settles : Settles s s' 0 out.toNat amount_in.toNat 0 protocol.toNat creator.toNat
        protocol_kept creator_kept) : Trade (.hop true amount_in out) s s'
  | hop_sell {s s' : PoolLedger} {global_config : GlobalConfig} {fee_config : FeeConfig}
      {base_mint_supply quote_reserve amount_in out : UInt64} {gross protocol creator : Nat}
      {legs : HopFees} {bps : AmmFeeBps} {protocol_kept creator_kept : Nat}
      (hquote : multi_hop_pool_hop global_config fee_config s.pool s.base_vault s.quote_vault
        base_mint_supply false amount_in legs = .ok out)
      (heffective : effective_quote_reserve s.pool s.quote_vault = .ok quote_reserve)
      (hbps : compute_amm_fee_bps global_config fee_config s.pool.base_mint s.pool.creator
        s.pool.quote_mint s.pool.creator_fee_bps base_mint_supply s.base_vault quote_reserve =
        .ok bps)
      (hgross : sell_quote s.base_vault quote_reserve amount_in = .ok gross)
      (hprotocol : fee_amount gross (hop_fee_bps s.pool legs bps).2.1 = .ok protocol)
      (hcreator : fee_amount gross (hop_fee_bps s.pool legs bps).2.2 = .ok creator)
      (settles : Settles s s' amount_in.toNat 0 0 out.toNat protocol creator
        protocol_kept creator_kept) : Trade (.hop false amount_in out) s s'

/-- What can happen to a pool: a trade, or a sweep of its buckets. -/
inductive Step : PoolLedger → PoolLedger → Prop
  | trade {s s' : PoolLedger} {quote : PoolQuote} (htrade : Trade quote s s') : Step s s'
  | sweep {s s' : PoolLedger} (hswept : Swept s s') : Step s s'

variable {s s' : PoolLedger} {quote : PoolQuote} {boost : Int} {ctx : AmmContext}
  {rates : UInt64 × UInt64 × UInt64}

theorem Reads.effective_eq (reads : Reads s ctx rates) :
    s.effective.toNat = ctx.quote_reserve.toNat := effective_of_read reads.effective

theorem Reads.base_eq (reads : Reads s ctx rates) : s.base_vault = ctx.base_reserve := by
  obtain ⟨_, _, _, hctx⟩ := reads.context
  rw [hctx]
  rfl

/-- Every trade keeps the books straight and the market going. -/
theorem Trade.sound_follows (htrade : Trade quote s s') (sound : s.Sound boost) :
    s'.Sound boost ∧ Market.Follows s.market s'.market := by
  cases htrade with
  | @buy_exact_in _ _ ctx rates quote_in net lp protocol creator res _ _ reads hquote hsplit
      settles =>
    obtain ⟨-, hreserves, bps, hbps, -, -, hout⟩ := buy_quote_input_base_out hquote
    obtain ⟨hbase_pos, hquote_pos⟩ := AmmContext.check_reserves_eq_ok_iff.mp hreserves
    obtain ⟨bps', hbps', rfl⟩ := reads.rates
    obtain rfl : bps' = bps := Except.ok.inj (hbps'.symm.trans hbps)
    obtain ⟨-, hnet, -⟩ := exact_in_fee_amounts_ok hsplit
    rw [← hnet, ← reads.effective_eq, ← reads.base_eq] at hout
    rw [← reads.effective_eq] at hquote_pos
    rw [← reads.base_eq] at hbase_pos
    refine settles.buy net.toNat lp.toNat sound rfl ?_ (hout ▸ swapOut_lt hquote_pos hbase_pos)
    exact mul_le_mul_of_le_swapOut (Nat.sub_le _ 1) hout.le
  | @buy_exact_out _ _ ctx rates base_out res lp protocol creator _ _ reads hquote hexact _ _ _
      settles =>
    obtain ⟨hopen, hreserves, hlt, -⟩ := buy_base_input_ok hquote
    obtain ⟨-, hquote_pos⟩ := AmmContext.check_reserves_eq_ok_iff.mp hreserves
    obtain ⟨bps, hbps, hcost⟩ := hexact
    have hfits : ctx.total_quote bps base_out < 2 ^ 64 := hcost ▸ U64.toNat_lt _
    have hraw := ctx.raw_quote_le_total_quote bps base_out
    rw [buy_base_input_of_fits hopen hreserves hlt hbps hfits] at hquote
    cases hquote
    rw [U64.toNat_cast_of_lt (hraw.trans_lt hfits)] at settles
    have hlt_nat := UInt64.lt_iff_toNat_lt.mp hlt
    have hbuys : base_out.toNat ≤ swapOut (ctx.raw_quote base_out) ctx.quote_reserve.toNat
        ctx.base_reserve.toNat := (swapInCeil_le_iff_le_swapOut hquote_pos hlt_nat).mp le_rfl
    rw [← reads.effective_eq, ← reads.base_eq] at hbuys
    rw [← reads.base_eq] at hlt_nat
    exact settles.buy (ctx.raw_quote base_out) lp sound rfl
      (mul_le_mul_of_le_swapOut le_rfl hbuys) hlt_nat
  | @sell _ _ ctx rates base_in res protocol creator _ _ reads hquote hprotocol hcreator settles =>
    obtain ⟨-, -, bps, hbps, hfees, hcovered, rfl⟩ := (sell_base_input_ok_iff rfl).mp hquote
    obtain ⟨bps', hbps', rfl⟩ := reads.rates
    obtain rfl : bps' = bps := Except.ok.inj (hbps'.symm.trans hbps)
    have hle := swapOut_le base_in.toNat ctx.base_reserve.toNat ctx.quote_reserve.toNat
    have hgross_lt := hle.trans_lt (U64.toNat_lt _)
    dsimp only at hprotocol hcreator settles
    rw [U64.toNat_cast_of_lt hgross_lt, fee_amount_of_lt hgross_lt] at hprotocol hcreator
    obtain rfl := Except.ok.inj hprotocol
    obtain rfl := Except.ok.inj hcreator
    refine Settles.sell_of_checks settles sound ?_ hfees hcovered reads.real
      (U64.toNat_cast_of_lt ((Nat.sub_le _ _).trans_lt hgross_lt))
    rw [reads.base_eq, reads.effective_eq]
  | @hop_buy _ _ gc fc supply quote_reserve amount_in out net lp protocol creator legs bps _ _ hquote
      heffective hbps hsplit settles =>
    obtain ⟨hopen, real_quote, quote_reserve', rates', venue⟩ := multi_hop_pool_hop_venue hquote
    obtain rfl : quote_reserve' = quote_reserve :=
      Except.ok.inj (venue.effective.symm.trans heffective)
    obtain ⟨bps', hbps', rfl⟩ := venue.charged
    obtain rfl : bps' = bps := Except.ok.inj (hbps'.symm.trans hbps)
    rw [venue.buy_eq hopen] at hquote
    split at hquote
    · simp at hquote
    have hbought := swapOut_lt (n := (schedule (hop_fee_bps s.pool legs bps')).wholeNet
      amount_in.toNat - 1) venue.quote_pos venue.base_pos
    cases hquote
    rw [U64.toNat_cast_of_lt (hbought.trans (U64.toNat_lt _))] at settles
    obtain ⟨hpos, -, hlp, hprotocol, hcreator⟩ := exact_in_fee_amounts_ok hsplit
    have hcharge := FeeSchedule.charge_le hpos
    have hfees := schedule_fees (hop_fee_bps s.pool legs bps')
      ((schedule (hop_fee_bps s.pool legs bps')).floorNet amount_in.toNat)
    refine settles.buy ((schedule (hop_fee_bps s.pool legs bps')).wholeNet amount_in.toNat) lp.toNat
      sound ?_ ?_ hbought
    · unfold FeeSchedule.charge at hcharge
      unfold FeeSchedule.wholeNet
      omega
    · rw [effective_of_read heffective]
      exact mul_le_mul_of_le_swapOut (Nat.sub_le _ 1) le_rfl
  | @hop_sell _ _ gc fc supply quote_reserve amount_in out gross protocol creator legs bps _ _ hquote
      heffective hbps hgross hprotocol hcreator settles =>
    obtain ⟨hopen, real_quote, quote_reserve', rates', venue⟩ := multi_hop_pool_hop_venue hquote
    obtain rfl : quote_reserve' = quote_reserve :=
      Except.ok.inj (venue.effective.symm.trans heffective)
    obtain ⟨bps', hbps', rfl⟩ := venue.charged
    obtain rfl : bps' = bps := Except.ok.inj (hbps'.symm.trans hbps)
    obtain ⟨hfees, hcovered, rfl⟩ := (venue.sell_ok_iff hopen rfl).mp hquote
    have hle := swapOut_le amount_in.toNat s.base_vault.toNat quote_reserve'.toNat
    have hgross_lt := hle.trans_lt (U64.toNat_lt _)
    rw [sell_quote_eq _ _ venue.base_pos] at hgross
    obtain rfl := Except.ok.inj hgross
    rw [fee_amount_of_lt hgross_lt] at hprotocol hcreator
    obtain rfl := Except.ok.inj hprotocol
    obtain rfl := Except.ok.inj hcreator
    refine Settles.sell_of_checks settles sound ?_ hfees.le hcovered venue.real
      (U64.toNat_cast_of_lt ((Nat.sub_le _ _).trans_lt hgross_lt))
    rw [effective_of_read heffective]

/-- A trade moves the base it was quoted on between the vault and its trader. -/
theorem Trade.base_vault_eq (htrade : Trade quote s s') :
    s'.base_vault.toNat + quote.base_out = s.base_vault.toNat + quote.base_in := by
  cases htrade <;> exact Settles.base_vault ‹_›

theorem Step.sound_follows (hstep : Step s s') (sound : s.Sound boost) :
    s'.Sound boost ∧ Market.Follows s.market s'.market := by
  cases hstep with
  | trade htrade => exact htrade.sound_follows sound
  | sweep hswept => exact ⟨hswept.sound sound, hswept.market_eq ▸ .refl _⟩

/-- The run of a sound pool. -/
theorem run_sound_follows (sound : s.Sound boost) (hrun : ReflTransGen Step s s') :
    s'.Sound boost ∧ Market.Follows s.market s'.market :=
  Market.follows_of_run market (fun _ _ sound hstep => hstep.sound_follows sound) sound hrun

end Trades

end PoolLedger

end pump_rust_client.sdk
