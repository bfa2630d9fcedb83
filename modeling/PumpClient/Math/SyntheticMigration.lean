import PumpClient.Math.BondingCurve.Quoters

open machine exchange

namespace pump_rust_client.math.synthetic_migration

open state utils fees bonding_curve

/-- The launch constants the published formulas are about. -/
structure Launch where
  v_quote : Nat
  v_tokens : Nat
  remaining : Nat
  raised : Nat
  protocol_bps : Nat
  creator_bps : Nat
  migration_fee : Nat

def ceil_fee (amount bps : Nat) : Nat := (amount * bps) ⌈/⌉ 10_000

namespace Launch

variable (l : Launch)

def with_curve_fees (amount : Nat) : Nat :=
  amount + ceil_fee amount l.protocol_bps + ceil_fee amount l.creator_bps

/-- Bonding-curve cost of the whole remainder: `floor(n * vq / (vt - n)) + 1`. -/
def ref_curve_quote : Nat := l.remaining * l.v_quote / (l.v_tokens - l.remaining) + 1

/-- `(pool_base, pool_quote)` the crossing buy prices its pool part on. -/
def ref_pool_to_be (base_ata : Nat) (sol_paired : Bool) : Nat × Nat :=
  (base_ata - l.remaining,
    l.raised + l.ref_curve_quote - if sol_paired then l.migration_fee else 0)

/-- `buy_v3` total cost for `tokens` past the remaining supply. -/
def ref_buy_v3_cost (base_ata tokens : Nat) (sol_paired : Bool) : Nat :=
  let (pool_base, pool_quote) := l.ref_pool_to_be base_ata sol_paired
  let out := tokens - l.remaining
  let leg_quote := (pool_quote * out) ⌈/⌉ (pool_base - out)
  l.with_curve_fees l.ref_curve_quote + l.with_curve_fees leg_quote

end Launch

/-- Exact-quote-in fee split: each fee ceil'd on the floored net, and any
    overshoot shaved off it. Returns `(net, charged)`. -/
def ref_exact_in (budget : Nat) (bps : List Nat) : Nat × Nat :=
  let net := budget * 10_000 / (10_000 + bps.sum)
  let fees := (bps.map (ceil_fee net)).sum
  let shaved := net - (net + fees - budget)
  (shaved, shaved + fees)

/-- Constant-product exact-in swap of `net - 1`. -/
def ref_swap (net in_reserve out_reserve : Nat) : Nat :=
  (net - 1) * out_reserve / (in_reserve + (net - 1))

/-- `buy_exact_quote_in_v3` past the remaining supply: `(tokens, charged)`. -/
def Launch.ref_buy_exact_quote_in_v3 (l : Launch) (budget base_ata : Nat) (sol_paired : Bool) :
    Nat × Nat :=
  let curve_total := l.with_curve_fees l.ref_curve_quote
  let (pool_base, pool_quote) := l.ref_pool_to_be base_ata sol_paired
  let (net, leg_charged) := ref_exact_in (budget - curve_total) [l.protocol_bps, l.creator_bps]
  let out := ref_swap net pool_quote pool_base
  if out = 0 then (l.remaining, curve_total) else (l.remaining + out, curve_total + leg_charged)

/-- The constants of a curve at its rates. -/
def launch (global : Global) (curve : BondingCurve) (bps : UInt64 × UInt64) : Launch where
  v_quote := curve.virtual_quote_reserves.toNat
  v_tokens := curve.virtual_token_reserves.toNat
  remaining := curve.real_token_reserves.toNat
  raised := curve.real_quote_reserves.toNat
  protocol_bps := bps.1.toNat
  creator_bps := bps.2.toNat
  migration_fee := global.pool_migration_fee.toNat

/-- Where the published formulas subtract, and nothing is below zero: the
    remainder has a price, the raise covers the migration fee, and the base ATA
    holds more than the remainder. -/
structure Launch.Opens (l : Launch) (base_ata : Nat) (sol_paired : Bool) : Prop where
  remaining_pos : 0 < l.remaining
  remaining_lt : l.remaining < l.v_tokens
  base : l.remaining < base_ata
  migration_fee : (if sol_paired then l.migration_fee else 0) < l.raised + l.ref_curve_quote
  raised_fits : l.raised + l.ref_curve_quote < 2 ^ 64

section Formulas

variable {global : Global} {curve : BondingCurve} {bps : UInt64 × UInt64}

theorem with_curve_fees_eq (amount : Nat) :
    (launch global curve bps).with_curve_fees amount = (curveSchedule bps).gross amount := by
  rw [FeeSchedule.gross, curveSchedule_fees]
  exact Nat.add_assoc _ _ _

theorem ref_exact_in_eq (bps : UInt64 × UInt64) (budget : Nat) :
    ref_exact_in budget [bps.1.toNat, bps.2.toNat] =
    ((curveSchedule bps).net budget, (curveSchedule bps).charge budget) := by
  have htotal := curveSchedule_total bps
  have hfees : ∀ n, ceil_fee n bps.1.toNat + ceil_fee n bps.2.toNat = (curveSchedule bps).fees n :=
    fun n => (curveSchedule_fees bps n).symm
  simp [ref_exact_in, FeeSchedule.charge, FeeSchedule.net, FeeSchedule.floorNet, htotal, hfees]

theorem ref_swap_eq (net in_reserve out_reserve : Nat) :
    ref_swap net in_reserve out_reserve = swapOut (net - 1) in_reserve out_reserve := rfl

/-- The pool-to-be is the published one, wherever that is one. -/
theorem ref_pool_to_be_iff [Build] (global : Global) (curve : BondingCurve)
    (bps : UInt64 × UInt64) (base_ata_amount : UInt64) (pool : UInt64 × UInt64) :
    (∃ net, buy_quote curve curve.real_token_reserves = .ok net ∧
      pool_to_be global curve base_ata_amount (is_sol_like_quote_mint curve.quote_mint)
        curve.real_token_reserves net = .ok pool) ↔
      (launch global curve bps).Opens base_ata_amount.toNat
          (is_sol_like_quote_mint curve.quote_mint) ∧
        (launch global curve bps).ref_pool_to_be base_ata_amount.toNat
          (is_sol_like_quote_mint curve.quote_mint) = (pool.1.toNat, pool.2.toNat) := by
  obtain ⟨base, quote⟩ := pool
  have hcost : (launch global curve bps).ref_curve_quote =
      swapInFloor curve.real_token_reserves.toNat curve.virtual_quote_reserves.toNat
        curve.virtual_token_reserves.toNat + 1 := rfl
  have hbase_lt := U64.toNat_lt base
  have hquote_lt := U64.toNat_lt quote
  simp only [Launch.ref_pool_to_be, Prod.mk.injEq]
  constructor
  · rintro ⟨net, hnet, hpool⟩
    obtain ⟨hpos, hlt, hprice⟩ := buy_quote_eq_ok_iff.mp hnet
    obtain ⟨hbase, hquote, hraised, hbase_pos, hquote_pos⟩ := pool_to_be_eq_ok_iff.mp hpool
    rw [hprice, ← hcost] at hquote hraised
    refine ⟨⟨hpos, hlt, ?_, ?_, hraised⟩, ?_, ?_⟩
    all_goals
      simp only [launch] at *
      omega
  · rintro ⟨hopens, hbase, hquote⟩
    obtain ⟨hpos, hlt, hleft, hfee, hraised⟩ := hopens
    simp only [launch] at hpos hlt hleft hfee hraised hbase hquote
    have hnet := U64.toNat_cast_of_lt (n := (launch global curve bps).ref_curve_quote)
      (by simp only [launch]; omega)
    refine ⟨U64.cast (launch global curve bps).ref_curve_quote,
      buy_quote_eq_ok_iff.mpr ⟨hpos, hlt, hnet.trans hcost⟩, pool_to_be_eq_ok_iff.mpr ?_⟩
    rw [hnet]
    simp only [launch]
    omega

/-- An opening that the formulas allow has a pool. -/
theorem Launch.Opens.pool {l : Launch} {base_ata_amount : UInt64} {sol_paired : Bool}
    (h : l.Opens base_ata_amount.toNat sol_paired) : ∃ pool : UInt64 × UInt64,
      l.ref_pool_to_be base_ata_amount.toNat sol_paired = (pool.1.toNat, pool.2.toNat) := by
  have hlt := U64.toNat_lt base_ata_amount
  have hraised := h.raised_fits
  let base := base_ata_amount.toNat - l.remaining
  let quote := l.raised + l.ref_curve_quote - if sol_paired then l.migration_fee else 0
  have hbase : (U64.cast base).toNat = base := U64.toNat_cast_of_lt (by omega)
  have hquote : (U64.cast quote).toNat = quote := U64.toNat_cast_of_lt (by omega)
  exact ⟨(U64.cast base, U64.cast quote), by rw [hbase, hquote]; rfl⟩

/-- The published cost of tokens past the remainder is that of the curve glued
    to the pool. -/
theorem ref_buy_v3_cost_eq {base_ata tokens : Nat} {sol_paired : Bool} {pool : UInt64 × UInt64}
    (hpool : (launch global curve bps).ref_pool_to_be base_ata sol_paired =
      (pool.1.toNat, pool.2.toNat)) (hpast : curve.real_token_reserves.toNat < tokens) :
    (launch global curve bps).ref_buy_v3_cost base_ata tokens sol_paired =
      ((quoter curve bps).glue curve.real_token_reserves.toNat (legQuoter pool bps)).cost tokens := by
  rw [Quoter.glue_cost_of_lt hpast, Launch.ref_buy_v3_cost, hpool]
  dsimp only
  rw [with_curve_fees_eq, with_curve_fees_eq, Nat.mul_comm pool.2.toNat]
  rfl

/-- What the published formula buys and charges past the remainder is what the
    curve glued to the pool does. -/
theorem ref_buy_exact_quote_in_v3_eq {base_ata budget : Nat} {sol_paired : Bool}
    {pool : UInt64 × UInt64}
    (hpool : (launch global curve bps).ref_pool_to_be base_ata sol_paired =
      (pool.1.toNat, pool.2.toNat))
    (hcross : curve.real_token_reserves.toNat < (quoter curve bps).out budget) :
    (launch global curve bps).ref_buy_exact_quote_in_v3 budget base_ata sol_paired =
      (((quoter curve bps).glue curve.real_token_reserves.toNat (legQuoter pool bps)).out budget,
        ((quoter curve bps).glue curve.real_token_reserves.toNat (legQuoter pool bps)).charge
          budget) := by
  have hcurve : (launch global curve bps).with_curve_fees (launch global curve bps).ref_curve_quote =
      (quoter curve bps).cost curve.real_token_reserves.toNat := with_curve_fees_eq _
  have hsplit := ref_exact_in_eq bps
    (budget - (quoter curve bps).cost curve.real_token_reserves.toNat)
  have hleg : (legQuoter pool bps).out
      (budget - (quoter curve bps).cost curve.real_token_reserves.toNat) = _ := legQuoter_out pool _
  rw [Quoter.glue_out_of_lt hcross, Quoter.glue_charge_of_lt hcross,
    Launch.ref_buy_exact_quote_in_v3, hpool, hcurve]
  dsimp only [launch]
  rw [hsplit]
  dsimp only
  rw [ref_swap_eq, ← hleg]
  rcases Nat.eq_zero_or_pos ((legQuoter pool bps).out
    (budget - (quoter curve bps).cost curve.real_token_reserves.toNat)) with hnone | hbuys
  · rw [hnone, if_pos rfl, if_neg (lt_irrefl 0)]
    rfl
  · rw [if_neg hbuys.ne', if_pos hbuys]
    rfl

end Formulas

end pump_rust_client.math.synthetic_migration
