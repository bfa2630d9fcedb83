import PumpClient.Math.Amm
import PumpClient.Math.BondingCurve.Kernels

open machine

namespace pump_rust_client.math

namespace utils

/-- How far off its target a market cap may be. -/
def allowance (target_market_cap : Nat) (slippage_bps : UInt16) : Nat :=
  target_market_cap * slippage_bps.toNat / 10_000

/-- The target has bounds on both sides, and `u128` holds them. -/
structure Bounded (target_market_cap : Nat) (slippage_bps : UInt16) : Prop where
  product : target_market_cap * slippage_bps.toNat < 2 ^ 128
  low : allowance target_market_cap slippage_bps ≤ target_market_cap
  high : target_market_cap + allowance target_market_cap slippage_bps < 2 ^ 128

theorem slippage_bounds_eq_some_iff {value min max : Nat} {bps : UInt16} :
    slippage_bounds value bps = some (min, max) ↔
      Bounded value bps ∧ min + allowance value bps = value ∧
        max = value + allowance value bps := by
  by_cases hproduct : value * bps.toNat < 2 ^ 128
  · have hdelta : U128.checked_div (value * bps.toNat) 10_000 = some (allowance value bps) :=
      U128.checked_div_of_pos (by decide)
    simp only [slippage_bounds, U128.checked_mul_of_lt hproduct, hdelta, Option.bind_eq_bind,
      Option.bind_some, Option.bind_eq_some_iff, U128.checked_sub_eq_some_iff,
      U128.checked_add_eq_some_iff, Option.some.injEq, Prod.mk.injEq]
    constructor
    · rintro ⟨_, hmin, _, ⟨hmax, hlt⟩, rfl, rfl⟩
      exact ⟨⟨hproduct, by omega, by omega⟩, hmin, hmax⟩
    · rintro ⟨hbounded, hmin, hmax⟩
      exact ⟨min, hmin, max, ⟨hmax, hbounded.high⟩, rfl, rfl⟩
  · have hnone : U128.checked_mul value bps.toNat = none := if_neg hproduct
    simp only [slippage_bounds, hnone, Option.bind_eq_bind, Option.bind_none, reduceCtorEq,
      false_iff]
    exact fun h => hproduct h.1.product

theorem slippage_bounds_eq_none_iff {value : Nat} {bps : UInt16} :
    slippage_bounds value bps = none ↔ ¬ Bounded value bps := by
  rw [← not_iff_not, not_not, ← ne_eq, Option.ne_none_iff_exists']
  constructor
  · rintro ⟨⟨min, max⟩, h⟩
    exact (slippage_bounds_eq_some_iff.mp h).1
  · intro h
    exact ⟨(_, _), slippage_bounds_eq_some_iff.mpr ⟨h, Nat.sub_add_cancel h.low, rfl⟩⟩

end utils

open utils

namespace bonding_curve

/-- What the whole supply is worth at a price, rounded down. -/
def marketCap (quote base : UInt64) : Nat := TOKEN_SUPPLY * quote.toNat / base.toNat

/-- The market cap lies between the bounds around its target. -/
def WithinTarget (quote base : UInt64) (target_market_cap : Nat) (slippage_bps : UInt16) : Prop :=
  marketCap quote base ≤ target_market_cap + allowance target_market_cap slippage_bps ∧
    target_market_cap ≤ marketCap quote base + allowance target_market_cap slippage_bps

instance (quote base : UInt64) (target_market_cap : Nat) (slippage_bps : UInt16) :
    Decidable (WithinTarget quote base target_market_cap slippage_bps) :=
  inferInstanceAs (Decidable (_ ∧ _))

/-- The market cap itself always fits `u128`: only a side without tokens
    stops it. -/
theorem market_cap_eq {quote base : UInt64} (hbase : 0 < base.toNat) :
    mul_div_u128 TOKEN_SUPPLY quote.toNat base.toNat = .ok (marketCap quote base) :=
  have hsupply : TOKEN_SUPPLY < 2 ^ 64 := by decide
  mul_div_u128_eq (U128.mul_lt hsupply (U64.toNat_lt _)) hbase

theorem validate_market_cap_eq {quote base : UInt64} {target : Nat} {bps : UInt16}
    (hbase : 0 < base.toNat) (hbounded : Bounded target bps) :
    validate_market_cap quote base target bps =
      if WithinTarget quote base target bps then .ok () else Outcome.err .SlippageExceeded := by
  have hlow := hbounded.low
  have hbounds := slippage_bounds_eq_some_iff.mpr ⟨hbounded, Nat.sub_add_cancel hlow, rfl⟩
  rw [validate_market_cap, market_cap_eq hbase, Outcome.ok_bind, hbounds, Outcome.ok_or_some,
    Outcome.ok_bind]
  by_cases hwithin : WithinTarget quote base target bps
  · rw [if_pos hwithin]
    have hin := hwithin
    unfold WithinTarget at hin
    exact if_neg (by omega)
  · rw [if_neg hwithin]
    unfold WithinTarget at hwithin
    exact if_pos (by omega)

theorem validate_market_cap_overflow {quote base : UInt64} {target : Nat} {bps : UInt16}
    (h : ¬ (0 < base.toNat ∧ Bounded target bps)) :
    validate_market_cap quote base target bps = Outcome.err .MathOverflow := by
  by_cases hbase : 0 < base.toNat
  · have hnone := slippage_bounds_eq_none_iff.mpr fun hbounded => h ⟨hbase, hbounded⟩
    rw [validate_market_cap, market_cap_eq hbase, Outcome.ok_bind, hnone, Outcome.ok_or_none,
      Outcome.err_bind]
  · have hsupply : TOKEN_SUPPLY < 2 ^ 64 := by decide
    have hdiv : U128.checked_div (TOKEN_SUPPLY * quote.toNat) base.toNat = none :=
      if_pos (by omega)
    rw [validate_market_cap, mul_div_u128,
      U128.checked_mul_of_lt (U128.mul_lt hsupply (U64.toNat_lt _)), Outcome.ok_or_some,
      Outcome.ok_bind, hdiv, Outcome.ok_or_none, Outcome.err_bind]

end bonding_curve

open bonding_curve

end pump_rust_client.math
