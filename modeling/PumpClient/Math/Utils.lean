import PumpClient.State

open machine

namespace pump_rust_client.math

/-- Quote failure modes. -/
inductive QuoteError where
  | EmptyReserves
  | BaseOutExceedsReserve
  | FeesExceedOutput
  | DepletedBondingCurve
  | MathOverflow
  | InsufficientRealQuoteReserves
  | SlippageExceeded
  | ZeroAmount
  | EmptyFeeTiers
  | TradingDisabled
  | CurveDepthExceeded
  | QuoteCurveNotEligible
  | QuoteReservesOutOfRange
  | QuoteCurveAwaitingMigration
  | QuotePoolAccountsRequired
  | MultiHopDiscontinuousPath
  | MultiHopMixedDirection
  | VenueNotSupported
  | PostCompleteLegNotAllowed
  deriving DecidableEq, Repr

/-- What a quote helper ends with. The source's helpers that return a plain
    number have this type too, since their operators may panic. -/
abbrev QuoteResult (α : Type) := Outcome QuoteError α

namespace utils

/-- `a * b / c` in `u128`, surfacing overflow as `MathOverflow`. -/
def mul_div_u128 (a b c : Nat) : QuoteResult Nat := do
  let ab ← Outcome.ok_or (U128.checked_mul a b) .MathOverflow
  Outcome.ok_or (U128.checked_div ab c) .MathOverflow

/-- Constant-product exact-in swap. -/
def swap_exact_input (amount in_reserve out_reserve : Nat) : QuoteResult Nat := do
  let denom ← Outcome.ok_or (U128.checked_add in_reserve amount) .MathOverflow
  mul_div_u128 amount out_reserve denom

/-- `value * (10_000 + bps) / 10_000`: a `u64` times 17 bits never overflows
    `u128`, and the result is truncated to `u64`. -/
def add_slippage (value : UInt64) (bps : UInt16) : UInt64 :=
  U64.cast (value.toNat * (10_000 + bps.toNat) / 10_000)

/-- `value * (10_000 - bps) / 10_000`; `bps` larger than 10_000 saturates. -/
def sub_slippage (value : UInt64) (bps : UInt16) : UInt64 :=
  let bps := min bps.toNat 10_000
  U64.cast (value.toNat * (10_000 - bps) / 10_000)

/-- `(value - delta, value + delta)` with `delta = value * bps / 10_000`; `none`
    on overflow. -/
def slippage_bounds (value : Nat) (bps : UInt16) : Option (Nat × Nat) := do
  let delta ← U128.checked_div (← U128.checked_mul value bps.toNat) 10_000
  some (← U128.checked_sub value delta, ← U128.checked_add value delta)

theorem toNat_sub_slippage (value : UInt64) (bps : UInt16) :
    (sub_slippage value bps).toNat = value.toNat * (10_000 - min bps.toNat 10_000) / 10_000 := by
  have hlt := U64.toNat_lt value
  have hle : value.toNat * (10_000 - min bps.toNat 10_000) / 10_000 ≤ value.toNat := by
    apply Nat.div_le_of_le_mul
    rw [Nat.mul_comm 10_000]
    exact Nat.mul_le_mul_left _ (Nat.sub_le _ _)
  exact U64.toNat_cast_of_lt (hle.trans_lt hlt)

theorem sub_slippage_le (value : UInt64) (bps : UInt16) :
    (sub_slippage value bps).toNat ≤ value.toNat := by
  rw [toNat_sub_slippage]
  apply Nat.div_le_of_le_mul
  rw [Nat.mul_comm 10_000]
  exact Nat.mul_le_mul_left _ (Nat.sub_le _ _)

/-- A wider tolerance asks for no more. -/
theorem sub_slippage_anti (value : UInt64) {bps bps' : UInt16} (h : bps ≤ bps') :
    sub_slippage value bps' ≤ sub_slippage value bps := by
  have hle := UInt16.le_iff_toNat_le.mp h
  rw [UInt64.le_iff_toNat_le, toNat_sub_slippage, toNat_sub_slippage]
  apply Nat.div_le_div_right
  apply Nat.mul_le_mul_left
  omega

/-- A floor of at least one stays within what it is taken of. -/
theorem max_sub_slippage_bounds {value : UInt64} (bps : UInt16) (hpos : 0 < value.toNat) :
    1 ≤ (max (sub_slippage value bps) 1).toNat ∧
      (max (sub_slippage value bps) 1).toNat ≤ value.toNat := by
  have hle := sub_slippage_le value bps
  have hone : (1 : UInt64).toNat = 1 := rfl
  rw [U64.toNat_max]
  omega

end utils

end pump_rust_client.math
