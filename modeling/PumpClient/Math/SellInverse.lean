import PumpClient.Math.Amm
import PumpClient.Math.BondingCurve.Hop

open machine exchange

namespace pump_rust_client.math

open utils

/-- Selling `tokens` pays at least `wanted`. -/
def Pays (sell : UInt64 → QuoteResult Nat) (wanted tokens : UInt64) : Prop :=
  ∃ paid, sell tokens = .ok paid ∧ wanted.toNat ≤ paid

/-- The amount quoted for `wanted`, where it fits `u64`, is the least one that
    sells for it. -/
def LeastSellOf (sell : UInt64 → QuoteResult Nat) (quoted : QuoteResult Nat) (wanted : UInt64) : Prop :=
  ∀ tokens : UInt64, quoted = .ok tokens.toNat →
    Pays sell wanted tokens ∧ ∀ fewer < tokens, ¬ Pays sell wanted fewer

namespace bonding_curve

variable {virtual_sol_reserves virtual_token_reserves sol_amount : UInt64}

theorem sell_token_quote_with_sol_eq (hlt : sol_amount < virtual_sol_reserves) :
    sell_token_quote_with_sol virtual_sol_reserves virtual_token_reserves sol_amount =
      .ok (swapInFloor sol_amount.toNat virtual_token_reserves.toNat virtual_sol_reserves.toNat) := by
  have hlt_nat := UInt64.lt_iff_toNat_lt.mp hlt
  have hsome : U128.checked_sub virtual_sol_reserves.toNat sol_amount.toNat =
      some (virtual_sol_reserves.toNat - sol_amount.toNat) := if_pos hlt_nat.le
  rw [sell_token_quote_with_sol, hsome, Outcome.ok_or_some, Outcome.ok_bind,
    mul_div_u128_eq (U128.mul_lt (U64.toNat_lt _) (U64.toNat_lt _)) (by omega), swapInFloor]

/-- What a curve pays for tokens, as a swap. -/
theorem pays_sell_quote_iff (hvt : 0 < virtual_token_reserves.toNat) {tokens : UInt64} :
    Pays (sell_quote virtual_sol_reserves virtual_token_reserves) sol_amount tokens ↔
      sol_amount.toNat ≤
        swapOut tokens.toNat virtual_token_reserves.toNat virtual_sol_reserves.toNat := by
  unfold Pays
  rw [sell_quote_eq _ _ hvt]
  constructor
  · rintro ⟨paid, hpaid, hle⟩
    cases hpaid
    exact hle
  · intro hle
    exact ⟨_, rfl, hle⟩

/-- A curve without tokens prices nothing, not even a sell of nothing. -/
theorem not_pays_of_no_tokens (virtual_sol_reserves sol_amount : UInt64) :
    ¬ Pays (sell_quote virtual_sol_reserves 0) sol_amount 0 := by
  rintro ⟨paid, hpaid, -⟩
  simp [sell_quote, mul_div_u128, U128.checked_add, U128.checked_mul, U128.checked_div] at hpaid

/-- The inverse of a sell is exact, and so the least amount that sells for what
    was asked, where its one division leaves no remainder. -/
theorem leastSellOf_iff (hlt : sol_amount < virtual_sol_reserves) :
    LeastSellOf (sell_quote virtual_sol_reserves virtual_token_reserves)
        (sell_token_quote_with_sol virtual_sol_reserves virtual_token_reserves sol_amount) sol_amount ↔
      (sol_amount.toNat * virtual_token_reserves.toNat <
          2 ^ 64 * (virtual_sol_reserves.toNat - sol_amount.toNat) →
        0 < virtual_token_reserves.toNat ∧ virtual_sol_reserves.toNat - sol_amount.toNat ∣
          sol_amount.toNat * virtual_token_reserves.toNat) := by
  have hlt_nat := UInt64.lt_iff_toNat_lt.mp hlt
  have hfits : sol_amount.toNat * virtual_token_reserves.toNat <
      2 ^ 64 * (virtual_sol_reserves.toNat - sol_amount.toNat) ↔
      swapInFloor sol_amount.toNat virtual_token_reserves.toNat virtual_sol_reserves.toNat < 2 ^ 64 :=
    (swapInFloor_lt_iff hlt_nat).symm
  rw [hfits, LeastSellOf, sell_token_quote_with_sol_eq hlt]
  constructor
  · intro h hquoted
    have hpays := (h (U64.cast _) (by rw [U64.toNat_cast_of_lt hquoted])).1
    rcases Nat.eq_zero_or_pos virtual_token_reserves.toNat with hzero | hvt
    · obtain rfl : virtual_token_reserves = 0 := UInt64.toNat_inj.mp hzero
      have hnone : swapInFloor sol_amount.toNat (0 : UInt64).toNat virtual_sol_reserves.toNat = 0 :=
        swapInFloor_zero_left _ _
      rw [hnone] at hpays
      exact absurd hpays (not_pays_of_no_tokens _ _)
    · rw [pays_sell_quote_iff hvt, U64.toNat_cast_of_lt hquoted,
        le_swapOut_swapInFloor_iff hvt hlt_nat] at hpays
      exact ⟨hvt, hpays⟩
  · intro h tokens htokens
    have hquoted := Except.ok.inj htokens
    obtain ⟨hvt, hdvd⟩ := h (hquoted ▸ U64.toNat_lt tokens)
    constructor
    · rw [pays_sell_quote_iff hvt, ← hquoted, le_swapOut_swapInFloor_iff hvt hlt_nat]
      exact hdvd
    · intro fewer hfewer
      rw [pays_sell_quote_iff hvt, not_le]
      apply swapOut_lt_of_lt_swapInFloor hvt hlt_nat
      rw [hquoted]
      exact UInt64.lt_iff_toNat_lt.mp hfewer

end bonding_curve

/-- Exactly when the inverse of a sell delivers what it was asked for, on a
    curve and on a pool: where the amount it quotes fits `u64` there are tokens
    in reserve, and the reserve left divides the product it is divided into. -/
theorem sell_inverse_exact_iff (quote_reserve token_reserve wanted : UInt64)
    (hlt : wanted < quote_reserve) :
    (LeastSellOf (bonding_curve.sell_quote quote_reserve token_reserve)
        (bonding_curve.sell_token_quote_with_sol quote_reserve token_reserve wanted) wanted ↔
      (wanted.toNat * token_reserve.toNat < 2 ^ 64 * (quote_reserve.toNat - wanted.toNat) →
        0 < token_reserve.toNat ∧
          quote_reserve.toNat - wanted.toNat ∣ wanted.toNat * token_reserve.toNat)) ∧
    (LeastSellOf (amm.sell_quote token_reserve quote_reserve)
        (amm.sell_token_quote_with_sol token_reserve quote_reserve wanted) wanted ↔
      (wanted.toNat * token_reserve.toNat < 2 ^ 64 * (quote_reserve.toNat - wanted.toNat) →
        0 < token_reserve.toNat ∧
          quote_reserve.toNat - wanted.toNat ∣ wanted.toNat * token_reserve.toNat)) :=
  -- the pool's two functions are the curve's with their reserves the other way
  ⟨bonding_curve.leastSellOf_iff hlt, bonding_curve.leastSellOf_iff hlt⟩

/-- A sell the launch curve inverts exactly. -/
theorem sell_inverse_exact_launch :
    LeastSellOf (bonding_curve.sell_quote 30_000_000_000 1_073_000_000_000_000)
      (bonding_curve.sell_token_quote_with_sol 30_000_000_000 1_073_000_000_000_000 1_000_000_000)
      1_000_000_000 :=
  (sell_inverse_exact_iff 30_000_000_000 1_073_000_000_000_000 1_000_000_000 (by decide)).1.mpr
    fun _ => by decide +kernel

/-- Twice as much it inverts one token short: the sell pays one unit less than
    was asked, on the curve and on a pool of the same reserves. -/
theorem sell_inverse_short :
    bonding_curve.sell_token_quote_with_sol 30_000_000_000 1_073_000_000_000_000 2_000_000_000 =
        .ok 76_642_857_142_857 ∧
      bonding_curve.sell_quote 30_000_000_000 1_073_000_000_000_000 76_642_857_142_857 =
        .ok 1_999_999_999 ∧
      ¬ LeastSellOf (bonding_curve.sell_quote 30_000_000_000 1_073_000_000_000_000)
        (bonding_curve.sell_token_quote_with_sol 30_000_000_000 1_073_000_000_000_000 2_000_000_000)
        2_000_000_000 ∧
      ¬ LeastSellOf (amm.sell_quote 1_073_000_000_000_000 30_000_000_000)
        (amm.sell_token_quote_with_sol 1_073_000_000_000_000 30_000_000_000 2_000_000_000)
        2_000_000_000 := by
  have hquoted : bonding_curve.sell_token_quote_with_sol 30_000_000_000 1_073_000_000_000_000
      2_000_000_000 = .ok 76_642_857_142_857 := by decide +kernel
  have hpaid : bonding_curve.sell_quote 30_000_000_000 1_073_000_000_000_000 76_642_857_142_857 =
      .ok 1_999_999_999 := by decide +kernel
  have hshort : ¬ Pays (bonding_curve.sell_quote 30_000_000_000 1_073_000_000_000_000) 2_000_000_000
      76_642_857_142_857 := by
    rintro ⟨paid, hsell, hle⟩
    obtain rfl : 1_999_999_999 = paid := Except.ok.inj (hpaid.symm.trans hsell)
    exact absurd hle (by decide)
  exact ⟨hquoted, hpaid, fun h => hshort (h 76_642_857_142_857 hquoted).1,
    fun h => hshort (h 76_642_857_142_857 hquoted).1⟩

end pump_rust_client.math
