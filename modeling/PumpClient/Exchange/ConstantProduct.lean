import Mathlib.Algebra.Order.Floor.Div
import Mathlib.Tactic.Linarith
import Mathlib.Tactic.Ring

namespace exchange

/-- Output of paying `n` into a constant product holding `X` of the side paid
    in and `Y` of the side paid out, rounded down. -/
def swapOut (n X Y : ℕ) : ℕ := n * Y / (X + n)

/-- Payment for taking `t` out, rounded down. -/
def swapInFloor (t X Y : ℕ) : ℕ := t * X / (Y - t)

/-- Payment for taking `t` out, rounded up. -/
def swapInCeil (t X Y : ℕ) : ℕ := (t * X) ⌈/⌉ (Y - t)

@[simp] theorem swapOut_zero (X Y : ℕ) : swapOut 0 X Y = 0 := by simp [swapOut]

theorem swapOut_mul_le (n X Y : ℕ) : swapOut n X Y * (X + n) ≤ n * Y :=
  Nat.div_mul_le_self _ _

theorem swapOut_le (n X Y : ℕ) : swapOut n X Y ≤ Y := by
  unfold swapOut
  apply Nat.div_le_of_le_mul
  exact Nat.mul_le_mul_right Y (by omega)

theorem pos_of_swapOut_pos {n X Y : ℕ} (h : 0 < swapOut n X Y) : 0 < n := by
  by_contra hn
  obtain rfl : n = 0 := by omega
  simp at h

theorem swapOut_lt {n X Y : ℕ} (hX : 0 < X) (hY : 0 < Y) : swapOut n X Y < Y := by
  have hle := swapOut_mul_le n X Y
  by_contra hnot
  have hY' : Y * (X + n) ≤ n * Y :=
    le_trans (Nat.mul_le_mul_right _ (not_lt.mp hnot)) hle
  have hpos : 0 < Y * X := Nat.mul_pos hY hX
  nlinarith

/-- What a payment of `n` can take out, without division. -/
theorem le_swapOut_iff {n X Y t : ℕ} (hX : 0 < X) (ht : t ≤ Y) :
    t ≤ swapOut n X Y ↔ t * X ≤ n * (Y - t) := by
  rw [swapOut, Nat.le_div_iff_mul_le (by omega)]
  obtain ⟨rest, rfl⟩ := Nat.exists_eq_add_of_le ht
  rw [Nat.add_sub_cancel_left]
  constructor <;> intro h <;> nlinarith

theorem swapInCeil_le_iff {n X Y t : ℕ} (ht : t < Y) :
    swapInCeil t X Y ≤ n ↔ t * X ≤ n * (Y - t) := by
  rw [swapInCeil, ceilDiv_le_iff_le_mul (by omega), Nat.mul_comm (Y - t) n]

theorem le_swapInFloor_iff {n X Y t : ℕ} (ht : t < Y) :
    n ≤ swapInFloor t X Y ↔ n * (Y - t) ≤ t * X :=
  Nat.le_div_iff_mul_le (by omega)

theorem swapInFloor_lt_iff {n X Y t : ℕ} (ht : t < Y) :
    swapInFloor t X Y < n ↔ t * X < n * (Y - t) :=
  Nat.div_lt_iff_lt_mul (by omega)

theorem swapInFloor_le_swapInCeil (t X Y : ℕ) : swapInFloor t X Y ≤ swapInCeil t X Y :=
  floorDiv_le_ceilDiv (a := Y - t) (b := t * X)

theorem swapInCeil_pos {t X Y : ℕ} (hX : 0 < X) (ht : 0 < t) (htY : t < Y) :
    0 < swapInCeil t X Y := by
  by_contra hnot
  have hle := (swapInCeil_le_iff (X := X) htY).mp (Nat.le_of_not_lt hnot)
  have hpos := Nat.mul_pos ht hX
  omega

/-- The rounded-up payment is the adjoint of the swap: it is the least payment
    that takes out `t`. -/
theorem swapInCeil_le_iff_le_swapOut {n X Y t : ℕ} (hX : 0 < X) (ht : t < Y) :
    swapInCeil t X Y ≤ n ↔ t ≤ swapOut n X Y :=
  (swapInCeil_le_iff ht).trans (le_swapOut_iff hX ht.le).symm

/-- The rounded-down payment takes out `t` exactly where nothing was rounded. -/
theorem le_swapOut_swapInFloor_iff {t X Y : ℕ} (hX : 0 < X) (ht : t < Y) :
    t ≤ swapOut (swapInFloor t X Y) X Y ↔ Y - t ∣ t * X := by
  rw [le_swapOut_iff hX ht.le, Nat.dvd_iff_div_mul_eq]
  exact (Nat.div_mul_le_self _ _).ge_iff_eq

/-- A payment below the rounded-down one never takes out `t`. -/
theorem swapOut_lt_of_lt_swapInFloor {n t X Y : ℕ} (hX : 0 < X) (ht : t < Y)
    (h : n < swapInFloor t X Y) : swapOut n X Y < t := by
  by_contra hnot
  have hceil := (swapInCeil_le_iff_le_swapOut hX ht).mpr (not_lt.mp hnot)
  have hfloor := swapInFloor_le_swapInCeil t X Y
  omega

theorem swapOut_mono {n n' : ℕ} (h : n ≤ n') (X Y : ℕ) : swapOut n X Y ≤ swapOut n' X Y := by
  have hle := swapOut_mul_le n X Y
  have hY := swapOut_le n X Y
  rcases Nat.eq_zero_or_pos (X + n') with hzero | hpos
  · obtain rfl : n = 0 := by omega
    simp
  · obtain ⟨extra, rfl⟩ := Nat.exists_eq_add_of_le h
    rw [show swapOut (n + extra) X Y = (n + extra) * Y / (X + (n + extra)) from rfl,
      Nat.le_div_iff_mul_le hpos]
    have := Nat.mul_le_mul_right extra hY
    nlinarith

theorem swapInFloor_mono {t t' X Y : ℕ} (h : t ≤ t') (ht' : t' < Y) :
    swapInFloor t X Y ≤ swapInFloor t' X Y := by
  have hstep : t * X ≤ t' * X := Nat.mul_le_mul_right X h
  exact le_trans (Nat.div_le_div_right hstep) (Nat.div_le_div_left (by omega) (by omega))

theorem swapInCeil_mono {t t' X Y : ℕ} (h : t ≤ t') (ht' : t' < Y) :
    swapInCeil t X Y ≤ swapInCeil t' X Y := by
  rw [swapInCeil_le_iff (by omega)]
  have hself := (swapInCeil_le_iff (X := X) ht').mp le_rfl
  calc t * X ≤ t' * X := Nat.mul_le_mul_right X h
    _ ≤ swapInCeil t' X Y * (Y - t') := hself
    _ ≤ swapInCeil t' X Y * (Y - t) := Nat.mul_le_mul_left _ (by omega)

/-- A swap that pays at least `n` in and takes at most `swapOut n` out never
    lowers the product of the reserves. -/
theorem mul_le_mul_of_le_swapOut {n paid taken X Y : ℕ} (hpaid : n ≤ paid)
    (htaken : taken ≤ swapOut n X Y) : X * Y ≤ (X + paid) * (Y - taken) := by
  have hle := swapOut_mul_le n X Y
  have hY := swapOut_le n X Y
  obtain ⟨rest, hrest⟩ := Nat.exists_eq_add_of_le (htaken.trans hY)
  have hscaled := Nat.mul_le_mul_right (X + n) htaken
  have hn := Nat.mul_le_mul_right rest hpaid
  rw [hrest, Nat.add_sub_cancel_left]
  rw [hrest] at hle hscaled
  nlinarith

/-- A payment above the rounded-down price never lowers the product either. -/
theorem mul_le_mul_of_swapInFloor_lt {paid t X Y : ℕ} (ht : t < Y)
    (hpaid : swapInFloor t X Y < paid) : X * Y ≤ (X + paid) * (Y - t) := by
  have hlt := (swapInFloor_lt_iff ht).mp hpaid
  obtain ⟨rest, rfl⟩ := Nat.exists_eq_add_of_le ht.le
  rw [Nat.add_sub_cancel_left] at hlt ⊢
  nlinarith

/-- Taking out at most what `n` buys and paying it back in the other direction,
    on the same reserves, returns at most `n`. -/
theorem swapOut_back_le {n t X Y : ℕ} (ht : t ≤ swapOut n X Y) (hX : 0 < X) :
    swapOut t Y X ≤ n := by
  have htY := ht.trans (swapOut_le n X Y)
  have hbuys := (le_swapOut_iff hX htY).mp ht
  unfold swapOut
  apply Nat.div_le_of_le_mul
  calc t * X ≤ n * (Y - t) := hbuys
    _ ≤ n * (Y + t) := Nat.mul_le_mul_left n (by omega)
    _ = (Y + t) * n := Nat.mul_comm _ _

/-- What a payment below `n` bought, or any part of it, never sells for `n`. -/
theorem swapOut_back_lt {n bought sold X Y : ℕ} (hbought : bought ≤ swapOut (n - 1) X Y)
    (hsold : sold ≤ bought) (hpos : 0 < swapOut sold Y X) : swapOut sold Y X < n := by
  have hX : 0 < X := by
    by_contra hnot
    obtain rfl : X = 0 := by omega
    simp [swapOut] at hpos
  have hback := swapOut_back_le (hsold.trans hbought) hX
  omega

end exchange
