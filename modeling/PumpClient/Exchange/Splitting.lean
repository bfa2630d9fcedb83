import PumpClient.Exchange.Monotone

namespace exchange

/-- What keeps the product of the reserves is bought by the payment. -/
theorem le_swapOut_of_mul_le {n t X Y : ℕ} (hX : 0 < X) (ht : t ≤ Y)
    (h : X * Y ≤ (X + n) * (Y - t)) : t ≤ swapOut n X Y := by
  rw [le_swapOut_iff hX ht]
  obtain ⟨rest, rfl⟩ := Nat.exists_eq_add_of_le ht
  rw [Nat.add_sub_cancel_left] at h ⊢
  nlinarith

/-- Two payments one after the other take out at most what their sum takes
    out: neither swap lowers the product, and rounding only raises it. -/
theorem swapOut_add_swapOut_le {X : ℕ} (hX : 0 < X) (n m Y : ℕ) :
    swapOut n X Y + swapOut m (X + n) (Y - swapOut n X Y) ≤ swapOut (n + m) X Y := by
  have hfirst := swapOut_le n X Y
  have hsecond := swapOut_le m (X + n) (Y - swapOut n X Y)
  apply le_swapOut_of_mul_le hX (by omega)
  calc X * Y ≤ (X + n) * (Y - swapOut n X Y) := mul_le_mul_of_le_swapOut le_rfl le_rfl
    _ ≤ (X + n + m) * (Y - swapOut n X Y - swapOut m (X + n) (Y - swapOut n X Y)) :=
      mul_le_mul_of_le_swapOut le_rfl le_rfl
    _ = (X + (n + m)) * (Y - (swapOut n X Y + swapOut m (X + n) (Y - swapOut n X Y))) := by
      rw [Nat.add_assoc, Nat.sub_sub]

/-- The same with an extra unit paid in between, as an exact input that swaps
    one unit less than it pays leaves it. -/
theorem swapOut_pred_add_swapOut_pred_le {X n m : ℕ} (hX : 0 < X) (hn : 0 < n) (Y : ℕ) :
    swapOut (n - 1) X Y + swapOut (m - 1) (X + n) (Y - swapOut (n - 1) X Y) ≤
      swapOut (n - 1 + (m - 1)) X Y := by
  have hless : X + (n - 1) ≤ X + n := by omega
  have hdeeper := swapOut_anti hless (m - 1) (Y - swapOut (n - 1) X Y)
  have hsplit := swapOut_add_swapOut_le hX (n - 1) (m - 1) Y
  omega

/-- A payment above the rounded-down price raises the product. -/
theorem mul_lt_mul_of_swapInFloor_lt {paid t X Y : ℕ} (ht : t < Y)
    (hpaid : swapInFloor t X Y < paid) : X * Y < (X + paid) * (Y - t) := by
  have hlt := (swapInFloor_lt_iff ht).mp hpaid
  obtain ⟨rest, rfl⟩ := Nat.exists_eq_add_of_le ht.le
  rw [Nat.add_sub_cancel_left] at hlt ⊢
  nlinarith

/-- Two purchases one after the other, each paid above its rounded-down price,
    are paid above the rounded-down price of their sum. -/
theorem swapInFloor_add_lt {t t' paid paid' X Y : ℕ} (ht : t + t' < Y)
    (hpaid : swapInFloor t X Y < paid) (hpaid' : swapInFloor t' (X + paid) (Y - t) < paid') :
    swapInFloor (t + t') X Y < paid + paid' := by
  have hfirst := mul_lt_mul_of_swapInFloor_lt (by omega) hpaid
  have hsecond := mul_lt_mul_of_swapInFloor_lt (by omega) hpaid'
  rw [swapInFloor_lt_iff ht]
  rw [Nat.sub_sub] at hsecond
  obtain ⟨rest, rfl⟩ := Nat.exists_eq_add_of_le ht.le
  rw [Nat.add_sub_cancel_left] at hsecond ⊢
  nlinarith

/-- What taking out `t` is charged above its rounded-down price: one unit, and
    nothing when nothing is taken. -/
def floorCost (t X Y : ℕ) : ℕ := if t = 0 then 0 else swapInFloor t X Y + 1

@[simp] theorem floorCost_zero (X Y : ℕ) : floorCost 0 X Y = 0 := if_pos rfl

theorem floorCost_of_pos {t : ℕ} (h : 0 < t) (X Y : ℕ) : floorCost t X Y = swapInFloor t X Y + 1 :=
  if_neg h.ne'

/-- Splitting a purchase never charges less. -/
theorem floorCost_add_le {t t' X Y : ℕ} (ht : t + t' < Y) :
    floorCost (t + t') X Y ≤ floorCost t X Y + floorCost t' (X + floorCost t X Y) (Y - t) := by
  rcases Nat.eq_zero_or_pos t with rfl | hpos
  · simp
  rcases Nat.eq_zero_or_pos t' with rfl | hpos'
  · simp
  rw [floorCost_of_pos (by omega), floorCost_of_pos hpos, floorCost_of_pos hpos']
  exact swapInFloor_add_lt ht (Nat.lt_succ_self _) (Nat.lt_succ_self _)

namespace FeeSchedule

variable {s : FeeSchedule}

theorem floorNet_add_le (b b' : ℕ) : s.floorNet b + s.floorNet b' ≤ s.floorNet (b + b') := by
  unfold floorNet
  rw [Nat.add_mul]
  exact Nat.div_add_div_le_add_div

/-- Two budgets net at most one unit more than their sum. -/
theorem net_add_net_le (hcharged : s.charged ≤ 2) (b b' : ℕ) :
    s.net b + s.net b' ≤ s.net (b + b') + 1 := by
  have hfloor := floorNet_add_le (s := s) b b'
  have hnet := net_le_floorNet (s := s) b
  have hnet' := net_le_floorNet (s := s) b'
  have hshave := floorNet_le_net_add (s := s) (b + b')
  omega

/-- Splitting the budget of an exact-in buy never takes out more: the unit the
    two nets may gain on the one is the unit each part leaves unswapped. -/
theorem swapOut_net_add_le (hcharged : s.charged ≤ 2) {X : ℕ} (hX : 0 < X) (Y b b' : ℕ) :
    swapOut (s.net b - 1) X Y +
        swapOut (s.net b' - 1) (X + s.net b) (Y - swapOut (s.net b - 1) X Y) ≤
      swapOut (s.net (b + b') - 1) X Y := by
  have hnets := net_add_net_le hcharged b b'
  have hfirst : s.net b ≤ s.net (b + b') := net_mono hcharged (by omega)
  have hsecond : s.net b' ≤ s.net (b + b') := net_mono hcharged (by omega)
  rcases Nat.eq_zero_or_pos (s.net b) with hzero | hpos
  · rw [hzero, Nat.zero_sub, swapOut_zero, Nat.zero_add, Nat.add_zero, Nat.sub_zero]
    exact swapOut_mono (by omega) X Y
  · calc swapOut (s.net b - 1) X Y +
          swapOut (s.net b' - 1) (X + s.net b) (Y - swapOut (s.net b - 1) X Y)
        ≤ swapOut (s.net b - 1 + (s.net b' - 1)) X Y :=
          swapOut_pred_add_swapOut_pred_le hX hpos Y
      _ ≤ swapOut (s.net (b + b') - 1) X Y := swapOut_mono (by omega) X Y

end FeeSchedule

end exchange
