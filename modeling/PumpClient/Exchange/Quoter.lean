import Mathlib.Algebra.Order.Sub.Basic
import PumpClient.Exchange.ConstantProduct
import PumpClient.Exchange.FeeSplit

namespace exchange

/-- The two ways of quoting one trade: `cost` prices a wanted output, `out`
    says what a budget buys and `charge` what it is charged. Neither way
    undercuts the other. -/
structure Quoter (α β : Type*) [Preorder α] [Preorder β] [Zero β] where
  cost : β → α
  out : α → β
  charge : α → α
  /-- Prices grow over the outputs that some budget buys. -/
  cost_mono : ∀ {a t t'}, t ≤ t' → t' ≤ out a → cost t ≤ cost t'
  cost_out_le_charge : ∀ {a}, 0 < out a → cost (out a) ≤ charge a
  charge_le : ∀ {a}, 0 < out a → charge a ≤ a
  /-- A budget of at most the cost of `t` buys at most `t`. -/
  out_le_of_le_cost : ∀ {a t}, a ≤ cost t → out a ≤ t

namespace Quoter

section Preorder

variable {α β : Type*} [Preorder α] [Preorder β] [Zero β]

theorem cost_out_le (q : Quoter α β) {a : α} (h : 0 < q.out a) : q.cost (q.out a) ≤ a :=
  (q.cost_out_le_charge h).trans (q.charge_le h)

/-- Any part of what a budget buys costs at most the budget. -/
theorem cost_le_of_le_out (q : Quoter α β) {a : α} {t : β} (ht : t ≤ q.out a)
    (h : 0 < q.out a) : q.cost t ≤ a :=
  (q.cost_mono ht le_rfl).trans (q.cost_out_le h)

end Preorder

section Compose

variable {α β γ : Type*} [Preorder α] [Preorder β] [Zero β]
  [AddCommMonoid γ] [PartialOrder γ] [CanonicallyOrderedAdd γ]

/-- A trade whose budget first pays a fee quoted by `outer`. -/
def comp (outer : Quoter α β) (inner : Quoter β γ) (hpos : ∀ {b}, 0 < inner.out b → 0 < b) :
    Quoter α γ where
  cost t := outer.cost (inner.cost t)
  out a := inner.out (outer.out a)
  charge := outer.charge
  cost_mono := by
    intro a t t' ht ht'
    rcases eq_or_ne (inner.out (outer.out a)) 0 with hzero | hne
    · have hzero' : t' = 0 := le_antisymm (hzero ▸ ht') zero_le
      have : t = 0 := le_antisymm (hzero' ▸ ht) zero_le
      rw [this, hzero']
    · exact outer.cost_mono (inner.cost_mono ht ht')
        (inner.cost_le_of_le_out ht' (pos_iff_ne_zero.mpr hne))
  cost_out_le_charge h :=
    (outer.cost_mono (inner.cost_out_le h) le_rfl).trans (outer.cost_out_le_charge (hpos h))
  charge_le h := outer.charge_le (hpos h)
  out_le_of_le_cost h := inner.out_le_of_le_cost (outer.out_le_of_le_cost h)

end Compose

section Glue

variable {α β : Type*}
  [AddCommMonoid α] [LinearOrder α] [CanonicallyOrderedAdd α] [IsOrderedCancelAddMonoid α]
  [Sub α] [OrderedSub α]
  [AddCommMonoid β] [LinearOrder β] [CanonicallyOrderedAdd β] [IsOrderedCancelAddMonoid β]
  [Sub β] [OrderedSub β]

/-- The quoter of a venue that sells nothing. -/
def closed : Quoter α β where
  cost _ := 0
  out _ := 0
  charge _ := 0
  cost_mono _ _ := le_rfl
  cost_out_le_charge h := (lt_irrefl _ h).elim
  charge_le h := (lt_irrefl _ h).elim
  out_le_of_le_cost _ := zero_le

/-- A trade on `first` up to the amount `r`, the rest on `second`: a budget
    that buys more than `r` pays for `r` and takes what is left to `second`. -/
def glue (first : Quoter α β) (r : β) (second : Quoter α β) : Quoter α β where
  cost t := if t ≤ r then first.cost t else first.cost r + second.cost (t - r)
  out a := if first.out a ≤ r then first.out a else r + second.out (a - first.cost r)
  charge a :=
    if first.out a ≤ r then first.charge a
    else first.cost r +
      if 0 < second.out (a - first.cost r) then second.charge (a - first.cost r) else 0
  cost_mono := by
    intro a t t' ht ht'
    split at ht'
    · next hin =>
      have htr' := ht'.trans hin
      rw [if_pos (ht.trans htr'), if_pos htr']
      exact first.cost_mono ht ht'
    · next hout =>
      have hr : r ≤ first.out a := (not_le.mp hout).le
      by_cases htr' : t' ≤ r
      · rw [if_pos (ht.trans htr'), if_pos htr']
        exact first.cost_mono ht (htr'.trans hr)
      · rw [if_neg htr']
        by_cases htr : t ≤ r
        · rw [if_pos htr]
          exact (first.cost_mono htr hr).trans le_self_add
        · rw [if_neg htr]
          have hleg : t' - r ≤ second.out (a - first.cost r) := tsub_le_iff_left.mpr ht'
          exact add_le_add_right (second.cost_mono (tsub_le_tsub_right ht r) hleg) _
  cost_out_le_charge := by
    intro a h
    split at h
    · next hin =>
      simp only [if_pos hin]
      exact first.cost_out_le_charge h
    · next hout =>
      simp only [if_neg hout]
      by_cases hleg : 0 < second.out (a - first.cost r)
      · rw [if_neg (not_le.mpr (lt_add_of_pos_right r hleg)), if_pos hleg, add_tsub_cancel_left]
        exact add_le_add_right (second.cost_out_le_charge hleg) _
      · rw [if_neg hleg, nonpos_iff_eq_zero.mp (not_lt.mp hleg), add_zero, if_pos le_rfl, add_zero]
  charge_le := by
    intro a h
    split at h
    · next hin =>
      rw [if_pos hin]
      exact first.charge_le h
    · next hout =>
      rw [if_neg hout]
      have hr : r < first.out a := not_le.mp hout
      have hcost : first.cost r ≤ a := first.cost_le_of_le_out hr.le (pos_of_gt hr)
      split
      · next hleg =>
        exact (add_le_add_right (second.charge_le hleg) _).trans (add_tsub_cancel_of_le hcost).le
      · rwa [add_zero]
  out_le_of_le_cost := by
    intro a t h
    split at h
    · next htr =>
      have hout := first.out_le_of_le_cost h
      rwa [if_pos (hout.trans htr)]
    · next htr =>
      have hrt : r ≤ t := (not_le.mp htr).le
      split
      · next hin => exact hin.trans hrt
      · have hleg := second.out_le_of_le_cost (tsub_le_iff_left.mpr h)
        exact (add_le_add_right hleg r).trans (add_tsub_cancel_of_le hrt).le

variable {first second : Quoter α β} {r : β}

theorem glue_out_of_le {a : α} (h : first.out a ≤ r) :
    (first.glue r second).out a = first.out a := if_pos h

theorem glue_charge_of_le {a : α} (h : first.out a ≤ r) :
    (first.glue r second).charge a = first.charge a := if_pos h

theorem glue_cost_of_le {t : β} (h : t ≤ r) : (first.glue r second).cost t = first.cost t :=
  if_pos h

theorem glue_out_of_lt {a : α} (h : r < first.out a) :
    (first.glue r second).out a = r + second.out (a - first.cost r) := if_neg (not_le.mpr h)

theorem glue_charge_of_lt {a : α} (h : r < first.out a) :
    (first.glue r second).charge a = first.cost r +
      if 0 < second.out (a - first.cost r) then second.charge (a - first.cost r) else 0 :=
  if_neg (not_le.mpr h)

theorem glue_cost_of_lt {t : β} (h : r < t) :
    (first.glue r second).cost t = first.cost r + second.cost (t - r) := if_neg (not_le.mpr h)

/-- Gluing a closed venue is a partial fill at `r`. -/
theorem glue_closed_out (a : α) : (first.glue r closed).out a = min (first.out a) r := by
  rcases le_or_gt (first.out a) r with h | h
  · rw [glue_out_of_le h, min_eq_left h]
  · rw [glue_out_of_lt h, min_eq_right h.le, closed, add_zero]

theorem glue_closed_cost (t : β) : (first.glue r closed).cost t = first.cost (min t r) := by
  rcases le_or_gt t r with h | h
  · rw [glue_cost_of_le h, min_eq_left h]
  · rw [glue_cost_of_lt h, min_eq_right h.le, closed, add_zero]

theorem glue_closed_charge_of_lt {a : α} (h : r < first.out a) :
    (first.glue r closed).charge a = first.cost r := by
  have hclosed : ¬ 0 < (closed : Quoter α β).out (a - first.cost r) := lt_irrefl 0
  rw [glue_charge_of_lt h, if_neg hclosed, add_zero]

/-- A second venue never yields less than a partial fill. -/
theorem glue_closed_out_le (a : α) : (first.glue r closed).out a ≤ (first.glue r second).out a := by
  rw [glue_closed_out]
  rcases le_or_gt (first.out a) r with h | h
  · rw [glue_out_of_le h]
    exact min_le_left _ _
  · rw [glue_out_of_lt h]
    exact (min_le_right _ _).trans le_self_add

/-- Buying past `r` costs more than the partial fill as soon as the second
    venue charges anything. -/
theorem glue_closed_cost_lt {t : β} (h : r < t) (hpos : 0 < second.cost (t - r)) :
    (first.glue r closed).cost t < (first.glue r second).cost t := by
  rw [glue_closed_cost, glue_cost_of_lt h, min_eq_right h.le]
  exact lt_add_of_pos_right _ hpos

end Glue

end Quoter

/-- Fees taken on top of a net amount. -/
def FeeSchedule.quoter (s : FeeSchedule) : Quoter ℕ ℕ where
  cost := s.gross
  out := s.net
  charge := s.charge
  cost_mono h _ := FeeSchedule.gross_mono h
  cost_out_le_charge _ := FeeSchedule.gross_net_le_charge _
  charge_le := FeeSchedule.charge_le
  out_le_of_le_cost := FeeSchedule.net_le_of_le_gross

section Swap

variable {X Y n t : ℕ}

theorem lt_of_swapOut_pos (hX : 0 < X) (h : 0 < swapOut n X Y) (ht : t ≤ swapOut n X Y) : t < Y := by
  have hY : 0 < Y := lt_of_lt_of_le h (swapOut_le n X Y)
  exact lt_of_le_of_lt ht (swapOut_lt hX hY)

theorem swapInFloor_lt_of_le_swapOut (hX : 0 < X) (h : 0 < swapOut (n - 1) X Y)
    (ht : t ≤ swapOut (n - 1) X Y) : swapInFloor t X Y < n := by
  have hbuys := (swapInCeil_le_iff_le_swapOut hX (lt_of_swapOut_pos hX h ht)).mpr ht
  have hfloor := swapInFloor_le_swapInCeil t X Y
  have hn := pos_of_swapOut_pos h
  omega

/-- A payment of at most the rounded-up price of `t`, less one unit, buys at
    most `t`. -/
theorem swapOut_pred_le (h : n ≤ swapInCeil t X Y) : swapOut (n - 1) X Y ≤ t := by
  rcases Nat.lt_or_ge t Y with htY | hYt
  · have hlt : ¬ swapInCeil t X Y ≤ n - 1 ∨ n = 0 := by omega
    rcases hlt with hlt | rfl
    · rw [swapInCeil_le_iff htY, not_le] at hlt
      apply Nat.div_le_of_le_mul
      obtain ⟨rest, rfl⟩ := Nat.exists_eq_add_of_le htY.le
      rw [Nat.add_sub_cancel_left] at hlt
      nlinarith
    · simp
  · exact (swapOut_le _ _ _).trans hYt

theorem swapOut_pred_le_of_floor (h : n ≤ swapInFloor t X Y + 1) : swapOut (n - 1) X Y ≤ t := by
  rcases Nat.lt_or_ge t Y with htY | hYt
  · have hle : n - 1 ≤ swapInFloor t X Y := by omega
    rw [le_swapInFloor_iff htY] at hle
    apply Nat.div_le_of_le_mul
    obtain ⟨rest, rfl⟩ := Nat.exists_eq_add_of_le htY.le
    rw [Nat.add_sub_cancel_left] at hle
    nlinarith
  · exact (swapOut_le _ _ _).trans hYt

@[simp] theorem swapInFloor_zero_left (t Y : ℕ) : swapInFloor t 0 Y = 0 := by simp [swapInFloor]

@[simp] theorem swapInCeil_zero_left (t Y : ℕ) : swapInCeil t 0 Y = 0 := by simp [swapInCeil]

/-- A price that grows over the outputs a reserve holds grows over what a
    payment swaps to. -/
theorem swap_price_mono (price : ℕ → ℕ → ℕ → ℕ) {a t t' : ℕ}
    (hzero : ∀ t, price t 0 Y = 0)
    (hmono : ∀ {t t'}, t ≤ t' → t' < Y → price t X Y ≤ price t' X Y)
    (ht : t ≤ t') (ht' : t' ≤ swapOut (a - 1) X Y) : price t X Y ≤ price t' X Y := by
  rcases Nat.eq_zero_or_pos X with rfl | hX
  · rw [hzero, hzero]
  rcases Nat.eq_zero_or_pos (swapOut (a - 1) X Y) with hnone | hpos
  · obtain rfl : t' = 0 := by omega
    obtain rfl : t = 0 := by omega
    exact le_rfl
  · exact hmono ht (lt_of_swapOut_pos hX hpos ht')

/-- The constant product with a price of `⌊·⌋ + 1` and an exact input that
    swaps one unit less than it pays. -/
def floorSwap (X Y : ℕ) : Quoter ℕ ℕ where
  cost t := swapInFloor t X Y + 1
  out n := swapOut (n - 1) X Y
  charge n := n
  cost_mono ht ht' := Nat.succ_le_succ
    (swap_price_mono swapInFloor (by simp) swapInFloor_mono ht ht')
  cost_out_le_charge := by
    intro n h
    rcases Nat.eq_zero_or_pos X with rfl | hX
    · have hn := pos_of_swapOut_pos h
      rw [swapInFloor_zero_left]
      omega
    · exact swapInFloor_lt_of_le_swapOut hX h le_rfl
  charge_le _ := le_rfl
  out_le_of_le_cost := swapOut_pred_le_of_floor

/-- The constant product with a rounded-up price and the same exact input. -/
def ceilSwap (X Y : ℕ) : Quoter ℕ ℕ where
  cost t := swapInCeil t X Y
  out n := swapOut (n - 1) X Y
  charge n := n
  cost_mono := swap_price_mono swapInCeil (by simp) swapInCeil_mono
  cost_out_le_charge := by
    intro n h
    rcases Nat.eq_zero_or_pos X with rfl | hX
    · simp
    · have hbuys := (swapInCeil_le_iff_le_swapOut hX (lt_of_swapOut_pos hX h le_rfl)).mpr le_rfl
      omega
  charge_le _ := le_rfl
  out_le_of_le_cost := swapOut_pred_le

/-- An output short of what a payment swaps to is priced below the payment. -/
theorem floorSwap_cost_lt (hX : 0 < X) (h : t < (floorSwap X Y).out n) :
    (floorSwap X Y).cost t < n := by
  have hbuys : (t + 1) * X ≤ (n - 1) * (Y - (t + 1)) :=
    (le_swapOut_iff hX (h.trans_le (swapOut_le _ _ _))).mp h
  have htY : t + 1 < Y := lt_of_swapOut_pos hX (Nat.zero_lt_of_lt h) h
  have hrest : (n - 1) * (Y - (t + 1)) ≤ (n - 1) * (Y - t) := Nat.mul_le_mul_left _ (by omega)
  have hprice : swapInFloor t X Y < n - 1 := by
    rw [swapInFloor_lt_iff (by omega)]
    rw [Nat.add_mul, Nat.one_mul] at hbuys
    omega
  have hcost : (floorSwap X Y).cost t = swapInFloor t X Y + 1 := rfl
  omega

theorem floorSwap_pos {b : ℕ} (h : 0 < (floorSwap X Y).out b) : 0 < b := by
  have := pos_of_swapOut_pos h
  omega

theorem ceilSwap_pos {b : ℕ} (h : 0 < (ceilSwap X Y).out b) : 0 < b := by
  have := pos_of_swapOut_pos h
  omega

end Swap

end exchange
