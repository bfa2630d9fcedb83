import PumpClient.Exchange.Monotone

namespace exchange

namespace FeeSchedule

variable {s s' : FeeSchedule}

/-- `s` charges no component more than `s'` does. -/
structure Discounts (s s' : FeeSchedule) : Prop where
  scale_eq : s.scale = s'.scale
  rates_le : List.Forall₂ (· ≤ ·) s.rates s'.rates

/-- Fees that leave something of an amount add up to less than the whole. -/
theorem total_lt_of_fees_lt {n : ℕ} (h : s.fees n < n) : s.total < s.scale := by
  have htotal := mul_total_le_scale_mul_fees (s := s) n
  have hlt : n * s.total < n * s.scale := by
    rw [Nat.mul_comm n s.scale]
    exact htotal.trans_lt (Nat.mul_lt_mul_of_pos_left h s.scale_pos)
  exact Nat.lt_of_mul_lt_mul_left hlt

theorem fee_mono_rate {rate rate' : ℕ} (h : rate ≤ rate') (n : ℕ) : s.fee n rate ≤ s.fee n rate' :=
  Nat.div_le_div_right (Nat.sub_le_sub_right (Nat.add_le_add_right (Nat.mul_le_mul_left n h) _) 1)

namespace Discounts

theorem fees_le (h : s.Discounts s') (n : ℕ) : s.fees n ≤ s'.fees n := by
  have hfee : ∀ rate, s.fee n rate = s'.fee n rate := fun rate => by rw [fee, fee, h.scale_eq]
  have hrates := h.rates_le
  unfold fees
  generalize s.rates = rates, s'.rates = rates' at hrates
  induction hrates with
  | nil => exact le_rfl
  | cons hrate _ ih =>
    rw [List.map_cons, List.map_cons, List.sum_cons, List.sum_cons, hfee]
    exact Nat.add_le_add (fee_mono_rate hrate n) ih

theorem total_le (h : s.Discounts s') : s.total ≤ s'.total := h.rates_le.sum_le_sum

theorem gross_le (h : s.Discounts s') (n : ℕ) : s.gross n ≤ s'.gross n :=
  Nat.add_le_add_left (h.fees_le n) n

theorem floorNet_le (h : s.Discounts s') (b : ℕ) : s'.floorNet b ≤ s.floorNet b := by
  unfold floorNet
  rw [h.scale_eq]
  exact Nat.div_le_div_left (Nat.add_le_add_left h.total_le _)
    (Nat.add_pos_left s'.scale_pos _)

/-- With at most two components left the net is no smaller: where the unshaved
    nets differ at all, they differ by the unit the shave may take. -/
theorem net_le (h : s.Discounts s') (hcharged : s.charged ≤ 2) (b : ℕ) : s'.net b ≤ s.net b := by
  have hfloor := h.floorNet_le b
  have hnet := net_le_floorNet (s := s') b
  have hshave := floorNet_le_net_add (s := s) b
  rcases Nat.eq_or_lt_of_le hfloor with heq | hlt
  · have hfees := h.fees_le (s.floorNet b)
    unfold net
    rw [heq]
    omega
  · omega

/-- What a gross amount leaves after fewer fees, on the amount itself or, with
    a single component left, on a larger one. -/
theorem kept_le (h : s.Discounts s') {n n' : ℕ} (hle : n = n' ∨ n ≤ n' ∧ s.charged ≤ 1)
    (hkept : s.fees n' < n') : n - s'.fees n ≤ n' - s.fees n' := by
  have hfees := h.fees_le n
  rcases hle with rfl | ⟨hle, hcharged⟩
  · omega
  · have hmono := kept_le_kept_add (total_lt_of_fees_lt hkept).le hle
    omega

/-- The trade behind the fees gets no less of a budget. -/
theorem comp_out_le {γ : Type*} [AddCommMonoid γ] [PartialOrder γ] [CanonicallyOrderedAdd γ]
    (h : s.Discounts s') (hcharged : s.charged ≤ 2) {inner : Quoter ℕ γ}
    (hpos : ∀ {b}, 0 < inner.out b → 0 < b) (hinner : Monotone inner.out) (b : ℕ) :
    (s'.quoter.comp inner hpos).out b ≤ (s.quoter.comp inner hpos).out b :=
  hinner (h.net_le hcharged b)

end Discounts

end FeeSchedule

namespace Quoter

variable {α β : Type*}
  [AddCommMonoid α] [LinearOrder α] [CanonicallyOrderedAdd α] [IsOrderedCancelAddMonoid α]
  [Sub α] [OrderedSub α]
  [AddCommMonoid β] [LinearOrder β] [CanonicallyOrderedAdd β] [IsOrderedCancelAddMonoid β]
  [Sub β] [OrderedSub β]

/-- A better first venue crosses no later, and leaves the second no less when
    it sells `r` no dearer. -/
theorem glue_out_le {first first' second second' : Quoter α β} {r : β}
    (hfirst : ∀ a, first'.out a ≤ first.out a) (hcost : first.cost r ≤ first'.cost r)
    (hsecond : ∀ a, second'.out a ≤ second.out a) (hmono : Monotone second.out) (a : α) :
    (first'.glue r second').out a ≤ (first.glue r second).out a := by
  rcases le_or_gt (first'.out a) r with hin' | hpast'
  · rw [glue_out_of_le hin']
    rcases le_or_gt (first.out a) r with hin | hpast
    · rw [glue_out_of_le hin]
      exact hfirst a
    · rw [glue_out_of_lt hpast]
      exact hin'.trans le_self_add
  · rw [glue_out_of_lt hpast', glue_out_of_lt (hpast'.trans_le (hfirst a))]
    apply add_le_add_right
    exact (hsecond _).trans (hmono (tsub_le_tsub_left hcost a))

end Quoter

end exchange
