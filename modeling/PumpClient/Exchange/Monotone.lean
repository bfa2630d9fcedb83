import PumpClient.Exchange.Quoter

namespace exchange

/-- A deeper paid-out side pays out more. -/
theorem swapOut_mono_right {Y Y' : ℕ} (h : Y ≤ Y') (n X : ℕ) : swapOut n X Y ≤ swapOut n X Y' :=
  Nat.div_le_div_right (Nat.mul_le_mul_left n h)

/-- A deeper paying side buys less. -/
theorem swapOut_anti {X X' : ℕ} (h : X ≤ X') (n Y : ℕ) : swapOut n X' Y ≤ swapOut n X Y := by
  have hle := swapOut_mul_le n X' Y
  rcases Nat.eq_zero_or_pos (X + n) with hzero | hpos
  · obtain rfl : n = 0 := by omega
    simp
  · rw [show swapOut n X Y = n * Y / (X + n) from rfl, Nat.le_div_iff_mul_le hpos]
    calc swapOut n X' Y * (X + n) ≤ swapOut n X' Y * (X' + n) := Nat.mul_le_mul_left _ (by omega)
      _ ≤ n * Y := hle

/-- What is left of an amount scaled by `u / r` when it is scaled back: never more,
    and less by at most the whole part of `r / u` and a unit. -/
theorem scale_back_bounds (amount : ℕ) {u r : ℕ} (hu : 0 < u) (hr : 0 < r) :
    amount * u / r * r / u ≤ amount ∧ amount - 1 - r / u ≤ amount * u / r * r / u := by
  have hdown := Nat.div_mul_le_self (amount * u) r
  have hup := Nat.lt_div_mul_add hr (a := amount * u)
  constructor
  · apply Nat.div_le_of_le_mul
    rw [Nat.mul_comm u]
    exact hdown
  · have hratio := Nat.lt_mul_div_succ r hu
    rw [Nat.le_div_iff_mul_le hu, Nat.sub_sub, Nat.sub_mul, Nat.add_mul]
    rw [Nat.mul_add, Nat.mul_comm u] at hratio
    omega

namespace FeeSchedule

variable {s : FeeSchedule}

theorem floorNet_mono {b b' : ℕ} (h : b ≤ b') : s.floorNet b ≤ s.floorNet b' :=
  Nat.div_le_div_right (Nat.mul_le_mul_right _ h)

/-- A larger budget nets less by at most the part of the shave that exceeds
    the unit its floor gains. -/
theorem net_le_net_add {b b' : ℕ} (h : b ≤ b') : s.net b ≤ s.net b' + (s.charged - 2) := by
  have hfloor := floorNet_mono (s := s) h
  have hnet := net_le_floorNet (s := s) b
  have hshave := floorNet_le_net_add (s := s) b'
  rcases Nat.eq_or_lt_of_le hfloor with heq | hlt
  · unfold net
    rw [← heq]
    omega
  · omega

/-- With at most two components the shave is at most one unit, so it never
    undoes a larger budget. -/
theorem net_mono (hcharged : s.charged ≤ 2) {b b' : ℕ} (h : b ≤ b') : s.net b ≤ s.net b' := by
  have hle := net_le_net_add (s := s) h
  omega

theorem fee_add_le (n d rate : ℕ) : s.fee (n + d) rate ≤ s.fee n rate + s.fee d rate := by
  have hn := mul_le_scale_mul_fee (s := s) n rate
  have hd := mul_le_scale_mul_fee (s := s) d rate
  rw [fee, ceilDiv_le_iff_le_mul s.scale_pos, Nat.add_mul, Nat.mul_add]
  exact Nat.add_le_add hn hd

theorem fees_add_le (n d : ℕ) : s.fees (n + d) ≤ s.fees n + s.fees d := by
  unfold fees
  rw [← List.sum_map_add]
  exact List.sum_le_sum fun rate _ => fee_add_le n d rate

/-- At a total rate of at most the whole, the fees of an amount exceed it by
    less than one unit for each charged component. -/
theorem fees_le_add (htotal : s.total ≤ s.scale) (n : ℕ) : s.fees n ≤ n + (s.charged - 1) := by
  have hfees := scale_mul_fees_le (s := s) n
  have hrates := Nat.mul_le_mul_left n htotal
  apply le_add_pred_of_mul_le s.scale_pos
  rw [Nat.mul_comm s.scale n]
  omega

/-- What a gross amount leaves after its fees falls behind that of a smaller
    one by less than one unit for each charged component. -/
theorem kept_le_kept_add (htotal : s.total ≤ s.scale) {n n' : ℕ} (h : n ≤ n') :
    n - s.fees n ≤ n' - s.fees n' + (s.charged - 1) := by
  obtain ⟨extra, rfl⟩ := Nat.exists_eq_add_of_le h
  have hadd := fees_add_le (s := s) n extra
  have hextra := fees_le_add htotal extra
  omega

theorem quoter_out_mono (hcharged : s.charged ≤ 2) : Monotone s.quoter.out :=
  fun _ _ h => net_mono hcharged h

/-- What an exact input leaves once it is charged, in whole units. -/
theorem sub_charge_le (b : ℕ) : b - s.charge b ≤ s.total ⌈/⌉ s.scale := by
  have hremainder := scale_mul_remainder_lt (s := s) b
  have hunits : b - s.floorNet b - s.fees (s.floorNet b) ≤ s.total ⌈/⌉ s.scale := by
    rw [Nat.ceilDiv_eq_add_pred_div, Nat.le_div_iff_mul_le s.scale_pos, Nat.mul_comm]
    omega
  unfold charge net
  omega

end FeeSchedule

theorem floorSwap_out_mono (X Y : ℕ) : Monotone (floorSwap X Y).out :=
  fun _ _ h => swapOut_mono (Nat.sub_le_sub_right h 1) X Y

theorem ceilSwap_out_mono (X Y : ℕ) : Monotone (ceilSwap X Y).out :=
  fun _ _ h => swapOut_mono (Nat.sub_le_sub_right h 1) X Y

namespace Quoter

theorem comp_out_mono {α β γ : Type*} [Preorder α] [Preorder β] [Zero β] [AddCommMonoid γ]
    [PartialOrder γ] [CanonicallyOrderedAdd γ] {outer : Quoter α β} {inner : Quoter β γ}
    (hpos : ∀ {b}, 0 < inner.out b → 0 < b) (houter : Monotone outer.out)
    (hinner : Monotone inner.out) : Monotone (outer.comp inner hpos).out :=
  hinner.comp houter

variable {α β : Type*}
  [AddCommMonoid α] [LinearOrder α] [CanonicallyOrderedAdd α] [IsOrderedCancelAddMonoid α]
  [Sub α] [OrderedSub α]
  [AddCommMonoid β] [LinearOrder β] [CanonicallyOrderedAdd β] [IsOrderedCancelAddMonoid β]
  [Sub β] [OrderedSub β]

/-- A larger budget buys no less on two venues that each sell it no less: past
    `r` it has no less left for the second. -/
theorem glue_out_mono {first second : Quoter α β} (hfirst : Monotone first.out)
    (hsecond : Monotone second.out) (r : β) : Monotone (first.glue r second).out := by
  intro a a' h
  have hout := hfirst h
  rcases le_or_gt (first.out a') r with hin' | hpast'
  · rw [glue_out_of_le (hout.trans hin'), glue_out_of_le hin']
    exact hout
  · rcases le_or_gt (first.out a) r with hin | hpast
    · rw [glue_out_of_le hin, glue_out_of_lt hpast']
      exact hin.trans le_self_add
    · rw [glue_out_of_lt hpast, glue_out_of_lt hpast']
      exact add_le_add_right (hsecond (tsub_le_tsub_right h _)) r

end Quoter

end exchange
