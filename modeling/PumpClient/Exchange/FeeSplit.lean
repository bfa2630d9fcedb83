import Mathlib.Algebra.Order.Floor.Div
import Mathlib.Algebra.Order.BigOperators.Group.List
import Mathlib.Tactic.Linarith
import Mathlib.Tactic.Ring

namespace exchange

/-- A scaled excess of less than one scale for each of `c` roundings is an
    excess of less than `c` units. -/
theorem le_add_pred_of_mul_le {scale a b c : ℕ} (hscale : 0 < scale)
    (h : scale * a ≤ scale * b + (scale - 1) * c) : a ≤ b + (c - 1) := by
  rcases Nat.eq_zero_or_pos c with rfl | hpos
  · rw [Nat.mul_zero, Nat.add_zero] at h
    exact Nat.le_of_mul_le_mul_left h hscale
  · have hless := Nat.mul_lt_mul_of_pos_right (Nat.sub_lt hscale Nat.one_pos) hpos
    have hlt : scale * a < scale * (b + c) := by
      rw [Nat.mul_add]
      omega
    have := Nat.lt_of_mul_lt_mul_left hlt
    omega

/-- Fee components charged at `rate / scale` each, every one rounded up. -/
structure FeeSchedule where
  scale : ℕ
  rates : List ℕ
  scale_pos : 0 < scale

namespace FeeSchedule

variable (s : FeeSchedule)

def total : ℕ := s.rates.sum

/-- The number of components that charge anything. -/
def charged : ℕ := s.rates.countP (· ≠ 0)

def fee (n rate : ℕ) : ℕ := (n * rate) ⌈/⌉ s.scale

def fees (n : ℕ) : ℕ := (s.rates.map (s.fee n)).sum

/-- A net amount with its fees on top. -/
def gross (n : ℕ) : ℕ := n + s.fees n

/-- The net amount of an exact input before the fees' roundings are known. -/
def floorNet (b : ℕ) : ℕ := b * s.scale / (s.scale + s.total)

/-- The net amount of an exact input: what the rounded-up fees overshoot is
    shaved off it. -/
def net (b : ℕ) : ℕ := s.floorNet b - (s.floorNet b + s.fees (s.floorNet b) - b)

/-- An exact input less its fees: the net with the rounding remainder in it. -/
def wholeNet (b : ℕ) : ℕ := b - s.fees (s.floorNet b)

/-- What an exact input is charged: the fees stay those of the unshaved net. -/
def charge (b : ℕ) : ℕ := s.net b + s.fees (s.floorNet b)

variable {s}

theorem fee_mono {n n' : ℕ} (h : n ≤ n') (rate : ℕ) : s.fee n rate ≤ s.fee n' rate :=
  Nat.div_le_div_right (Nat.sub_le_sub_right (Nat.add_le_add_right (Nat.mul_le_mul_right rate h) _) 1)

theorem fees_mono {n n' : ℕ} (h : n ≤ n') : s.fees n ≤ s.fees n' :=
  List.sum_le_sum fun rate _ => fee_mono h rate

theorem gross_mono {n n' : ℕ} (h : n ≤ n') : s.gross n ≤ s.gross n' :=
  Nat.add_le_add h (fees_mono h)

theorem mul_le_scale_mul_fee (n rate : ℕ) : n * rate ≤ s.scale * s.fee n rate :=
  le_smul_ceilDiv s.scale_pos

/-- A component of at most the whole charges at most the amount. -/
theorem fee_le {rate : ℕ} (hrate : rate ≤ s.scale) (n : ℕ) : s.fee n rate ≤ n := by
  rw [fee, ceilDiv_le_iff_le_mul s.scale_pos, Nat.mul_comm s.scale]
  exact Nat.mul_le_mul_left n hrate

/-- Rounding up costs each charged component less than one unit. -/
theorem scale_mul_fee_lt (n rate : ℕ) :
    s.scale * s.fee n rate ≤ n * rate + (s.scale - 1) * if rate ≠ 0 then 1 else 0 := by
  have hscale := s.scale_pos
  by_cases hrate : rate = 0
  · simp [hrate, fee]
  · have hdiv : s.fee n rate * s.scale ≤ n * rate + s.scale - 1 := Nat.div_mul_le_self _ _
    rw [if_pos hrate, Nat.mul_comm]
    omega

theorem mul_total_le_scale_mul_fees (n : ℕ) : n * s.total ≤ s.scale * s.fees n := by
  unfold total fees
  induction s.rates with
  | nil => simp
  | cons rate rates ih =>
    have hfee := mul_le_scale_mul_fee (s := s) n rate
    rw [List.map_cons, List.sum_cons, List.sum_cons, Nat.mul_add, Nat.mul_add]
    omega

theorem scale_mul_fees_le (n : ℕ) :
    s.scale * s.fees n ≤ n * s.total + (s.scale - 1) * s.charged := by
  unfold total fees charged
  induction s.rates with
  | nil => simp
  | cons rate rates ih =>
    have hfee := scale_mul_fee_lt (s := s) n rate
    rw [List.map_cons, List.sum_cons, List.sum_cons, List.countP_cons, Nat.mul_add, Nat.mul_add,
      Nat.mul_add]
    simp only [decide_eq_true_eq]
    omega

theorem floorNet_mul_le (b : ℕ) : s.floorNet b * (s.scale + s.total) ≤ b * s.scale :=
  Nat.div_mul_le_self _ _

theorem lt_floorNet_succ_mul (b : ℕ) : b * s.scale < (s.floorNet b + 1) * (s.scale + s.total) := by
  have hscale := s.scale_pos
  rw [Nat.mul_comm (s.floorNet b + 1)]
  exact Nat.lt_mul_div_succ _ (by omega)

theorem floorNet_le (b : ℕ) : s.floorNet b ≤ b := by
  have hle := floorNet_mul_le (s := s) b
  have hscale := s.scale_pos
  by_contra hnot
  nlinarith

/-- Each component's fee on the unshaved net fits in what the net leaves. -/
theorem fee_floorNet_le {b rate : ℕ} (hrate : rate ∈ s.rates) :
    s.floorNet b + s.fee (s.floorNet b) rate ≤ b := by
  have hle := floorNet_mul_le (s := s) b
  have hnet := floorNet_le (s := s) b
  have hscale := s.scale_pos
  have hsum : rate ≤ s.total := List.le_sum_of_mem hrate
  have hmul := Nat.mul_le_mul_left (s.floorNet b) hsum
  have hfee : s.fee (s.floorNet b) rate ≤ b - s.floorNet b := by
    unfold fee
    rw [ceilDiv_le_iff_le_mul hscale, Nat.mul_sub, Nat.mul_comm s.scale b,
      Nat.mul_comm s.scale (s.floorNet b)]
    rw [Nat.mul_add] at hle
    omega
  omega

theorem net_le_floorNet (b : ℕ) : s.net b ≤ s.floorNet b := Nat.sub_le _ _

theorem net_le (b : ℕ) : s.net b ≤ b := (net_le_floorNet b).trans (floorNet_le b)

/-- An input that leaves something to swap covers its charge. -/
theorem charge_le {b : ℕ} (h : 0 < s.net b) : s.charge b ≤ b := by
  unfold charge
  unfold net at h ⊢
  omega

/-- A shaved net and its fees are the whole input. -/
theorem charge_eq_of_net_lt {b : ℕ} (hpos : 0 < s.net b) (h : s.net b < s.floorNet b) :
    s.charge b = b := by
  unfold charge
  unfold net at hpos h ⊢
  omega

theorem gross_net_le_charge (b : ℕ) : s.gross (s.net b) ≤ s.charge b :=
  Nat.add_le_add_left (fees_mono (net_le_floorNet b)) _

/-- An amount short of the net of an input grosses up to less than its charge. -/
theorem gross_lt_charge {n b : ℕ} (h : n < s.net b) : s.gross n < s.charge b :=
  Nat.add_lt_add_of_lt_of_le h (fees_mono (h.le.trans (net_le_floorNet b)))

theorem net_le_wholeNet (b : ℕ) : s.net b ≤ s.wholeNet b := by
  unfold net wholeNet
  omega

theorem wholeNet_le (b : ℕ) : s.wholeNet b ≤ b := Nat.sub_le _ _

/-- A split that leaves no remainder has the one net. -/
theorem wholeNet_eq_net {b : ℕ} (h : s.charge b = b) : s.wholeNet b = s.net b := by
  unfold charge at h
  unfold wholeNet
  omega

/-- An input of at most the gross of `n` nets at most `n`. -/
theorem net_le_of_le_gross {b n : ℕ} (h : b ≤ s.gross n) : s.net b ≤ n := by
  by_contra hnot
  have hfloor := net_le_floorNet (s := s) b
  have hfees : s.fees n ≤ s.fees (s.floorNet b) := fees_mono (by omega)
  have hsub := net_le_wholeNet (s := s) b
  unfold gross at h
  unfold wholeNet at hsub
  omega

/-- The shave is less than the number of charged components. -/
theorem floorNet_le_net_add (b : ℕ) : s.floorNet b ≤ s.net b + (s.charged - 1) := by
  have hfees := scale_mul_fees_le (s := s) (s.floorNet b)
  have hfloor := floorNet_mul_le (s := s) b
  have hscale := s.scale_pos
  have hover : s.scale * (s.floorNet b + s.fees (s.floorNet b)) ≤
      s.scale * b + (s.scale - 1) * s.charged := by
    rw [Nat.mul_add, Nat.mul_comm s.scale b]
    rw [Nat.mul_add, Nat.mul_comm _ s.scale] at hfloor
    omega
  have hunits := le_add_pred_of_mul_le hscale hover
  unfold net
  omega

/-- What an input leaves beyond the unshaved net and its fees is below one
    unit for each full scale of the total rate, and one more. -/
theorem scale_mul_remainder_lt (b : ℕ) :
    s.scale * (b - s.floorNet b - s.fees (s.floorNet b)) < s.scale + s.total := by
  have hfees := mul_total_le_scale_mul_fees (s := s) (s.floorNet b)
  have hfloor := lt_floorNet_succ_mul (s := s) b
  have hscale := s.scale_pos
  rw [Nat.mul_sub, Nat.mul_sub, Nat.mul_comm s.scale b]
  have hexpand : (s.floorNet b + 1) * (s.scale + s.total) =
      s.scale * s.floorNet b + s.floorNet b * s.total + s.scale + s.total := by ring
  omega

/-- At a total rate of at most the whole, the remainder is at most one unit. -/
theorem wholeNet_le_floorNet_succ (htotal : s.total ≤ s.scale) (b : ℕ) :
    s.wholeNet b ≤ s.floorNet b + 1 := by
  have hremainder := scale_mul_remainder_lt (s := s) b
  have hlt : s.scale * (b - s.floorNet b - s.fees (s.floorNet b)) < s.scale * 2 := by omega
  have := Nat.lt_of_mul_lt_mul_left hlt
  unfold wholeNet
  omega

/-- An amount short of an input less its fees grosses up to less than the
    input. -/
theorem gross_lt_of_lt_wholeNet (htotal : s.total ≤ s.scale) {n b : ℕ} (h : n < s.wholeNet b) :
    s.gross n < b := by
  have hsucc := wholeNet_le_floorNet_succ htotal b
  have hfees : s.fees n ≤ s.fees (s.floorNet b) := fees_mono (by omega)
  unfold wholeNet at h
  unfold gross
  omega

end FeeSchedule

end exchange
