import PumpClient.Machine.Outcome
import Mathlib.Algebra.Order.Floor.Div

namespace machine

/-- Whether a program is built with overflow checks. With them an operator
    whose exact value does not fit panics; without them the value wraps. -/
class Build where
  overflow_checks : Bool

section Operators

variable [Build] {ε α : Type}

/-- The result of an unchecked operator: `wrapped` is exact when `fits`. -/
def operator (fits : Prop) [Decidable fits] (wrapped : α) : Outcome ε α :=
  if fits then .ok wrapped else if Build.overflow_checks then Outcome.panic else .ok wrapped

theorem operator_fits {fits : Prop} [Decidable fits] (h : fits) (wrapped : α) :
    (operator fits wrapped : Outcome ε α) = .ok wrapped := if_pos h

end Operators

namespace U8

def checked_add (a b : UInt8) : Option UInt8 :=
  if a.toNat + b.toNat < 2 ^ 8 then some (a + b) else none

theorem checked_add_eq_some {a b c : UInt8} (h : checked_add a b = some c) :
    c.toNat = a.toNat + b.toNat := by
  unfold checked_add at h
  split at h
  · next hlt =>
    cases h
    rw [UInt8.toNat_add, Nat.mod_eq_of_lt hlt]
  · cases h

end U8

namespace U64

/-- `x as u64` of a `u128`. -/
def cast (n : Nat) : UInt64 := UInt64.ofNat n

/-- `u64::try_from` of a `u128`. -/
def try_from (n : Nat) : Option UInt64 := if n < 2 ^ 64 then some (cast n) else none

/-- `u64::try_from` of an `i128`. -/
def try_from_int (n : Int) : Option UInt64 :=
  if 0 ≤ n then try_from n.toNat else none

def checked_add (a b : UInt64) : Option UInt64 :=
  if a.toNat + b.toNat < 2 ^ 64 then some (a + b) else none

def checked_sub (a b : UInt64) : Option UInt64 :=
  if b ≤ a then some (a - b) else none

theorem toNat_lt (a : UInt64) : a.toNat < 2 ^ 64 := a.toNat_lt_size

theorem toNat_cast (n : Nat) : (cast n).toNat = n % 2 ^ 64 := UInt64.toNat_ofNat'

theorem toNat_cast_of_lt {n : Nat} (h : n < 2 ^ 64) : (cast n).toNat = n := by
  rw [toNat_cast, Nat.mod_eq_of_lt h]

@[simp] theorem cast_toNat (a : UInt64) : cast a.toNat = a := UInt64.ofNat_toNat

theorem pos_iff {a : UInt64} : 0 < a ↔ 0 < a.toNat := UInt64.lt_iff_toNat_lt

theorem ne_zero_iff {a : UInt64} : a ≠ 0 ↔ 0 < a.toNat := by
  rw [← UInt64.pos_iff_ne_zero, pos_iff]

theorem toNat_max (a b : UInt64) : (max a b).toNat = max a.toNat b.toNat := by
  rw [show max a b = if a ≤ b then b else a from rfl]
  split
  · next h => exact (max_eq_right (UInt64.le_iff_toNat_le.mp h)).symm
  · next h =>
    rw [UInt64.le_iff_toNat_le, not_le] at h
    exact (max_eq_left h.le).symm

theorem toNat_add_of_lt {a b : UInt64} (h : a.toNat + b.toNat < 2 ^ 64) :
    (a + b).toNat = a.toNat + b.toNat := by
  rw [UInt64.toNat_add, Nat.mod_eq_of_lt h]

theorem toNat_sub_of_le {a b : UInt64} (h : b.toNat ≤ a.toNat) :
    (a - b).toNat = a.toNat - b.toNat :=
  UInt64.toNat_sub_of_le a b (UInt64.le_iff_toNat_le.mpr h)

theorem try_from_eq_some_iff {n : Nat} {a : UInt64} : try_from n = some a ↔ a.toNat = n := by
  unfold try_from
  constructor
  · intro h
    split at h
    · next hlt =>
      cases h
      exact toNat_cast_of_lt hlt
    · cases h
  · rintro rfl
    rw [if_pos (toNat_lt a), cast_toNat]

theorem try_from_int_eq_some_iff {n : Int} {a : UInt64} :
    try_from_int n = some a ↔ (a.toNat : Int) = n := by
  unfold try_from_int
  split
  · rw [try_from_eq_some_iff]
    omega
  · simp only [reduceCtorEq, false_iff]
    omega

theorem try_from_of_lt {n : Nat} (h : n < 2 ^ 64) : try_from n = some (cast n) := if_pos h

theorem try_from_of_ge {n : Nat} (h : ¬ n < 2 ^ 64) : try_from n = none := if_neg h

theorem checked_add_eq_some_iff {a b c : UInt64} :
    checked_add a b = some c ↔ c.toNat = a.toNat + b.toNat := by
  unfold checked_add
  have hc := toNat_lt c
  constructor
  · intro h
    split at h
    · next hlt =>
      cases h
      exact toNat_add_of_lt hlt
    · cases h
  · intro h
    have hlt : a.toNat + b.toNat < 2 ^ 64 := by omega
    rw [if_pos hlt]
    exact congrArg some (UInt64.toNat_inj.mp (by rw [toNat_add_of_lt hlt, h]))

theorem checked_sub_eq_some_iff {a b c : UInt64} :
    checked_sub a b = some c ↔ c.toNat + b.toNat = a.toNat := by
  unfold checked_sub
  simp only [UInt64.le_iff_toNat_le]
  constructor
  · intro h
    split at h
    · next hle =>
      cases h
      rw [toNat_sub_of_le hle]
      omega
    · cases h
  · intro h
    have hle : b.toNat ≤ a.toNat := by omega
    rw [if_pos hle]
    refine congrArg some (UInt64.toNat_inj.mp ?_)
    rw [toNat_sub_of_le hle]
    omega

/-- `checked_sub(..).filter(|n| *n > 0)`. -/
theorem checked_sub_filter_pos (a b : UInt64) :
    (checked_sub a b).filter (0 < ·) = if b.toNat < a.toNat then some (a - b) else none := by
  unfold checked_sub
  simp only [UInt64.le_iff_toNat_le]
  rcases Nat.lt_trichotomy b.toNat a.toNat with h | h | h
  · have hpos : 0 < a - b := by
      rw [UInt64.lt_iff_toNat_lt, toNat_sub_of_le h.le]
      exact Nat.sub_pos_of_lt h
    simp [h.le, h, hpos]
  · obtain rfl : b = a := UInt64.toNat_inj.mp h
    simp
  · simp [Nat.not_le.mpr h, h.le]

section Operators

variable [Build] {ε : Type}

/-- `a + b` on `u64`. -/
def add (a b : UInt64) : Outcome ε UInt64 := operator (a.toNat + b.toNat < 2 ^ 64) (a + b)

/-- `a - b` on `u64`. -/
def sub (a b : UInt64) : Outcome ε UInt64 := operator (b ≤ a) (a - b)

/-- `iter().sum::<u64>()`. -/
def sum (l : List UInt64) : Outcome ε UInt64 := l.foldlM add 0

theorem add_eq_ok {a b : UInt64} (h : a.toNat + b.toNat < 2 ^ 64) :
    (add a b : Outcome ε UInt64) = .ok (a + b) := operator_fits h _

theorem add_cast_eq_ok {a : UInt64} {n : Nat} (h : a.toNat + n < 2 ^ 64) :
    (add a (cast n) : Outcome ε UInt64) = .ok (cast (a.toNat + n)) := by
  have hn : (cast n).toNat = n := toNat_cast_of_lt (by omega)
  rw [add_eq_ok (by omega)]
  refine congrArg Except.ok (UInt64.toNat_inj.mp ?_)
  rw [toNat_add_of_lt (by omega), hn, toNat_cast_of_lt h]

theorem sub_eq_ok {a b : UInt64} (h : b.toNat ≤ a.toNat) :
    (sub a b : Outcome ε UInt64) = .ok (a - b) :=
  operator_fits (UInt64.le_iff_toNat_le.mpr h) _

private theorem foldlM_add_word_eq_ok (l : List UInt64) :
    ∀ acc : UInt64, acc.toNat + (l.map UInt64.toNat).sum < 2 ^ 64 →
      (l.foldlM add acc : Outcome ε UInt64) =
        .ok (cast (acc.toNat + (l.map UInt64.toNat).sum)) := by
  induction l with
  | nil =>
    intro acc _
    rw [List.map_nil, List.sum_nil, Nat.add_zero, cast_toNat]
    rfl
  | cons a l ih =>
    intro acc h
    rw [List.map_cons, List.sum_cons] at h ⊢
    have hadd : (acc + a).toNat = acc.toNat + a.toNat := toNat_add_of_lt (by omega)
    rw [List.foldlM_cons, add_eq_ok (by omega), Outcome.ok_bind, ih (acc + a) (by omega), hadd,
      Nat.add_assoc]

theorem sum_eq_ok {l : List UInt64} (h : (l.map UInt64.toNat).sum < 2 ^ 64) :
    (sum l : Outcome ε UInt64) = .ok (cast (l.map UInt64.toNat).sum) := by
  have hzero : (0 : UInt64).toNat = 0 := rfl
  rw [sum, foldlM_add_word_eq_ok l 0 (by omega), hzero, Nat.zero_add]

end Operators

end U64

namespace U128

/-! A `u128` is the natural number it holds; each operation says what happens
when its exact value does not fit. -/

def checked_add (a b : Nat) : Option Nat := if a + b < 2 ^ 128 then some (a + b) else none

def checked_sub (a b : Nat) : Option Nat := if b ≤ a then some (a - b) else none

def checked_mul (a b : Nat) : Option Nat := if a * b < 2 ^ 128 then some (a * b) else none

def checked_div (a b : Nat) : Option Nat := if b = 0 then none else some (a / b)

/-- `u128::try_from` of an `i128`. -/
def try_from_int (n : Int) : Option Nat := if 0 ≤ n then some n.toNat else none

theorem try_from_int_eq_some_iff {n : Int} {a : Nat} : try_from_int n = some a ↔ (a : Int) = n := by
  unfold try_from_int
  split
  · rw [Option.some_inj]
    omega
  · simp only [reduceCtorEq, false_iff]
    omega

theorem checked_add_of_lt {a b : Nat} (h : a + b < 2 ^ 128) : checked_add a b = some (a + b) :=
  if_pos h

theorem checked_mul_of_lt {a b : Nat} (h : a * b < 2 ^ 128) : checked_mul a b = some (a * b) :=
  if_pos h

theorem checked_div_of_pos {a b : Nat} (h : 0 < b) : checked_div a b = some (a / b) :=
  if_neg h.ne'

theorem checked_add_eq_some_iff {a b c : Nat} :
    checked_add a b = some c ↔ c = a + b ∧ a + b < 2 ^ 128 := by
  unfold checked_add
  split
  · rw [Option.some_inj]
    omega
  · simp only [reduceCtorEq, false_iff]
    omega

theorem checked_sub_eq_some_iff {a b c : Nat} : checked_sub a b = some c ↔ c + b = a := by
  unfold checked_sub
  constructor
  · intro h
    split at h
    · next hle =>
      cases h
      omega
    · cases h
  · intro h
    rw [if_pos (by omega)]
    exact congrArg some (by omega)

/-- `checked_sub(..).filter(|n| *n > 0)`. -/
theorem checked_sub_filter_pos (a b : Nat) :
    (checked_sub a b).filter (0 < ·) = if b < a then some (a - b) else none := by
  unfold checked_sub
  rcases Nat.lt_trichotomy b a with h | rfl | h
  · simp [h.le, h]
  · simp
  · simp [Nat.not_le.mpr h, h.le]

/-- The product of two `u64` values fits a `u128`. -/
theorem mul_lt {a b : Nat} (ha : a < 2 ^ 64) (hb : b < 2 ^ 64) : a * b < 2 ^ 128 := by
  have h := Nat.mul_lt_mul'' ha hb
  omega

section Operators

variable {ε : Type}

/-- `a / b` on `u128`: a zero divisor panics in every build. -/
def div (a b : Nat) : Outcome ε Nat := if b = 0 then Outcome.panic else .ok (a / b)

/-- `a.div_ceil(b)` on `u128`: a zero divisor panics in every build. -/
def div_ceil (a b : Nat) : Outcome ε Nat := if b = 0 then Outcome.panic else .ok (a ⌈/⌉ b)

theorem div_eq_ok {a b : Nat} (h : 0 < b) : (div a b : Outcome ε Nat) = .ok (a / b) := if_neg h.ne'

theorem div_ceil_eq_ok {a b : Nat} (h : 0 < b) : (div_ceil a b : Outcome ε Nat) = .ok (a ⌈/⌉ b) :=
  if_neg h.ne'

variable [Build]

/-- `a + b` on `u128`. -/
def add (a b : Nat) : Outcome ε Nat := operator (a + b < 2 ^ 128) ((a + b) % 2 ^ 128)

/-- `a - b` on `u128`. -/
def sub (a b : Nat) : Outcome ε Nat := operator (b ≤ a) ((a + 2 ^ 128 - b) % 2 ^ 128)

/-- `a * b` on `u128`. -/
def mul (a b : Nat) : Outcome ε Nat := operator (a * b < 2 ^ 128) (a * b % 2 ^ 128)

/-- `iter().sum::<u128>()`. -/
def sum (l : List Nat) : Outcome ε Nat := l.foldlM add 0

theorem add_eq_ok {a b : Nat} (h : a + b < 2 ^ 128) : (add a b : Outcome ε Nat) = .ok (a + b) := by
  rw [add, operator_fits h, Nat.mod_eq_of_lt h]

theorem sub_eq_ok {a b : Nat} (h : b ≤ a) (ha : a < 2 ^ 128) :
    (sub a b : Outcome ε Nat) = .ok (a - b) := by
  rw [sub, operator_fits h]
  congr 1
  omega

theorem mul_eq_ok {a b : Nat} (h : a * b < 2 ^ 128) : (mul a b : Outcome ε Nat) = .ok (a * b) := by
  rw [mul, operator_fits h, Nat.mod_eq_of_lt h]

private theorem foldlM_add_eq_ok (l : List Nat) :
    ∀ acc, acc + l.sum < 2 ^ 128 → (l.foldlM add acc : Outcome ε Nat) = .ok (acc + l.sum) := by
  induction l with
  | nil => intro acc _; rfl
  | cons a l ih =>
    intro acc h
    rw [List.sum_cons] at h
    rw [List.foldlM_cons, add_eq_ok (by omega), Outcome.ok_bind, ih (acc + a) (by omega),
      List.sum_cons]
    congr 1
    omega

theorem sum_eq_ok {l : List Nat} (h : l.sum < 2 ^ 128) : (sum l : Outcome ε Nat) = .ok l.sum := by
  rw [sum, foldlM_add_eq_ok l 0 (by omega), Nat.zero_add]

end Operators

end U128

/-- A signed 128-bit integer. -/
structure I128 where
  val : Int
  range : -2 ^ 127 ≤ val ∧ val < 2 ^ 127
  deriving DecidableEq

namespace I128

def ofInt? (n : Int) : Option I128 :=
  if h : -2 ^ 127 ≤ n ∧ n < 2 ^ 127 then some ⟨n, h⟩ else none

/-- `i128::from` of a `u64`. -/
def from_u64 (a : UInt64) : I128 :=
  ⟨a.toNat, by have := U64.toNat_lt a; omega⟩

/-- The two's-complement value of an integer of any size. -/
def wrap (n : Int) : Int := (n + 2 ^ 127) % 2 ^ 128 - 2 ^ 127

theorem wrap_range (n : Int) : -2 ^ 127 ≤ wrap n ∧ wrap n < 2 ^ 127 := by
  unfold wrap
  omega

theorem wrap_eq_self {n : Int} (h : -2 ^ 127 ≤ n ∧ n < 2 ^ 127) : wrap n = n := by
  unfold wrap
  omega

/-- `x as i128` of a `u128`. -/
def cast (n : Nat) : I128 := ⟨wrap n, wrap_range n⟩

def checked_add (a b : I128) : Option I128 := ofInt? (a.val + b.val)

/-- `a - b` on `i128`. -/
def sub [Build] {ε : Type} (a b : I128) : Outcome ε I128 :=
  operator (-2 ^ 127 ≤ a.val - b.val ∧ a.val - b.val < 2 ^ 127)
    ⟨wrap (a.val - b.val), wrap_range _⟩

@[ext] theorem ext {a b : I128} (h : a.val = b.val) : a = b := by
  cases a
  cases b
  simp_all

theorem ofInt?_eq_some_iff {n : Int} {a : I128} : ofInt? n = some a ↔ a.val = n := by
  unfold ofInt?
  constructor
  · intro h
    split at h
    · cases h
      rfl
    · cases h
  · rintro rfl
    rw [dif_pos a.range]

theorem checked_add_eq_some_iff {a b c : I128} :
    checked_add a b = some c ↔ c.val = a.val + b.val := ofInt?_eq_some_iff

theorem cast_val_of_lt {n : Nat} (h : n < 2 ^ 127) : (cast n).val = n :=
  wrap_eq_self (by omega)

/-- Subtraction does not overflow when the difference fits. -/
theorem sub_eq_ok [Build] {ε : Type} {a b c : I128} (h : c.val = a.val - b.val) :
    (sub a b : Outcome ε I128) = .ok c := by
  rw [sub, operator_fits (h ▸ c.range)]
  exact congrArg Except.ok (ext ((wrap_eq_self (h ▸ c.range)).trans h.symm))

end I128

end machine
