import PumpClient.Machine.Integers

namespace machine

namespace Outcome

variable {ε α β : Type}

/-- A call that returns or panics, but never refuses. -/
def NeverErrs (x : Outcome ε α) : Prop := ∀ e, x ≠ err e

/-- A call that returns or refuses, but never panics. -/
def NeverPanics (x : Outcome ε α) : Prop := x ≠ panic

/-- A call that ends with no fault of this one kind. -/
def Avoids (fault : Fault ε) (x : Outcome ε α) : Prop := x ≠ .error fault

theorem Avoids.bind {fault : Fault ε} {x : Outcome ε α} {f : α → Outcome ε β} (hx : Avoids fault x)
    (hf : ∀ a, x = .ok a → Avoids fault (f a)) : Avoids fault (x >>= f) := by
  intro h
  rcases bind_eq_error_iff.mp h with h | ⟨a, ha, h⟩
  · exact hx h
  · exact hf a ha h

@[simp] theorem avoids_ok (fault : Fault ε) (a : α) : Avoids fault (.ok a : Outcome ε α) := by
  simp [Avoids]

@[simp] theorem neverErrs_ok (a : α) : NeverErrs (.ok a : Outcome ε α) := by simp [NeverErrs, err]

@[simp] theorem neverErrs_panic : NeverErrs (panic : Outcome ε α) := by
  simp [NeverErrs, err, panic]

theorem NeverErrs.bind {x : Outcome ε α} {f : α → Outcome ε β} (hx : NeverErrs x)
    (hf : ∀ a, NeverErrs (f a)) : NeverErrs (x >>= f) :=
  fun e => Avoids.bind (hx e) fun a _ => hf a e

theorem NeverErrs.avoids {x : Outcome ε α} (h : NeverErrs x) (e : ε) : Avoids (.error e) x := h e

@[simp] theorem neverPanics_ok (a : α) : NeverPanics (.ok a : Outcome ε α) := by
  simp [NeverPanics, panic]

@[simp] theorem neverPanics_err (e : ε) : NeverPanics (err e : Outcome ε α) := by
  simp [NeverPanics, err, panic]

@[simp] theorem neverPanics_ok_or (o : Option α) (e : ε) : NeverPanics (ok_or o e) := by
  cases o with
  | none => exact neverPanics_err e
  | some a => exact neverPanics_ok a

@[simp] theorem not_neverPanics_panic : ¬ NeverPanics (panic : Outcome ε α) := fun h => h rfl

theorem NeverPanics.bind {x : Outcome ε α} {f : α → Outcome ε β} (hx : NeverPanics x)
    (hf : ∀ a, x = .ok a → NeverPanics (f a)) : NeverPanics (x >>= f) := Avoids.bind hx hf

theorem NeverPanics.ok_or_err {x : Outcome ε α} (h : NeverPanics x) :
    (∃ a, x = .ok a) ∨ ∃ e, x = err e := by
  cases x with
  | ok a => exact .inl ⟨a, rfl⟩
  | error fault =>
    cases fault with
    | error e => exact .inr ⟨e, rfl⟩
    | panic => exact absurd rfl h

/-- An error that a call did not panic with goes on without a panic. -/
theorem NeverPanics.of_error {x : Outcome ε α} {e : Fault ε} (h : NeverPanics x)
    (hx : x = .error e) : NeverPanics (.error e : Outcome ε β) := by
  intro hpanic
  cases hpanic
  exact h hx

theorem neverPanics_bind_iff {x : Outcome ε α} {f : α → Outcome ε β} :
    NeverPanics (x >>= f) ↔ NeverPanics x ∧ ∀ a, x = .ok a → NeverPanics (f a) := by
  constructor
  · intro h
    constructor
    · rintro rfl
      exact h rfl
    · rintro a rfl
      exact h
  · rintro ⟨hx, hf⟩
    exact hx.bind hf

theorem NeverPanics.ite {p : Prop} [Decidable p] {x y : Outcome ε α} (hx : p → NeverPanics x)
    (hy : ¬ p → NeverPanics y) : NeverPanics (if p then x else y) := by
  by_cases h : p
  · rw [if_pos h]
    exact hx h
  · rw [if_neg h]
    exact hy h

theorem NeverPanics.map_err {ε' : Type} {f : ε → ε'} {x : Outcome ε α} (h : NeverPanics x) :
    NeverPanics (map_err f x) := by
  match x, h with
  | .ok a, _ => exact neverPanics_ok a
  | .error (.error e), _ => exact neverPanics_err (f e)
  | .error .panic, h => exact absurd rfl h

/-- A fold panics only where one of its steps does. -/
theorem NeverPanics.foldlM {f : β → α → Outcome ε β} {l : List α}
    (h : ∀ b, ∀ a ∈ l, NeverPanics (f b a)) (b : β) : NeverPanics (l.foldlM f b) := by
  induction l generalizing b with
  | nil => exact neverPanics_ok b
  | cons a l ih =>
    rw [List.foldlM_cons]
    apply (h b a List.mem_cons_self).bind
    intro b' _
    exact ih (fun b a ha => h b a (List.mem_cons_of_mem _ ha)) b'

end Outcome

open Outcome

variable [Build] {ε α : Type}

theorem operator_neverErrs (fits : Prop) [Decidable fits] (wrapped : α) :
    NeverErrs (operator fits wrapped : Outcome ε α) := by
  unfold operator
  split
  · exact neverErrs_ok _
  · split
    · exact neverErrs_panic
    · exact neverErrs_ok _

/-- With overflow checks an operator panics exactly when its value does not
    fit. -/
theorem operator_neverPanics_iff (hchecks : Build.overflow_checks = true) {fits : Prop}
    [Decidable fits] {wrapped : α} :
    NeverPanics (operator fits wrapped : Outcome ε α) ↔ fits := by
  unfold operator
  by_cases h : fits
  · simp [h]
  · simp [h, hchecks]

namespace U128

variable {a b : Nat}

theorem add_neverErrs (a b : Nat) : NeverErrs (add a b : Outcome ε Nat) := operator_neverErrs _ _

theorem mul_neverErrs (a b : Nat) : NeverErrs (mul a b : Outcome ε Nat) := operator_neverErrs _ _

omit [Build] in
theorem div_neverErrs (a b : Nat) : NeverErrs (div a b : Outcome ε Nat) := by
  unfold div
  split
  · exact neverErrs_panic
  · exact neverErrs_ok _

omit [Build] in
theorem div_ceil_neverErrs (a b : Nat) : NeverErrs (div_ceil a b : Outcome ε Nat) := by
  unfold div_ceil
  split
  · exact neverErrs_panic
  · exact neverErrs_ok _

theorem add_neverPanics_iff (hchecks : Build.overflow_checks = true) :
    NeverPanics (add a b : Outcome ε Nat) ↔ a + b < 2 ^ 128 := operator_neverPanics_iff hchecks

theorem mul_neverPanics_iff (hchecks : Build.overflow_checks = true) :
    NeverPanics (mul a b : Outcome ε Nat) ↔ a * b < 2 ^ 128 := operator_neverPanics_iff hchecks

end U128

end machine
