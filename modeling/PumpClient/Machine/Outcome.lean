import Mathlib.Data.List.Forall2
import Mathlib.Tactic.Common

namespace machine

/-- How a call can end without a value: with an error of its own type, or
    with a panic, which no caller can catch. -/
inductive Fault (ε : Type) where
  | error (e : ε)
  | panic
  deriving DecidableEq, Repr

/-- The outcome of a call that may return an error or panic. Propagation with
    `?` and unwinding are both the monadic bind. -/
abbrev Outcome (ε α : Type) := Except (Fault ε) α

namespace Outcome

def err {ε α : Type} (e : ε) : Outcome ε α := .error (.error e)

def panic {ε α : Type} : Outcome ε α := .error .panic

/-- `Option::ok_or`. -/
def ok_or {ε α : Type} (o : Option α) (e : ε) : Outcome ε α :=
  match o with
  | some a => .ok a
  | none => err e

/-- `Result::map_err`, which a panic passes through. -/
def map_err {ε ε' α : Type} (f : ε → ε') : Outcome ε α → Outcome ε' α
  | .ok a => .ok a
  | .error (.error e) => err (f e)
  | .error .panic => panic

variable {ε ε' α β : Type}

@[simp] theorem ok_bind (a : α) (f : α → Outcome ε β) : ((.ok a : Outcome ε α) >>= f) = f a := rfl

@[simp] theorem error_bind (e : Fault ε) (f : α → Outcome ε β) :
    ((.error e : Outcome ε α) >>= f) = .error e := rfl

@[simp] theorem err_bind (e : ε) (f : α → Outcome ε β) :
    ((err e : Outcome ε α) >>= f) = err e := rfl

@[simp] theorem err_ne_ok (e : ε) (a : α) : (err e : Outcome ε α) ≠ .ok a := by simp [err]

@[simp] theorem panic_ne_ok (a : α) : (panic : Outcome ε α) ≠ .ok a := by simp [panic]

theorem bind_eq_ok_iff {x : Outcome ε α} {f : α → Outcome ε β} {b : β} :
    (x >>= f) = .ok b ↔ ∃ a, x = .ok a ∧ f a = .ok b := by
  cases x <;> simp [Bind.bind, Except.bind]

/-- A sequence ends in a fault exactly when its first part does, or its first
    part returns and the rest ends in that fault. -/
theorem bind_eq_error_iff {x : Outcome ε α} {f : α → Outcome ε β} {e : Fault ε} :
    (x >>= f) = .error e ↔ x = .error e ∨ ∃ a, x = .ok a ∧ f a = .error e := by
  cases x <;> simp [Bind.bind, Except.bind]

@[simp] theorem ok_or_some (a : α) (e : ε) : ok_or (some a) e = .ok a := rfl

@[simp] theorem ok_or_none (e : ε) : ok_or (none : Option α) e = err e := rfl

theorem ok_or_eq_ok_iff {o : Option α} {e : ε} {a : α} : ok_or o e = .ok a ↔ o = some a := by
  cases o <;> simp

theorem ok_or_eq_error_iff {o : Option α} {e : ε} {fault : Fault ε} :
    ok_or o e = .error fault ↔ o = none ∧ fault = .error e := by
  cases o <;> simp [err, eq_comm]

theorem exists_ok_of_toOption {x : Outcome ε α} (h : x.toOption.isSome = true) : ∃ a, x = .ok a := by
  cases x with
  | ok a => exact ⟨a, rfl⟩
  | error _ => cases h

/-- Two calls with one fault between them are equal as soon as they return
    the same values. -/
theorem eq_of_ok_iff {x y : Outcome ε α} {fault : Fault ε}
    (hx : ∀ e, x = .error e → e = fault) (hy : ∀ e, y = .error e → e = fault)
    (h : ∀ a, x = .ok a ↔ y = .ok a) : x = y := by
  cases x with
  | ok a => exact ((h a).mp rfl).symm
  | error e =>
    cases y with
    | ok a => exact (h a).mpr rfl
    | error e' => rw [hx e rfl, hy e' rfl]

theorem map_err_eq_ok_iff {f : ε → ε'} {x : Outcome ε α} {a : α} :
    map_err f x = .ok a ↔ x = .ok a := by
  match x with
  | .ok b => simp [map_err]
  | .error (.error e) => simp [map_err]
  | .error .panic => simp [map_err]

/-- A call for every item of a list returns what each of them returns. -/
theorem mapM_eq_ok_iff {f : α → Outcome ε β} {l : List α} {l' : List β} :
    l.mapM f = .ok l' ↔ List.Forall₂ (fun a b => f a = .ok b) l l' := by
  induction l generalizing l' with
  | nil =>
    rw [List.mapM_nil, List.forall₂_nil_left_iff]
    exact ⟨fun h => (Except.ok.inj h).symm, fun h => congrArg Except.ok h.symm⟩
  | cons a l ih =>
    rw [List.mapM_cons, bind_eq_ok_iff, List.forall₂_cons_left_iff]
    constructor
    · rintro ⟨b, hb, h⟩
      obtain ⟨bs, hbs, h⟩ := bind_eq_ok_iff.mp h
      exact ⟨b, bs, hb, ih.mp hbs, (Except.ok.inj h).symm⟩
    · rintro ⟨b, bs, hb, hbs, rfl⟩
      exact ⟨b, hb, bind_eq_ok_iff.mpr ⟨bs, ih.mpr hbs, rfl⟩⟩

theorem mapM_ok_of_mem {f : α → Outcome ε β} {l : List α} {l' : List β} (h : l.mapM f = .ok l')
    {a : α} (hmem : a ∈ l) : ∃ b ∈ l', f a = .ok b := by
  rw [mapM_eq_ok_iff] at h
  induction h with
  | nil => cases hmem
  | cons head _ ih =>
    cases hmem with
    | head => exact ⟨_, List.mem_cons_self, head⟩
    | tail _ hmem =>
      obtain ⟨b, hb, hok⟩ := ih hmem
      exact ⟨b, List.mem_cons_of_mem _ hb, hok⟩

theorem mem_of_mapM_ok {f : α → Outcome ε β} {l : List α} {l' : List β} (h : l.mapM f = .ok l')
    {b : β} (hmem : b ∈ l') : ∃ a ∈ l, f a = .ok b := by
  rw [mapM_eq_ok_iff] at h
  induction h with
  | nil => cases hmem
  | cons head _ ih =>
    cases hmem with
    | head => exact ⟨_, List.mem_cons_self, head⟩
    | tail _ hmem =>
      obtain ⟨a, ha, hok⟩ := ih hmem
      exact ⟨a, List.mem_cons_of_mem _ ha, hok⟩

end Outcome

end machine
