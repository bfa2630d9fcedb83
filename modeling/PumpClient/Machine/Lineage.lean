import Mathlib.Logic.Function.Basic
import PumpClient.Machine.Chain

namespace machine

/-- What a record says of its descent: the key it descends from, how deep it
    lies, and whether others may descend from it. -/
structure Descent (κ ν : Type) where
  parent : ν → κ
  depth : ν → Nat
  Fertile : ν → Prop

namespace Descent

variable {κ ν : Type} (descent : Descent κ ν)

/-- One step up a line of descent. -/
def Up (records : κ → Option ν) (key child parent : κ) : Prop :=
  child = key ∧ ∃ record, records key = some record ∧ parent = descent.parent record

/-- A record has its place: at depth 0 it descends from no record, deeper from
    a fertile one that lies one above it. -/
inductive Fits (records : κ → Option ν) (record : ν) : Prop
  | root (hdepth : descent.depth record = 0) (hroot : records (descent.parent record) = none)
  | child {parent : ν} (hdepth : descent.depth record = descent.depth parent + 1)
      (hparent : records (descent.parent record) = some parent) (hfertile : descent.Fertile parent)

def Rooted (records : κ → Option ν) : Prop :=
  ∀ key record, records key = some record → descent.Fits records record

/-- A record with the descent of another. -/
structure Alike (record record' : ν) : Prop where
  parent : descent.parent record' = descent.parent record
  depth : descent.depth record' = descent.depth record
  fertile : descent.Fertile record → descent.Fertile record'

/-- No record is lost or descends otherwise, and none comes up where one
    descends from. -/
structure Grows (records later : κ → Option ν) : Prop where
  keeps : ∀ key record, records key = some record →
    ∃ record', later key = some record' ∧ descent.Alike record record'
  roots : ∀ key record, records key = some record → records (descent.parent record) = none →
    later (descent.parent record) = none

variable {descent} {records later : κ → Option ν} {key : κ} {record record' : ν}

theorem Alike.refl (record : ν) : descent.Alike record record := ⟨rfl, rfl, id⟩

theorem Grows.refl (records : κ → Option ν) : descent.Grows records records :=
  ⟨fun _ record h => ⟨record, h, Alike.refl record⟩, fun _ _ _ h => h⟩

theorem Grows.trans {middle : κ → Option ν} (h : descent.Grows records middle)
    (h' : descent.Grows middle later) : descent.Grows records later := by
  constructor
  · intro key record hrecord
    obtain ⟨record', hrecord', halike⟩ := h.keeps key record hrecord
    obtain ⟨record'', hrecord'', halike'⟩ := h'.keeps key record' hrecord'
    exact ⟨record'', hrecord'', halike'.parent.trans halike.parent,
      halike'.depth.trans halike.depth, halike'.fertile ∘ halike.fertile⟩
  · intro key record hrecord hroot
    obtain ⟨record', hrecord', halike⟩ := h.keeps key record hrecord
    have hmiddle := h.roots key record hrecord hroot
    rw [← halike.parent] at hmiddle ⊢
    exact h'.roots key record' hrecord' hmiddle

/-- What fits goes on to fit. -/
theorem Fits.grow (hfits : descent.Fits records record) (hrecord : records key = some record)
    (hgrows : descent.Grows records later) (halike : descent.Alike record record') :
    descent.Fits later record' := by
  cases hfits with
  | root hdepth hroot =>
    refine .root (halike.depth.trans hdepth) ?_
    rw [halike.parent]
    exact hgrows.roots key record hrecord hroot
  | child hdepth hparent hfertile =>
    obtain ⟨parent', hparent', hsame⟩ := hgrows.keeps _ _ hparent
    have hparent_later : later (descent.parent record') = some parent' := by
      rw [halike.parent, hparent']
    refine .child ?_ hparent_later (hsame.fertile hfertile)
    rw [halike.depth, hdepth, hsame.depth]

/-- A line of descent from a record: through fertile records only, as many as it
    lies deep, to a key without one. -/
theorem Rooted.line (hrooted : descent.Rooted records) (hrecord : records key = some record) :
    ∃ keys root, keys.length = descent.depth record ∧
      Chain (descent.Up records) key (key :: keys) root ∧ records root = none ∧
      ∀ k ∈ keys, ∃ parent, records k = some parent ∧ descent.Fertile parent := by
  generalize hdepth : descent.depth record = depth
  induction depth generalizing key record with
  | zero =>
    cases hrooted key record hrecord with
    | root _ hroot =>
      exact ⟨[], _, rfl, .cons ⟨rfl, record, hrecord, rfl⟩ .nil, hroot, by simp⟩
    | child hsucc => omega
  | succ depth ih =>
    cases hrooted key record hrecord with
    | root hzero => omega
    | @child parent hsucc hparent hfertile =>
      obtain ⟨keys, root, hlength, hchain, hroot, hfertiles⟩ := ih hparent (by omega)
      refine ⟨descent.parent record :: keys, root, by rw [List.length_cons, hlength],
        .cons ⟨rfl, record, hrecord, rfl⟩ hchain, hroot, ?_⟩
      intro k hk
      cases hk with
      | head => exact ⟨parent, hparent, hfertile⟩
      | tail _ hk => exact hfertiles k hk

/-- A line of descent stays what it is. -/
theorem Grows.line {keys : List κ} {root : κ} (hgrows : descent.Grows records later)
    (hchain : Chain (descent.Up records) key keys root) : Chain (descent.Up later) key keys root := by
  apply hchain.imp
  rintro k - _ _ ⟨rfl, record, hrecord, rfl⟩
  obtain ⟨record', hrecord', halike⟩ := hgrows.keeps _ record hrecord
  exact ⟨rfl, record', hrecord', halike.parent.symm⟩

/-- So does the key it comes from. -/
theorem Grows.root {keys : List κ} {root : κ} (hgrows : descent.Grows records later)
    (hchain : Chain (descent.Up records) key keys root) (hne : keys ≠ [])
    (hroot : records root = none) : later root = none := by
  obtain ⟨k, _, -, rfl, record, hrecord, rfl⟩ := hchain.exists_last hne
  exact hgrows.roots _ record hrecord hroot

section Update

variable [DecidableEq κ]

/-- A record under a new key, which none descends from. -/
theorem grows_new (hnew : records key = none)
    (hfree : ∀ k other, records k = some other → descent.parent other ≠ key) :
    descent.Grows records (Function.update records key (some record)) := by
  constructor
  · intro k other hother
    have hne : k ≠ key := by
      rintro rfl
      rw [hnew] at hother
      cases hother
    exact ⟨other, by rw [Function.update_of_ne hne, hother], Alike.refl other⟩
  · intro k other hother hroot
    rw [Function.update_of_ne (hfree k other hother), hroot]

/-- A record in another's place. -/
theorem grows_kept (hrecord : records key = some record) (halike : descent.Alike record record') :
    descent.Grows records (Function.update records key (some record')) := by
  constructor
  · intro k other hother
    by_cases hk : k = key
    · subst hk
      obtain rfl : record = other := Option.some.inj (hrecord.symm.trans hother)
      exact ⟨record', Function.update_self .., halike⟩
    · exact ⟨other, by rw [Function.update_of_ne hk, hother], Alike.refl other⟩
  · intro k other hother hroot
    have hne : descent.parent other ≠ key := by
      intro hkey
      rw [hkey, hrecord] at hroot
      cases hroot
    rw [Function.update_of_ne hne, hroot]

theorem Rooted.update (hrooted : descent.Rooted records)
    (hgrows : descent.Grows records (Function.update records key (some record)))
    (hfits : descent.Fits (Function.update records key (some record)) record) :
    descent.Rooted (Function.update records key (some record)) := by
  intro k other hother
  by_cases hk : k = key
  · subst hk
    rw [Function.update_self] at hother
    cases hother
    exact hfits
  · rw [Function.update_of_ne hk] at hother
    exact (hrooted k other hother).grow hother hgrows (Alike.refl other)

/-- A new record may descend from what there is. -/
theorem Rooted.new (hrooted : descent.Rooted records) (hnew : records key = none)
    (hfree : ∀ k other, records k = some other → descent.parent other ≠ key)
    (hfits : descent.Fits records record) (hself : descent.parent record ≠ key) :
    descent.Rooted (Function.update records key (some record)) := by
  apply hrooted.update (grows_new hnew hfree)
  cases hfits with
  | root hdepth hroot => exact .root hdepth (by rw [Function.update_of_ne hself, hroot])
  | child hdepth hparent hfertile =>
    exact .child hdepth (by rw [Function.update_of_ne hself, hparent]) hfertile

theorem Rooted.kept (hrooted : descent.Rooted records) (hrecord : records key = some record)
    (halike : descent.Alike record record') :
    descent.Rooted (Function.update records key (some record')) :=
  hrooted.update (grows_kept hrecord halike)
    ((hrooted key record hrecord).grow hrecord (grows_kept hrecord halike) halike)

end Update

end Descent

end machine
