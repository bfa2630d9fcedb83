import Mathlib.Order.Bounds.Basic
import Mathlib.Tactic.Common

namespace exchange

variable {α β : Type*} [LinearOrder β] {threshold : α → β} {rows : List α} {x x' : β} {k k' : ℕ}
  {row row' : α}

/-- The positions of a table whose thresholds `x` reaches. -/
def reached (threshold : α → β) (rows : List α) (x : β) : Set ℕ :=
  {k | ∃ row, rows[k]? = some row ∧ threshold row ≤ x}

/-- `x` selects the last row it reaches, or the first when it reaches none. -/
def Selects (threshold : α → β) (rows : List α) (x : β) (k : ℕ) (row : α) : Prop :=
  rows[k]? = some row ∧
    (IsGreatest (reached threshold rows x) k ∨ reached threshold rows x = ∅ ∧ k = 0)

theorem reached_mono (h : x ≤ x') : reached threshold rows x ⊆ reached threshold rows x' := by
  rintro k ⟨row, hrow, hle⟩
  exact ⟨row, hrow, hle.trans h⟩

theorem reached_eq_empty_iff :
    reached threshold rows x = ∅ ↔ ∀ row ∈ rows, x < threshold row := by
  rw [Set.eq_empty_iff_forall_notMem]
  constructor
  · intro h row hmem
    obtain ⟨k, hrow⟩ := List.mem_iff_getElem?.mp hmem
    by_contra hnot
    exact h k ⟨row, hrow, not_lt.mp hnot⟩
  · rintro h k ⟨row, hrow, hle⟩
    exact (h row (List.mem_of_getElem? hrow)).not_ge hle

/-- A row that is reached with none after it is the one selected. -/
theorem selects_of_drop (hrow : rows[k]? = some row) (hle : threshold row ≤ x)
    (hlater : ∀ later ∈ rows.drop (k + 1), x < threshold later) : Selects threshold rows x k row := by
  refine ⟨hrow, Or.inl ⟨⟨row, hrow, hle⟩, ?_⟩⟩
  rintro j ⟨other, hother, hreached⟩
  by_contra hnot
  have hmem : other ∈ rows.drop (k + 1) := by
    apply List.mem_of_getElem? (i := j - (k + 1))
    rw [List.getElem?_drop, Nat.add_sub_of_le (by omega), hother]
  exact (hlater other hmem).not_ge hreached

/-- A larger value never selects an earlier row. -/
theorem Selects.mono (hle : x ≤ x') (h : Selects threshold rows x k row)
    (h' : Selects threshold rows x' k' row') : k ≤ k' := by
  cases h.2 with
  | inl hgreatest =>
    have hmem := reached_mono hle hgreatest.1
    cases h'.2 with
    | inl hgreatest' => exact hgreatest'.2 hmem
    | inr hnone =>
      rw [hnone.1] at hmem
      exact absurd hmem (Set.notMem_empty k)
  | inr hnone =>
    rw [hnone.2]
    exact Nat.zero_le k'

/-- A search from the end finds the last row that is reached. -/
theorem selects_of_find?_reverse
    (h : rows.reverse.find? (fun row => threshold row ≤ x) = some row) :
    ∃ k, Selects threshold rows x k row := by
  obtain ⟨hreached, later, earlier, hsplit, hlater⟩ := List.find?_eq_some_iff_append.mp h
  have hrows : rows = earlier.reverse ++ row :: later.reverse := by
    rw [← List.reverse_reverse rows, hsplit]
    simp
  refine ⟨earlier.length, selects_of_drop ?_ ?_ ?_⟩
  · simp [hrows]
  · simpa using hreached
  · intro other hmem
    rw [hrows, List.drop_append, List.drop_eq_nil_of_le (by simp)] at hmem
    have hother : other ∈ later := by simpa using hmem
    simpa using hlater other hother

/-- A value that a search does not find a row for selects the first. -/
theorem selects_first_of_find?_reverse (hfirst : rows.head? = some row)
    (h : rows.reverse.find? (fun row => threshold row ≤ x) = none) :
    Selects threshold rows x 0 row := by
  refine ⟨List.head?_eq_getElem? ▸ hfirst, Or.inr ⟨?_, rfl⟩⟩
  rw [reached_eq_empty_iff]
  intro other hmem
  have hnot := List.find?_eq_none.mp h other (List.mem_reverse.mpr hmem)
  simpa using hnot

/-- In a rising table a value short of the first threshold is short of all. -/
theorem selects_first_of_lt (hrising : rows.Pairwise fun row later => threshold row ≤ threshold later)
    (hfirst : rows.head? = some row) (h : x < threshold row) : Selects threshold rows x 0 row := by
  refine ⟨List.head?_eq_getElem? ▸ hfirst, Or.inr ⟨?_, rfl⟩⟩
  rw [reached_eq_empty_iff]
  obtain ⟨later, rfl⟩ := List.head?_eq_some_iff.mp hfirst
  intro other hmem
  cases hmem with
  | head => exact h
  | tail _ hlater => exact h.trans_le (List.rel_of_pairwise_cons hrising hlater)

end exchange
