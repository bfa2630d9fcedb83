import Mathlib.Data.List.Basic
import Mathlib.Order.Basic
import PumpClient.Machine.Outcome

namespace machine

variable {ι κ σ : Type}

/-- A state carried through a list of items, one step an item. -/
inductive Chain (step : ι → σ → σ → Prop) : σ → List ι → σ → Prop where
  | nil {s : σ} : Chain step s [] s
  | cons {i : ι} {l : List ι} {s s₁ s' : σ} (head : step i s s₁) (tail : Chain step s₁ l s') :
      Chain step s (i :: l) s'

namespace Chain

variable {step step' : ι → σ → σ → Prop} {i : ι} {l l' : List ι} {s s' : σ}

@[simp] theorem nil_iff : Chain step s [] s' ↔ s = s' := by
  constructor
  · intro h
    cases h
    rfl
  · rintro rfl
    exact .nil

@[simp] theorem cons_iff : Chain step s (i :: l) s' ↔ ∃ s₁, step i s s₁ ∧ Chain step s₁ l s' := by
  constructor
  · intro h
    cases h with
    | cons head tail => exact ⟨_, head, tail⟩
  · rintro ⟨s₁, head, tail⟩
    exact .cons head tail

theorem append_iff : Chain step s (l ++ l') s' ↔ ∃ s₁, Chain step s l s₁ ∧ Chain step s₁ l' s' := by
  induction l generalizing s with
  | nil => simp
  | cons i l ih =>
    simp only [List.cons_append, cons_iff, ih]
    constructor
    · rintro ⟨s₁, head, s₂, tail, rest⟩
      exact ⟨s₂, ⟨s₁, head, tail⟩, rest⟩
    · rintro ⟨s₂, ⟨s₁, head, tail⟩, rest⟩
      exact ⟨s₁, head, s₂, tail, rest⟩

theorem concat_iff : Chain step s (l ++ [i]) s' ↔ ∃ s₁, Chain step s l s₁ ∧ step i s₁ s' := by
  simp [append_iff]

theorem exists_head (h : Chain step s l s') (hne : l ≠ []) :
    ∃ i s₁, l[0]? = some i ∧ step i s s₁ := by
  cases h with
  | nil => exact absurd rfl hne
  | cons head _ => exact ⟨_, _, rfl, head⟩

theorem exists_last (h : Chain step s l s') (hne : l ≠ []) :
    ∃ i s₁, l[l.length - 1]? = some i ∧ step i s₁ s' := by
  obtain rfl | ⟨l, i, rfl⟩ := List.eq_nil_or_concat' l
  · exact absurd rfl hne
  · obtain ⟨s₁, -, last⟩ := concat_iff.mp h
    exact ⟨i, s₁, by simp, last⟩

/-- Of two chains from one state, whose steps leave no choice, the longer one
    goes on from where the shorter one ends. -/
theorem exists_rest (hunique : ∀ i i' s s₁ s₂, step i s s₁ → step i' s s₂ → i = i' ∧ s₁ = s₂)
    {s'' : σ} (h : Chain step s l s') (h' : Chain step s l' s'') (hle : l.length ≤ l'.length) :
    ∃ rest, l' = l ++ rest ∧ Chain step s' rest s'' := by
  induction h generalizing l' with
  | nil => exact ⟨l', rfl, h'⟩
  | cons head _ ih =>
    cases h' with
    | nil => simp at hle
    | cons head' tail' =>
      obtain ⟨rfl, rfl⟩ := hunique _ _ _ _ _ head head'
      obtain ⟨rest, rfl, hrest⟩ := ih tail' (by simpa using hle)
      exact ⟨rest, rfl, hrest⟩

theorem exists_step_of_mem (h : Chain step s l s') (hmem : i ∈ l) : ∃ s₁ s₂, step i s₁ s₂ := by
  induction h with
  | nil => cases hmem
  | cons head _ ih =>
    cases hmem with
    | head => exact ⟨_, _, head⟩
    | tail _ hmem => exact ih hmem

/-- A chain read backwards. -/
theorem reverse_iff :
    Chain step s l s' ↔ Chain (fun i s s' => step i s' s) s' l.reverse s := by
  induction l generalizing s with
  | nil =>
    rw [List.reverse_nil, nil_iff, nil_iff]
    exact eq_comm
  | cons i l ih =>
    rw [List.reverse_cons, cons_iff, concat_iff]
    constructor
    · rintro ⟨s₁, head, tail⟩
      exact ⟨s₁, ih.mp tail, head⟩
    · rintro ⟨s₁, tail, head⟩
      exact ⟨s₁, head, ih.mpr tail⟩

theorem imp (himp : ∀ i ∈ l, ∀ s s', step i s s' → step' i s s') (h : Chain step s l s') :
    Chain step' s l s' := by
  induction h with
  | nil => exact .nil
  | cons head tail ih =>
    apply Chain.cons (himp _ (List.mem_cons_self ..) _ _ head)
    apply ih
    intro i hi
    exact himp i (List.mem_cons_of_mem _ hi)

theorem map_iff (f : κ → ι) {l : List κ} :
    Chain step s (l.map f) s' ↔ Chain (fun k => step (f k)) s l s' := by
  induction l generalizing s with
  | nil => simp
  | cons k l ih => simp only [List.map_cons, cons_iff, ih]

/-- A system that can answer every step of another one, from states related to
    its own, answers a whole chain item by item. -/
theorem exists_match {τ : Type} {rel : σ → τ → Prop} {answer : ι → τ → τ → Prop} {t : τ}
    (hstep : ∀ i s s' t, rel s t → step i s s' → ∃ t', answer i t t' ∧ rel s' t')
    (h : Chain step s l s') (hrel : rel s t) : ∃ t', Chain answer t l t' ∧ rel s' t' := by
  induction h generalizing t with
  | nil => exact ⟨t, .nil, hrel⟩
  | cons head _ ih =>
    obtain ⟨t₁, hhead, hrel₁⟩ := hstep _ _ _ _ hrel head
    obtain ⟨t', htail, hrel'⟩ := ih hrel₁
    exact ⟨t', .cons hhead htail, hrel'⟩

/-- What holds of every step from every state the chain passes holds along it. -/
theorem and_of_visited {good : ι → σ → σ → Prop} (h : Chain step s l s')
    (hgood : ∀ before i after, l = before ++ i :: after → ∀ s₁ s₂, Chain step s before s₁ →
      step i s₁ s₂ → good i s₁ s₂) :
    Chain (fun i s s' => step i s s' ∧ good i s s') s l s' := by
  induction h with
  | nil => exact .nil
  | @cons i l s s₁ s' head tail ih =>
    apply Chain.cons ⟨head, hgood [] i l rfl s s₁ .nil head⟩
    apply ih
    intro before j after hl s₂ s₃ hbefore hstep
    exact hgood (i :: before) j after (by rw [hl, List.cons_append]) s₂ s₃ (.cons head hbefore) hstep

/-- Steps that do not look at it go through a list's indices as through the list. -/
theorem zipIdx_iff {start : Nat} :
    Chain (fun i : ι × Nat => step i.1) s (l.zipIdx start) s' ↔ Chain step s l s' := by
  rw [← map_iff Prod.fst, List.zipIdx_map_fst]

/-- A chain through a list and its indices is a chain through the list. -/
theorem of_zipIdx {step : ι × Nat → σ → σ → Prop} {start : Nat}
    (h : Chain step s (l.zipIdx start) s') :
    Chain (fun i s s' => ∃ n, step (i, n) s s') s l s' :=
  zipIdx_iff.mp (h.imp fun i _ _ _ hstep => ⟨i.2, hstep⟩)

/-- What holds of every step from every state the chain passes, by its index. -/
theorem and_of_visited_zipIdx {step good : ι × Nat → σ → σ → Prop} (h : Chain step s l.zipIdx s')
    (hgood : ∀ n i, l[n]? = some i → ∀ s₁ s₂, Chain step s (l.zipIdx.take n) s₁ →
      step (i, n) s₁ s₂ → good (i, n) s₁ s₂) :
    Chain (fun i s s' => step i s s' ∧ good i s s') s l.zipIdx s' := by
  apply h.and_of_visited
  rintro before ⟨i, n⟩ after hl s₁ s₂ hbefore hstep
  have hat : l.zipIdx[before.length]? = some (i, n) := by simp [hl]
  rw [List.getElem?_zipIdx, Option.map_eq_some_iff] at hat
  obtain ⟨j, hj, heq⟩ := hat
  rw [Prod.mk.injEq, Nat.zero_add] at heq
  obtain ⟨rfl, rfl⟩ := heq
  apply hgood before.length j hj s₁ s₂ _ hstep
  rwa [hl, List.take_left]

/-- A loop that may fail returns what a chain of its steps ends in. -/
theorem foldlM_eq_ok_iff {ε : Type} {f : σ → ι → Outcome ε σ} :
    l.foldlM f s = .ok s' ↔ Chain (fun i s s' => f s i = .ok s') s l s' := by
  induction l generalizing s with
  | nil =>
    rw [List.foldlM_nil, nil_iff]
    constructor
    · exact Except.ok.inj
    · rintro rfl
      rfl
  | cons i l ih => simp only [List.foldlM_cons, Outcome.bind_eq_ok_iff, cons_iff, ih]

/-- Of two chains through one list, the one ahead stays ahead when each of its
    steps, from no less, gives no less. -/
theorem size_le_of_steps {β : Type} [Preorder β] (size : σ → β) {low high : ι → σ → σ → Prop}
    {x x' y y' : σ}
    (hstep : ∀ i ∈ l, ∀ x x' y y', size x ≤ size x' → low i x y → high i x' y' → size y ≤ size y')
    (hle : size x ≤ size x') (hlow : Chain low x l y) (hhigh : Chain high x' l y') :
    size y ≤ size y' := by
  induction hlow generalizing x' with
  | nil => exact nil_iff.mp hhigh ▸ hle
  | cons head _ ih =>
    obtain ⟨x₁', head', tail'⟩ := cons_iff.mp hhigh
    have hle₁ := hstep _ (List.mem_cons_self ..) _ _ _ _ hle head head'
    exact ih (fun i hi => hstep i (List.mem_cons_of_mem _ hi)) hle₁ tail'

/-- If going back through any item loses, so does going out through a list and
    back through its reverse. -/
theorem round_trip_lt {β : Type} [Preorder β] (size : σ → β) {out back : ι → σ → σ → Prop}
    {x y y' x' : σ}
    (hlose : ∀ i ∈ l, ∀ x y y' x', out i x y → size y' ≤ size y → back i y' x' → size x' < size x)
    (hout : Chain out x l y) (hle : size y' ≤ size y) (hback : Chain back y' l.reverse x') :
    size x' ≤ size x ∧ (l ≠ [] → size x' < size x) := by
  induction hout generalizing x' with
  | nil =>
    rw [List.reverse_nil, nil_iff] at hback
    exact ⟨hback ▸ hle, fun hne => absurd rfl hne⟩
  | @cons i l x x₁ y head tail ih =>
    rw [List.reverse_cons, concat_iff] at hback
    obtain ⟨x₁', hback, hlast⟩ := hback
    have hle₁ := (ih (fun j hj => hlose j (List.mem_cons_of_mem _ hj)) hle hback).1
    have hlt := hlose i (List.mem_cons_self ..) x x₁ x₁' x' head hle₁ hlast
    exact ⟨hlt.le, fun _ => hlt⟩

end Chain

end machine
