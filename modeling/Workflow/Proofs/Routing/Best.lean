import Workflow.Routing

/-!
# The best edge

Routing compares edges by weight and then by target, and keeps the first of equally good
ones as it passes through a list.  This file says what it finds without speaking about the
passage: the best edge of those with a property, told by its weight, its target and its
place.

## Main Definitions

* `Routing.IsFirst`, `Routing.IsBest` — the first and the best of the edges with a property.

## Main Statements

* `Routing.best?_eq_some_iff` — what passing through a list once finds.
* `Routing.best?_filter_eq_some_iff` — the best edge with a property.

## Design Notes

Equal edges may occur twice in a list, so `IsFirst` speaks about a place in the list.  All
that passing through a list needs of the order is stated on `Edge.beats` first; nothing
else looks at weights and targets before `IsBest` does.
-/

namespace Workflow

/-! ### The order of edges -/

namespace Edge

variable {a b c : Edge}

theorem beats_iff : a.beats b = true ↔
    b.weight < a.weight ∨ a.weight = b.weight ∧ a.target < b.target := by
  simp [beats]

theorem beats_eq_false_iff : a.beats b = false ↔
    a.weight ≤ b.weight ∧ (a.weight = b.weight → b.target ≤ a.target) := by
  rw [← Bool.not_eq_true, beats_iff]
  simp only [not_or, not_and, Int64.not_lt, String.not_lt]

theorem beats_irrefl (a : Edge) : a.beats a = false := by
  rw [beats_eq_false_iff]
  exact ⟨Int64.le_refl _, fun _ => String.le_refl _⟩

theorem not_beats_of_beats (better : a.beats b = true) : b.beats a = false := by
  rw [beats_iff] at better
  rw [beats_eq_false_iff]
  grind

theorem not_beats_trans (first : a.beats b = false) (second : b.beats c = false) :
    a.beats c = false := by
  rw [beats_eq_false_iff] at first second ⊢
  grind

theorem beats_of_beats_of_not_beats (better : a.beats b = true) (noBetter : c.beats b = false) :
    a.beats c = true := by
  rw [beats_eq_false_iff] at noBetter
  rw [beats_iff] at better ⊢
  grind

theorem beats_of_not_beats_of_beats (noBetter : a.beats b = false) (better : a.beats c = true) :
    b.beats c = true := by
  rw [beats_eq_false_iff] at noBetter
  rw [beats_iff] at better ⊢
  grind

/-- Two edges neither of which beats the other differ in nothing that matters. -/
theorem tie_iff : a.beats b = false ∧ b.beats a = false ↔
    a.weight = b.weight ∧ a.target = b.target := by
  rw [beats_eq_false_iff, beats_eq_false_iff]
  grind

end Edge

namespace Routing

/-! ### First and best -/

/-- The edge is the first one with a property. -/
def IsFirst (P : Edge → Prop) (edges : List Edge) (e : Edge) : Prop :=
  P e ∧ ∃ before after, edges = before ++ e :: after ∧ ∀ f ∈ before, ¬P f

/-- The edge is the best one with a property: the heaviest, then the one with the smallest target,
then the first. -/
structure IsBest (P : Edge → Prop) (edges : List Edge) (e : Edge) : Prop where
  /-- No other is heavier. -/
  heaviest : ∀ f ∈ edges, P f → f.weight ≤ e.weight
  /-- None that is as heavy has a smaller target. -/
  smallest : ∀ f ∈ edges, P f → f.weight = e.weight → e.target ≤ f.target
  /-- None that is as good stands in front of it. -/
  first : IsFirst (fun f => P f ∧ f.weight = e.weight ∧ f.target = e.target) edges e

section FirstAndBest

variable {p : Edge → Bool} {P Q : Edge → Prop} {edges : List Edge} {e : Edge}

theorem IsFirst.mem (first : IsFirst P edges e) : e ∈ edges := by
  obtain ⟨-, before, after, rfl, -⟩ := first
  exact List.mem_append_right before List.mem_cons_self

theorem IsFirst.of_forall_mem (first : IsFirst P edges e) (same : ∀ f ∈ edges, P f ↔ Q f) :
    IsFirst Q edges e := by
  have mem := first.mem
  obtain ⟨holds, before, after, split, others⟩ := first
  refine ⟨(same e mem).mp holds, before, after, split, fun f front holds => ?_⟩
  exact others f front ((same f (split ▸ List.mem_append_left _ front)).mpr holds)

/-- A search finds the first edge. -/
theorem find?_eq_some_iff_isFirst (reads : ∀ f, p f = true ↔ P f) :
    edges.find? p = some e ↔ IsFirst P edges e := by
  simp only [IsFirst, List.find?_eq_some_iff_append, reads, Bool.not_eq_true', ← Bool.not_eq_true]

theorem find?_eq_none_iff (reads : ∀ f, p f = true ↔ P f) :
    edges.find? p = none ↔ ∀ f ∈ edges, ¬P f := by
  simp only [List.find?_eq_none, reads]

end FirstAndBest

/-! ### Passing through a list -/

theorem best?_eq_none_iff {edges : List Edge} : best? edges = none ↔ edges = [] := by
  cases edges <;> simp [best?]

/-- Passing through a list, nothing beats the edge that is kept, and that edge is the first one that
it does not beat itself. -/
theorem foldl_beats_spec (best : Edge) (edges : List Edge) {kept : Edge}
    (passed : edges.foldl (fun best e => if e.beats best then e else best) best = kept) :
    (∀ f ∈ best :: edges, f.beats kept = false) ∧
      (best :: edges).find? (fun f => !kept.beats f) = some kept := by
  induction edges generalizing best with
  | nil =>
      subst passed
      simp [Edge.beats_irrefl]
  | cons e es ih =>
      rw [List.foldl_cons] at passed
      by_cases better : e.beats best = true
      · -- `best` gives way to `e`, so whatever is kept in the end beats it
        rw [if_pos better] at passed
        obtain ⟨unbeaten, first⟩ := ih e passed
        have beaten : kept.beats best = true :=
          Edge.beats_of_not_beats_of_beats (unbeaten e List.mem_cons_self) better
        refine ⟨List.forall_mem_cons.mpr ⟨Edge.not_beats_of_beats beaten, unbeaten⟩, ?_⟩
        rw [List.find?_cons_of_neg (by simp [beaten])]
        exact first
      · -- `e` is passed over, and the edge that is kept beats it if it beats `best`
        rw [if_neg better] at passed
        rw [Bool.not_eq_true] at better
        obtain ⟨unbeaten, first⟩ := ih best passed
        obtain ⟨now, later⟩ := List.forall_mem_cons.mp unbeaten
        refine ⟨List.forall_mem_cons.mpr
          ⟨now, List.forall_mem_cons.mpr ⟨Edge.not_beats_trans better now, later⟩⟩, ?_⟩
        by_cases beaten : kept.beats best = true
        · have skipped := Edge.beats_of_beats_of_not_beats beaten better
          rw [List.find?_cons_of_neg (by simp [beaten])] at first ⊢
          rw [List.find?_cons_of_neg (by simp [skipped])]
          exact first
        · rw [List.find?_cons_of_pos (by simp [beaten])] at first ⊢
          exact first

section Best

variable {p : Edge → Bool} {P : Edge → Prop} {edges : List Edge} {e : Edge}

theorem best?_spec (best : best? edges = some e) :
    (∀ f ∈ edges, f.beats e = false) ∧ edges.find? (fun f => !e.beats f) = some e := by
  cases edges with
  | nil => cases best
  | cons first others => exact foldl_beats_spec first others (Option.some.inj best)

theorem mem_of_best? (best : best? edges = some e) : e ∈ edges :=
  List.mem_of_find?_eq_some (best?_spec best).2

/-- **Passing through a list finds the best edge**: nothing beats it, and it is the first one that it
does not beat itself. -/
theorem best?_eq_some_iff : best? edges = some e ↔
    (∀ f ∈ edges, f.beats e = false) ∧ edges.find? (fun f => !e.beats f) = some e := by
  refine ⟨best?_spec, fun ⟨unbeaten, first⟩ => ?_⟩
  have mem : e ∈ edges := List.mem_of_find?_eq_some first
  cases found : best? edges with
  | none =>
      rw [best?_eq_none_iff.mp found] at mem
      exact absurd mem List.not_mem_nil
  | some r =>
      -- neither edge beats the other, so both are found by the same search
      obtain ⟨unbeaten', first'⟩ := best?_spec found
      have tie := Edge.tie_iff.mp ⟨unbeaten' e mem, unbeaten r (mem_of_best? found)⟩
      have same : (fun f => !e.beats f) = fun f => !r.beats f := by
        funext f
        rw [Edge.beats, Edge.beats, tie.1, tie.2]
      rw [same, first'] at first
      exact first

/-- The best edge with a property is the best one of those that have it. -/
theorem best?_filter_eq_some_iff (reads : ∀ f, p f = true ↔ P f) :
    best? (edges.filter p) = some e ↔ IsBest P edges e := by
  have unbeaten_iff : (∀ f ∈ edges.filter p, f.beats e = false) ↔ ∀ f ∈ edges, P f →
      f.weight ≤ e.weight ∧ (f.weight = e.weight → e.target ≤ f.target) := by
    simp only [List.mem_filter, and_imp, reads, Edge.beats_eq_false_iff]
  -- what is not beaten by an unbeaten edge is as good
  have tie_iff : (∀ f ∈ edges.filter p, f.beats e = false) → ∀ f ∈ edges,
      (P f ∧ e.beats f = false ↔ P f ∧ f.weight = e.weight ∧ f.target = e.target) := by
    refine fun unbeaten f mem => and_congr_right fun holds => ?_
    have noBetter := unbeaten f (List.mem_filter.mpr ⟨mem, (reads f).mpr holds⟩)
    rw [← Edge.tie_iff]
    exact (and_iff_right noBetter).symm
  rw [best?_eq_some_iff, List.find?_filter, find?_eq_some_iff_isFirst
    (P := fun f => P f ∧ e.beats f = false) (by simp [reads])]
  constructor
  · rintro ⟨unbeaten, first⟩
    have best := unbeaten_iff.mp unbeaten
    exact ⟨fun f mem holds => (best f mem holds).1, fun f mem holds => (best f mem holds).2,
      first.of_forall_mem (tie_iff unbeaten)⟩
  · rintro ⟨heaviest, smallest, first⟩
    have unbeaten := unbeaten_iff.mpr fun f mem holds =>
      ⟨heaviest f mem holds, smallest f mem holds⟩
    exact ⟨unbeaten, first.of_forall_mem fun f mem => (tie_iff unbeaten f mem).symm⟩

theorem best?_filter_eq_none_iff (reads : ∀ f, p f = true ↔ P f) :
    best? (edges.filter p) = none ↔ ∀ f ∈ edges, ¬P f := by
  simp only [best?_eq_none_iff, List.filter_eq_nil_iff, reads]

theorem best?_eq_some_iff_isBest : best? edges = some e ↔ IsBest (fun _ => True) edges e := by
  have all : edges.filter (fun _ => true) = edges := List.filter_eq_self.mpr fun _ _ => rfl
  rw [← best?_filter_eq_some_iff (p := fun _ => true) (by simp), all]

end Best

end Routing

end Workflow
