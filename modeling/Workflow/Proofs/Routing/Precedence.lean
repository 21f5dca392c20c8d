import Workflow.Proofs.Routing

/-!
# The precedence of routing

Routing tries five preferences and falls back to the next one when a preference finds no
edge.  Its second and third preference look among the edges that are still eligible.  Once
the first preference has found nothing, those are just the edges without a condition, so
every preference can be stated on the edges themselves.

## Main Definitions

* `Routing.Preferred` — the edge to follow, by the five preferences.

## Main Statements

* `Routing.choose?_eq_some_iff` — routing chooses the preferred edge.
* `Routing.obeys_precedence` — the preferences at a node of a graph.

## Design Notes

`Preferred` states each preference together with the failure of those before it.  Its
constructors exclude one another, so it determines the edge, and it can be stated as an
equivalence with what routing chooses.
-/

namespace Workflow

namespace Edge

theorem unconditional_iff {e : Edge} : e.unconditional = true ↔ e.condition = "" := by
  simp [unconditional]

theorem matches_iff {e : Edge} {outcome : Outcome} {context : Context} :
    e.matches outcome context = true ↔
      e.condition ≠ "" ∧ Condition.holds e.condition outcome context = true := by
  simp [Edge.matches, unconditional]

end Edge

namespace Routing

/-! ### The five preferences -/

/-- The edge has a condition and it holds. -/
def Applies (outcome : Outcome) (context : Context) (e : Edge) : Prop :=
  e.condition ≠ "" ∧ Condition.holds e.condition outcome context = true

/-- The edge has no condition, and a label that names the preferred choice. -/
def Named (label : String) (e : Edge) : Prop :=
  e.condition = "" ∧ label ≠ "" ∧ e.label ≠ "" ∧ Label.normalize e.label = Label.normalize label

/-- The edge has no condition and leads to a node. -/
def FreelyTo (id : String) (e : Edge) : Prop := e.condition = "" ∧ e.target = id

/-- The edge to follow.  Each preference is asked for when those before it find no edge. -/
inductive Preferred (edges : List Edge) (outcome : Outcome) (context : Context) (e : Edge) : Prop
  /-- The best edge whose condition holds. -/
  | applies (best : IsBest (Applies outcome context) edges e)
  /-- The first edge with the preferred label. -/
  | named (noneApplies : ∀ f ∈ edges, ¬Applies outcome context f)
      (first : IsFirst (Named outcome.preferredLabel) edges e)
  /-- The first edge to the earliest suggestion that an edge leads to. -/
  | suggested (noneApplies : ∀ f ∈ edges, ¬Applies outcome context f)
      (noneNamed : ∀ f ∈ edges, ¬Named outcome.preferredLabel f)
      {skipped later : List String} {id : String}
      (suggestions : outcome.suggested = skipped ++ id :: later)
      (first : IsFirst (FreelyTo id) edges e)
      (noneSkipped : ∀ s ∈ skipped, ∀ f ∈ edges, ¬FreelyTo s f)
  /-- The best edge without a condition. -/
  | free (noneApplies : ∀ f ∈ edges, ¬Applies outcome context f)
      (noneNamed : ∀ f ∈ edges, ¬Named outcome.preferredLabel f)
      (noneSuggested : ∀ s ∈ outcome.suggested, ∀ f ∈ edges, ¬FreelyTo s f)
      (best : IsBest (·.condition = "") edges e)
  /-- The best edge of all. -/
  | any (noneApplies : ∀ f ∈ edges, ¬Applies outcome context f)
      (noneFree : ∀ f ∈ edges, f.condition ≠ "") (best : IsBest (fun _ => True) edges e)

section Preferences

variable {edges : List Edge} {outcome : Outcome} {context : Context} {e : Edge}

/-- Where no condition holds, the eligible edges are those without a condition. -/
theorem filter_eligible (noneApplies : ∀ f ∈ edges, ¬Applies outcome context f) :
    edges.filter (fun e => e.unconditional || e.matches outcome context) =
      edges.filter (·.unconditional) := by
  refine List.filter_congr fun f mem => ?_
  have no : f.matches outcome context = false :=
    Bool.eq_false_iff.mpr fun yes => noneApplies f mem (Edge.matches_iff.mp yes)
  rw [no, Bool.or_false]

theorem named_iff {label : String} (stated : label ≠ "") (f : Edge) :
    decide (f.unconditional = true ∧
      (f.label != "" && Label.normalize f.label == Label.normalize label) = true) = true ↔
    Named label f := by
  simp [Named, Edge.unconditional_iff, stated]

theorem preferred?_eq_some_iff {label : String} :
    preferred? label (edges.filter (·.unconditional)) = some e ↔
      IsFirst (Named label) edges e := by
  unfold preferred?
  split
  · next unstated => simp [IsFirst, Named, unstated]
  · next stated => rw [List.find?_filter, find?_eq_some_iff_isFirst (named_iff stated)]

theorem preferred?_eq_none_iff {label : String} :
    preferred? label (edges.filter (·.unconditional)) = none ↔ ∀ f ∈ edges, ¬Named label f := by
  unfold preferred?
  split
  · next unstated => simp [Named, unstated]
  · next stated => rw [List.find?_filter, find?_eq_none_iff (named_iff stated)]

theorem freelyTo_iff (id : String) (f : Edge) :
    decide (f.unconditional = true ∧ (f.target == id) = true) = true ↔ FreelyTo id f := by
  simp [FreelyTo, Edge.unconditional_iff]

theorem suggested?_eq_some_iff {ids : List String} :
    suggested? ids (edges.filter (·.unconditional)) = some e ↔
      ∃ skipped id later, ids = skipped ++ id :: later ∧ IsFirst (FreelyTo id) edges e ∧
        ∀ s ∈ skipped, ∀ f ∈ edges, ¬FreelyTo s f := by
  simp only [suggested?, List.findSome?_eq_some_iff, List.find?_filter,
    find?_eq_some_iff_isFirst (freelyTo_iff _), find?_eq_none_iff (freelyTo_iff _)]

theorem suggested?_eq_none_iff {ids : List String} :
    suggested? ids (edges.filter (·.unconditional)) = none ↔
      ∀ s ∈ ids, ∀ f ∈ edges, ¬FreelyTo s f := by
  simp only [suggested?, List.findSome?_eq_none_iff, List.find?_filter,
    find?_eq_none_iff (freelyTo_iff _)]

/-- **Routing chooses the preferred edge.** -/
theorem choose?_eq_some_iff :
    choose? edges outcome context = some e ↔ Preferred edges outcome context e := by
  simp only [choose?, Option.orElse_eq_orElse, Option.orElse_eq_or, Option.or_eq_some_iff,
    best?_filter_eq_some_iff (P := Applies outcome context) fun _ => Edge.matches_iff,
    best?_filter_eq_none_iff (P := Applies outcome context) fun _ => Edge.matches_iff,
    best?_filter_eq_some_iff (P := (·.condition = "")) fun _ => Edge.unconditional_iff,
    best?_filter_eq_none_iff (P := (·.condition = "")) fun _ => Edge.unconditional_iff,
    best?_eq_some_iff_isBest]
  constructor
  · rintro (best | ⟨noneApplies, chosen⟩)
    · exact .applies best
    · rw [filter_eligible noneApplies, preferred?_eq_some_iff, preferred?_eq_none_iff,
        suggested?_eq_some_iff, suggested?_eq_none_iff] at chosen
      rcases chosen with first | ⟨noneNamed, ⟨_, _, _, suggestions, first, noneSkipped⟩ |
        ⟨noneSuggested, best | ⟨noneFree, best⟩⟩⟩
      · exact .named noneApplies first
      · exact .suggested noneApplies noneNamed suggestions first noneSkipped
      · exact .free noneApplies noneNamed noneSuggested best
      · exact .any noneApplies noneFree best
  · intro preferred
    by_cases noneApplies : ∀ f ∈ edges, ¬Applies outcome context f
    · rw [filter_eligible noneApplies, preferred?_eq_some_iff, preferred?_eq_none_iff,
        suggested?_eq_some_iff, suggested?_eq_none_iff]
      refine .inr ⟨noneApplies, ?_⟩
      cases preferred with
      | applies best => exact absurd best.first.1.1 (noneApplies e best.first.mem)
      | named _ first => exact .inl first
      | suggested _ noneNamed suggestions first noneSkipped =>
          exact .inr ⟨noneNamed, .inl ⟨_, _, _, suggestions, first, noneSkipped⟩⟩
      | free _ noneNamed noneSuggested best =>
          exact .inr ⟨noneNamed, .inr ⟨noneSuggested, .inl best⟩⟩
      | any _ noneFree best =>
          -- without a free edge nothing is named and nothing is suggested
          exact .inr ⟨fun f mem named => noneFree f mem named.1, .inr
            ⟨fun s _ f mem freely => noneFree f mem freely.1, .inr ⟨noneFree, best⟩⟩⟩
    · cases preferred with
      | applies best => exact .inl best
      | named none | suggested none | free none | any none => exact absurd none noneApplies

/-- An edge whose condition does not hold is followed only for want of any other edge. -/
theorem Preferred.condition_of_not_holds (preferred : Preferred edges outcome context e)
    (conditional : e.condition ≠ "")
    (fails : Condition.holds e.condition outcome context = false) :
    ∀ f ∈ edges, f.condition ≠ "" ∧ Condition.holds f.condition outcome context = false := by
  cases preferred with
  | applies best =>
      have holds := best.first.1.1.2
      rw [fails] at holds
      cases holds
  | named _ first => exact absurd first.1.1 conditional
  | suggested _ _ _ first => exact absurd first.1.1 conditional
  | free _ _ _ best => exact absurd best.first.1.1 conditional
  | any noneApplies noneFree best =>
      intro f mem
      refine ⟨noneFree f mem, Bool.eq_false_iff.mpr fun holds => ?_⟩
      exact noneApplies f mem ⟨noneFree f mem, holds⟩

end Preferences

/-! ### At a node of a graph -/

/-- **Routing obeys its precedence** at every node of every graph.  It chooses nothing exactly where
no edge leaves the node; otherwise it chooses exactly the preferred one of the edges that leave.  In
particular it chooses an edge whose condition does not hold only if every edge that leaves has a
condition and none of them holds. -/
theorem obeys_precedence (g : Graph) (id : String) (outcome : Outcome)
    (context : Context) :
    (select? g id outcome context = none ↔ g.outgoing id = []) ∧
    (∀ e, select? g id outcome context = some e ↔
      Preferred (g.outgoing id) outcome context e) ∧
    ∀ e, select? g id outcome context = some e → e.condition ≠ "" →
      Condition.holds e.condition outcome context = false →
      ∀ f ∈ g.outgoing id,
        f.condition ≠ "" ∧ Condition.holds f.condition outcome context = false := by
  refine ⟨select?_eq_none_iff, fun e => choose?_eq_some_iff, fun e selected => ?_⟩
  exact (choose?_eq_some_iff.mp selected).condition_of_not_holds

/-- A fork of two conditional edges. -/
def forkGraph : Graph :=
  ⟨"fork", .empty,
    .ofList [("a", ⟨"a", .empty⟩), ("b", ⟨"b", .empty⟩), ("c", ⟨"c", .empty⟩)],
    [⟨"a", "c", .ofList [("condition", .text "outcome=fail")]⟩,
      ⟨"a", "b", .ofList [("condition", .text "outcome=retry")]⟩]⟩

/-- After a success neither condition holds at the fork, and the smaller target decides. -/
theorem forkGraph_last_resort : ∃ e,
    (select? forkGraph "a" .success .empty = some e ∧ e.condition ≠ "" ∧
      Condition.holds e.condition .success .empty = false) ∧
    e.target = "b" ∧ Preferred (forkGraph.outgoing "a") .success .empty e ∧
    ∀ f ∈ forkGraph.outgoing "a", Condition.holds f.condition .success .empty = false := by
  have seen : ((select? forkGraph "a" .success .empty).map fun e =>
      (e.target, e.condition == "", Condition.holds e.condition .success .empty)) =
      some ("b", false, false) := by decide +kernel
  obtain ⟨e, selected, target⟩ := Option.map_eq_some_iff.mp seen
  simp only [Prod.mk.injEq, beq_eq_false_iff_ne] at target
  obtain ⟨leads, conditional, fails⟩ := target
  obtain ⟨-, preferred, lastResort⟩ := obeys_precedence forkGraph "a" .success .empty
  exact ⟨e, ⟨selected, conditional, fails⟩, leads, (preferred e).mp selected,
    fun f mem => (lastResort e selected conditional fails f mem).2⟩

end Routing

end Workflow
