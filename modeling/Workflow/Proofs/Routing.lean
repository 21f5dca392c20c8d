import Workflow.Proofs.Routing.Best

/-!
# Which edges routing chooses

Routing tries five preferences in turn.  Whatever preference decides, the chosen
edge leaves the node; and since the last preference takes any edge, nothing is
chosen only where no edge leaves.

## Main Statements

* `Routing.mem_outgoing_of_select?` — the chosen edge is one that leaves the node.
* `Routing.select?_eq_none_iff` — nothing is chosen exactly where no edge leaves.
-/

namespace Workflow.Routing

/-! ### The five preferences -/

theorem mem_of_preferred? {label : String} {edges : List Edge} {e : Edge}
    (preferred : preferred? label edges = some e) : e ∈ edges := by
  unfold preferred? at preferred
  split at preferred
  · cases preferred
  · exact List.mem_of_find?_eq_some preferred

theorem mem_of_suggested? {suggestions : List String} {edges : List Edge} {e : Edge}
    (suggested : suggested? suggestions edges = some e) : e ∈ edges := by
  obtain ⟨-, id, -, -, found, -⟩ := List.findSome?_eq_some_iff.mp suggested
  exact List.mem_of_find?_eq_some found

/-- The chosen edge is one of the edges it is chosen from. -/
theorem mem_of_choose? {edges : List Edge} {outcome : Outcome} {context : Context} {e : Edge}
    (chosen : choose? edges outcome context = some e) : e ∈ edges := by
  simp only [choose?, Option.orElse_eq_orElse, Option.orElse_eq_or,
    Option.or_eq_some_iff] at chosen
  rcases chosen with matched | ⟨-, preferred | ⟨-, suggested | ⟨-, free | ⟨-, any⟩⟩⟩⟩
  · exact (List.mem_filter.mp (mem_of_best? matched)).1
  · exact (List.mem_filter.mp (mem_of_preferred? preferred)).1
  · exact (List.mem_filter.mp (mem_of_suggested? suggested)).1
  · exact (List.mem_filter.mp (mem_of_best? free)).1
  · exact mem_of_best? any

/-- Of some edges, one is always chosen. -/
theorem choose?_eq_none_iff {edges : List Edge} {outcome : Outcome} {context : Context} :
    choose? edges outcome context = none ↔ edges = [] := by
  constructor
  · intro nothing
    simp only [choose?, Option.orElse_eq_orElse, Option.orElse_eq_or,
      Option.or_eq_none_iff] at nothing
    obtain ⟨-, -, -, -, last⟩ := nothing
    exact best?_eq_none_iff.mp last
  · rintro rfl
    cases chosen : choose? [] outcome context with
    | none => rfl
    | some e => exact absurd (mem_of_choose? chosen) List.not_mem_nil

/-! ### Edges of a graph -/

theorem mem_outgoing_iff {g : Graph} {id : String} {e : Edge} :
    e ∈ g.outgoing id ↔ e ∈ g.edges ∧ e.source = id := by
  simp [Graph.outgoing]

/-- The edge that is followed leaves the node. -/
theorem mem_outgoing_of_select? {g : Graph} {id : String} {outcome : Outcome} {context : Context}
    {e : Edge} (selected : select? g id outcome context = some e) : e ∈ g.outgoing id :=
  mem_of_choose? selected

/-- There is nothing to follow exactly where no edge leaves. -/
theorem select?_eq_none_iff {g : Graph} {id : String} {outcome : Outcome} {context : Context} :
    select? g id outcome context = none ↔ g.outgoing id = [] :=
  choose?_eq_none_iff

end Workflow.Routing
