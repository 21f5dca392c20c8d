import Mathlib.Tactic.ByContra
import Mathlib.Tactic.Push
import Workflow.Validation

/-!
# What a valid graph promises

Validation turns a graph into a list of findings; a graph is valid when none of
them is an error.  A run relies on two of the rules: there is exactly one node to
begin with, and every edge leads from a node to a node.  This file reads both off
the empty list of errors.

## Main Definitions

* `Graph.Keyed` — every node is filed under its own id.

## Main Statements

* `Graph.isValid_iff` — no finding of a valid graph is an error.
* `Graph.exists_starts_eq_singleton` — a valid graph has one start.
* `Graph.contains_endpoints` — the edges of a valid graph run between its nodes.
-/

namespace Workflow

namespace Graph

/-- Every node is filed under its own id.  Graphs read from a source text are of this kind; graphs
decoded from data need not be. -/
def Keyed (g : Graph) : Prop := ∀ e ∈ g.nodes.entries, e.2.id = e.1

instance (g : Graph) : Decidable g.Keyed :=
  inferInstanceAs (Decidable (∀ e ∈ g.nodes.entries, e.2.id = e.1))

theorem Keyed.id_eq {g : Graph} (keyed : g.Keyed) {key : String} {n : Node}
    (found : g.node? key = some n) : n.id = key :=
  keyed (key, n) (Table.get?_eq_some_iff.mp found)

/-- In a keyed graph a node that is found is found under its id. -/
theorem Keyed.node?_id {g : Graph} (keyed : g.Keyed) {key : String} {n : Node}
    (found : g.node? key = some n) : g.node? n.id = some n := by
  rw [keyed.id_eq found]
  exact found

/-- The listed nodes are the ones that can be found. -/
theorem mem_nodeList_iff {g : Graph} {n : Node} :
    n ∈ g.nodeList ↔ ∃ key, g.node? key = some n := by
  unfold nodeList Table.values
  rw [List.mem_map]
  constructor
  · rintro ⟨⟨key, n⟩, mem, rfl⟩
    exact ⟨key, Table.get?_eq_some_iff.mpr mem⟩
  · rintro ⟨key, found⟩
    exact ⟨(key, n), Table.get?_eq_some_iff.mp found, rfl⟩

/-- The starts are the nodes drawn as starts. -/
theorem mem_starts_iff {g : Graph} {n : Node} :
    n ∈ g.starts ↔ (∃ key, g.node? key = some n) ∧ n.isStart = true := by
  rw [starts, List.mem_filter, mem_nodeList_iff]

/-- The only start of a keyed graph: it is found under its id, and no other node is a start. -/
theorem Keyed.start_of_starts_eq {g : Graph} (keyed : g.Keyed) {start : Node}
    (starts : g.starts = [start]) :
    g.node? start.id = some start ∧ start.isStart = true ∧
      ∀ key n, g.node? key = some n → n.isStart = true → n = start := by
  have mem : start ∈ g.starts := by simp [starts]
  obtain ⟨⟨key, found⟩, drawn⟩ := mem_starts_iff.mp mem
  refine ⟨keyed.node?_id found, drawn, fun key n found drawn => ?_⟩
  have mem : n ∈ g.starts := mem_starts_iff.mpr ⟨⟨key, found⟩, drawn⟩
  rw [starts] at mem
  exact List.mem_singleton.mp mem

theorem contains_iff_node? {g : Graph} {key : String} :
    g.nodes.contains key = true ↔ ∃ n, g.node? key = some n := by
  rw [Table.contains, Option.isSome_iff_exists, node?]

/-! ### Errors -/

/-- A graph is valid exactly when none of its findings is an error. -/
theorem isValid_iff {g : Graph} :
    g.isValid = true ↔ ∀ f ∈ g.findings, f.severity ≠ .error := by
  simp [isValid, errors, List.isEmpty_iff, List.filter_eq_nil_iff]

theorem isValid_eq_false_iff {g : Graph} :
    g.isValid = false ↔ ∃ f ∈ g.findings, f.severity = .error := by
  rw [← Bool.not_eq_true, isValid_iff]
  push Not
  rfl

/-- A valid graph has exactly one start. -/
theorem exists_starts_eq_singleton {g : Graph} (valid : g.isValid = true) :
    ∃ start, g.starts = [start] := by
  have silent : ∀ f ∈ g.checkStart, f.severity ≠ .error := fun f mem =>
    isValid_iff.mp valid f (by simp [findings, mem])
  unfold checkStart at silent
  cases starts : g.starts with
  | nil => exact absurd rfl (silent .noStart (by simp [starts]))
  | cons start others =>
      cases others with
      | nil => exact ⟨start, rfl⟩
      | cons second others =>
          exact absurd rfl (silent (.manyStarts ((start :: second :: others).map (·.id)))
            (by simp [starts]))

/-- The edges of a valid graph run between its nodes. -/
theorem contains_endpoints {g : Graph} (valid : g.isValid = true) {e : Edge} (mem : e ∈ g.edges) :
    g.nodes.contains e.source = true ∧ g.nodes.contains e.target = true := by
  have silent : ∀ f ∈ g.checkEndpoints, f.severity ≠ .error := fun f found =>
    isValid_iff.mp valid f (by simp [findings, found])
  unfold checkEndpoints at silent
  constructor
  · by_contra absent
    refine absurd rfl (silent (.unknownSource e.source e.target) ?_)
    exact List.mem_flatMap.mpr ⟨e, mem, by simp [absent]⟩
  · by_contra absent
    refine absurd rfl (silent (.unknownTarget e.source e.target) ?_)
    exact List.mem_flatMap.mpr ⟨e, mem, by simp [absent]⟩

end Graph

end Workflow
