import Mathlib.Logic.Relation
import Workflow.Validation

/-!
# Where paths lead

Validation looks for the ids that a path of edges leads to.  It keeps a queue of ids
to look at and follows the edges that leave the first of them; those edges are then
used up, so that cycles, loops and ids queued twice come to an end by themselves.  That
it misses nothing is the point of this file: a path through an id that is done with
can be cut at its last visit there, and goes on from one of the queued targets along
edges that are still left.

## Main Definitions

* `Graph.Leads`, `Graph.Path` — edges and paths between ids.

## Main Statements

* `Graph.exists_path_cons_iff` — looking at one id of the queue loses no path.
* `Graph.mem_reachedAlong_iff` — the search finds exactly what paths lead to.
-/

namespace Workflow.Graph

open Relation

/-- One of the edges leads from `a` to `b`. -/
def Leads (edges : List Edge) (a b : String) : Prop := ∃ e ∈ edges, e.source = a ∧ e.target = b

/-- A path along the edges, possibly of no edge, leads from `a` to `b`. -/
def Path (edges : List Edge) : String → String → Prop := ReflTransGen (Leads edges)

/-- A path of edges of the graph leads from `a` to `b`. -/
def Reaches (g : Graph) : String → String → Prop := Path g.edges

variable {edges : List Edge} {head : String}

theorem mem_leaving_iff {e : Edge} : e ∈ leaving head edges ↔ e ∈ edges ∧ e.source = head := by
  simp [leaving]

theorem mem_notLeaving_iff {e : Edge} :
    e ∈ notLeaving head edges ↔ e ∈ edges ∧ e.source ≠ head := by
  simp [notLeaving]

/-- Edges that are left make paths among all edges. -/
theorem Path.of_notLeaving {a b : String} (path : Path (notLeaving head edges) a b) :
    Path edges a b := by
  have fewer : Leads (notLeaving head edges) ≤ Leads edges := fun a b leads => by
    obtain ⟨e, mem, ends⟩ := leads
    exact ⟨e, (mem_notLeaving_iff.mp mem).1, ends⟩
  exact ReflTransGen.mono fewer a b path

/-- **Looking at one id loses no path.**  Paths from the queue lead to its head, or can be taken
from what is queued then, along the edges that do not leave the head. -/
theorem exists_path_cons_iff {queue : List String} {id : String} :
    (∃ start ∈ head :: queue, Path edges start id) ↔
      id = head ∨ ∃ start ∈ queue ++ (leaving head edges).map (·.target),
        Path (notLeaving head edges) start id := by
  constructor
  · rintro ⟨start, queued, path⟩
    -- along the path: each id on it is the head, or still found from what is queued then
    induction path with
    | refl =>
        rcases List.mem_cons.mp queued with rfl | queued
        · exact .inl rfl
        · exact .inr ⟨start, List.mem_append_left _ queued, .refl⟩
    | @tail here next _ leads ih =>
        obtain ⟨e, mem, source, target⟩ := leads
        by_cases atHead : here = head
        · -- the path is at the head again: it goes on from one of the targets
          have left : e ∈ leaving head edges := mem_leaving_iff.mpr ⟨mem, source.trans atHead⟩
          refine .inr ⟨next, List.mem_append_right _ (List.mem_map.mpr ⟨e, left, target⟩), .refl⟩
        · obtain ⟨start, queued, path⟩ := ih.resolve_left atHead
          have kept : e ∈ notLeaving head edges :=
            mem_notLeaving_iff.mpr ⟨mem, fun eq => atHead (source.symm.trans eq)⟩
          exact .inr ⟨start, queued, path.tail ⟨e, kept, source, target⟩⟩
  · rintro (rfl | ⟨start, queued, path⟩)
    · exact ⟨id, List.mem_cons_self, .refl⟩
    · rcases List.mem_append.mp queued with queued | target
      · exact ⟨start, List.mem_cons_of_mem _ queued, path.of_notLeaving⟩
      · obtain ⟨e, left, rfl⟩ := List.mem_map.mp target
        obtain ⟨mem, source⟩ := mem_leaving_iff.mp left
        exact ⟨head, List.mem_cons_self, path.of_notLeaving.head ⟨e, mem, source, rfl⟩⟩

/-- **The search finds exactly what paths from the queue lead to.** -/
theorem mem_reachedAlong_iff {queue : List String} {id : String} :
    id ∈ reachedAlong edges queue ↔ ∃ start ∈ queue, Path edges start id := by
  fun_induction reachedAlong edges queue with
  | case1 => simp
  | case2 edges head queue ih => rw [List.mem_cons, ih, exists_path_cons_iff]

theorem mem_reached_iff {g : Graph} {start id : String} :
    id ∈ g.reached start ↔ g.Reaches start id := by
  rw [reached, mem_reachedAlong_iff]
  simp [Reaches]

end Workflow.Graph
