import Workflow.Outcome
import Workflow.Work

/-!
# Goal gates

A node may be a gate: a run that has passed it may not leave the graph unless
its last outcome was a success.  A run held at a gate goes back to a retry
target.

## Main Definitions

* `Gate.unsatisfied` — the gates that hold a run back.
* `Gate.judge` — what a check of the gates comes to.
* `Gate.retryTarget?` — where a run goes back to.
-/

namespace Workflow.Gate

/-- Whether the id names a gate whose last outcome was no success. -/
def holdsBack (g : Graph) (outcomes : Table Status) (id : String) : Bool :=
  match g.node? id with
  | none => false
  | some n => n.isGate && outcomes.get? id != some .success

/-- The gates among the completed nodes that hold a run back, each once, in order of completion. -/
def unsatisfied (g : Graph) (completed : List String) (outcomes : Table Status) : List String :=
  completed.foldl
    (fun failed id =>
      if holdsBack g outcomes id && !failed.contains id then failed ++ [id] else failed)
    []

/-- What a check of the gates comes to. -/
structure Verdict where
  /-- Whether no gate holds the run back. -/
  allSatisfied : Bool
  /-- The gates that hold it back, in order of completion. -/
  failed : List String
  deriving DecidableEq, Repr

/-- The first gate that holds the run back. -/
def Verdict.first? (v : Verdict) : Option String := v.failed.head?

/-- Check the gates among the completed nodes. -/
def judge (g : Graph) (completed : List String) (outcomes : Table Status) : Verdict :=
  let failed := unsatisfied g completed outcomes
  ⟨failed.isEmpty, failed⟩

/-- The targets that a node or graph names, the better one first. -/
def candidates (attributes : Attributes) : List String :=
  [attributes.text "retry_target" "", attributes.text "fallback_retry_target" ""]

/-- Where to go back to from a node: the first of its own targets and then the graph's that is a
node of the graph. -/
def retryTarget? (g : Graph) (node : Option Node) : Option String :=
  let own := match node with
    | some n => candidates n.attributes
    | none => []
  (own ++ candidates g.attributes).find? fun target => target != "" && g.nodes.contains target

end Workflow.Gate
