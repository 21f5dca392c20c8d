import Workflow.Context
import Workflow.Error

/-!
# Outcomes

What the work on a node came to.

## Main Definitions

* `Status` — success, partial success, retry, fail or skipped.
* `Outcome` — a status, hints for routing, and updates for the context.
-/

namespace Workflow

/-- How the work on a node ended. -/
inductive Status where
  | success | partialSuccess | retry | fail | skipped
  deriving DecidableEq, Repr, Inhabited

namespace Status

/-- Every status. -/
def all : List Status := [.success, .partialSuccess, .retry, .fail, .skipped]

/-- The name used in conditions, events and files. -/
def name : Status → String
  | .success => "success"
  | .partialSuccess => "partial_success"
  | .retry => "retry"
  | .fail => "fail"
  | .skipped => "skipped"

/-- The status of a name. -/
def ofName? (name : String) : Option Status := all.find? (·.name == name)

/-- The status of a name, or what is wrong with the name. -/
def parse (name : String) : Except Error Status :=
  match ofName? name with
  | some s => .ok s
  | none => .error (.other ("unknown stage status: " ++ name))

/-- Whether a node with this status may be tried again in place. -/
def wantsRetry : Status → Bool
  | .fail | .retry => true
  | _ => false

/-- A status as a JSON value. -/
def toJson (s : Status) : Json := .string s.name

/-- A name of one of several things: a text, or an object whose only member has that name and one
of the empty values. -/
def nameOf? (empty : Json → Bool) : Json → Option String
  | .string s => some s
  | .object [(name, j)] => if empty j then some name else none
  | _ => none

/-- Whether a value is `null`. -/
def isNull : Json → Bool
  | .null => true
  | _ => false

/-- The status of a JSON value. -/
def ofJson? (j : Json) : Option Status := (nameOf? isNull j).bind ofName?

end Status

/-- What the work on a node came to. -/
structure Outcome where
  /-- How it ended. -/
  status : Status
  /-- The label of the edge to prefer, empty for none. -/
  preferredLabel : String
  /-- Node ids to go to next, the best first. -/
  suggested : List String
  /-- Data for the context. -/
  updates : Table Datum
  /-- Remarks. -/
  notes : String
  /-- Why it failed, if it did. -/
  failureReason : Option String

namespace Outcome

/-- An outcome with nothing but a status. -/
def ofStatus (status : Status) : Outcome := ⟨status, "", [], .empty, "", none⟩

/-- Success. -/
def success : Outcome := ofStatus .success

/-- Failure for a reason. -/
def fail (reason : String) : Outcome := { ofStatus .fail with failureReason := some reason }

/-- A status and a preferred label. -/
def withLabel (status : Status) (label : String) : Outcome :=
  { ofStatus status with preferredLabel := label }

/-! ### JSON -/

/-- An outcome as an object. -/
def toJson (o : Outcome) : Json :=
  .object [
    ("status", o.status.toJson),
    ("preferred_label", .string o.preferredLabel),
    ("suggested_next_ids", Json.ofTexts o.suggested),
    ("context_updates", Context.valuesToJson o.updates),
    ("notes", .string o.notes),
    ("failure_reason", Json.ofText? o.failureReason)]

/-- The outcome of a JSON value.  Only the status must be there. -/
def ofJson? (j : Json) : Option Outcome := do
  match ← j.record? ["status", "preferred_label", "suggested_next_ids", "context_updates",
      "notes", "failure_reason"] with
  | [status, label, suggested, updates, notes, reason] =>
    return {
      status := ← Json.required? Status.ofJson? status
      preferredLabel := ← Json.optional? Json.text? "" label
      suggested := ← Json.optional? (Json.list? Json.text?) [] suggested
      updates := ← Json.optional? (Context.valuesOfJson? 1) .empty updates
      notes := ← Json.optional? Json.text? "" notes
      failureReason := ← Json.optional? (Json.nullable? Json.text?) none reason }
  | _ => none

end Outcome

end Workflow
