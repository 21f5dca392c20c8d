import Workflow.Outcome
import Workflow.Text.Search

/-!
# Answers

The answer to a prompt is free text.  Two markers in it are read, and nothing
else: `[outcome:...]` with the name of a status, and `[preferred_label:...]`.

## Main Definitions

* `leftmost?` — the first place of a text at which something can be read.
* `Answer.statusAt?`, `Answer.labelAt?` — the markers at the front of a text.
* `Answer.outcome` — what an answer says.
-/

namespace Workflow

/-- What is read at the first place of a text where anything can be read. -/
def Text.leftmost? {α : Type} (read? : List Char → Option α) : List Char → Option α
  | [] => read? []
  | c :: cs =>
    match read? (c :: cs) with
    | some found => some found
    | none => leftmost? read? cs

namespace Answer

/-- The beginning of a marker for a status. -/
def outcomeMark : List Char := "[outcome:".toList

/-- The beginning of a marker for a label. -/
def labelMark : List Char := "[preferred_label:".toList

/-- The status of a marker at the front of a text. -/
def statusAt? (cs : List Char) : Option Status :=
  (Text.after? outcomeMark cs).bind fun rest =>
    Status.all.find? fun s => (Text.after? (s.name.toList ++ [']']) rest).isSome

/-- The label of a marker at the front of a text: any text but the empty one, up to the next closing
bracket. -/
def labelAt? (cs : List Char) : Option (List Char) :=
  (Text.after? labelMark cs).bind fun rest =>
    match rest.takeWhile (· != ']'), rest.dropWhile (· != ']') with
    | c :: label, _ :: _ => some (c :: label)
    | _, _ => none

/-- What an answer says: the first status, or success; and the first label, or none. -/
def outcome (answer : String) : Outcome :=
  .withLabel
    ((Text.leftmost? statusAt? answer.toList).getD .success)
    (String.ofList ((Text.leftmost? labelAt? answer.toList).getD []))

end Answer

end Workflow
