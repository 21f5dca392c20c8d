import Workflow.Text.Blank
import Workflow.Text.Lowercase

/-!
# Labels

Edge labels name choices, and may show the key that picks a choice: `[Y] Yes`,
`Y) Yes`, `Y - Yes`.  Two labels name the same choice when they agree without
that key, in lower case.

## Main Definitions

* `Label.withoutMarker` — a text without one marker at its front.
* `Label.normalize` — what a label is compared by.
-/

namespace Workflow.Label

open Text

/-- The text behind `[c]` and the blanks after it. -/
def bracketed? : List Char → Option (List Char)
  | '[' :: c :: ']' :: rest => if c = '\n' then none else some (trimStart rest)
  | _ => none

/-- The text behind `c)` and the blanks after it. -/
def parenthesized? : List Char → Option (List Char)
  | c :: ')' :: rest => if c = '\n' then none else some (trimStart rest)
  | _ => none

/-- The text behind `c`, a dash, and the blanks around the dash. -/
def dashed? : List Char → Option (List Char)
  | c :: rest =>
    if c = '\n' then none
    else match trimStart rest with
      | '-' :: behind => some (trimStart behind)
      | _ => none
  | [] => none

/-- A text without one marker at its front; of several forms the first one counts. -/
def withoutMarker (cs : List Char) : List Char :=
  match bracketed? cs with
  | some rest => rest
  | none =>
    match parenthesized? cs with
    | some rest => rest
    | none =>
      match dashed? cs with
      | some rest => rest
      | none => cs

/-- What a label is compared by: in lower case, without a marker and without blanks around it. -/
def normalize (label : String) : String :=
  String.ofList (trim (withoutMarker (lowercase (trim label.toList))))

end Workflow.Label
