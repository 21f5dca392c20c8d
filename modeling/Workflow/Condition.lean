import Workflow.Outcome
import Workflow.Text.Blank
import Workflow.Text.Search

/-!
# Conditions

Edges may carry a condition: clauses joined by `&&`, each comparing what a key
stands for with a literal, or asking that it be something at all.  Every text
is a condition.

## Main Definitions

* `Clause` — a key, an operator and a literal.
* `Condition.parse` — the clauses of a text.
* `Condition.holds` — whether a text holds for an outcome in a context.
-/

namespace Workflow

/-- How a clause judges what its key stands for. -/
inductive Operator where
  /-- It is the literal. -/
  | equal
  /-- It is not the literal. -/
  | notEqual
  /-- It is not empty. -/
  | present
  deriving DecidableEq, Repr

/-- A clause. -/
structure Clause where
  /-- The key. -/
  key : String
  /-- The operator. -/
  operator : Operator
  /-- The literal; empty where the operator needs none. -/
  literal : String
  deriving DecidableEq, Repr

namespace Condition

/-! ### Reading -/

/-- The text of a JSON string and nothing else. -/
def jsonString? (text : String) : Option String := (Json.parse? text).bind Json.text?

/-- A literal: a quoted text with its escapes resolved, or as it stands when they are not JSON's;
anything else without the blanks around it. -/
def literal (cs : List Char) : String :=
  let trimmed := Text.trim cs
  match trimmed with
  | '"' :: inner =>
    if inner.getLast? = some '"' then
      (jsonString? (String.ofList trimmed)).getD (String.ofList inner.dropLast)
    else String.ofList trimmed
  | _ => String.ofList trimmed

/-- The clause of a text; the operator that negates is looked for first. -/
def clause (cs : List Char) : Clause :=
  match Text.cut? ['!', '='] cs with
  | some (key, value) => ⟨String.ofList (Text.trim key), .notEqual, literal value⟩
  | none =>
    match Text.cut? ['='] cs with
    | some (key, value) => ⟨String.ofList (Text.trim key), .equal, literal value⟩
    | none => ⟨String.ofList cs, .present, ""⟩

/-- The clauses of a text, blank ones left out. -/
def parse (text : String) : List Clause :=
  (((Text.split ['&', '&'] (by decide) text.toList).map Text.trim).filter (· ≠ [])).map clause

/-! ### Judging -/

/-- What a key stands for: the status, the preferred label, or a datum of the context.  A key that
starts with `context.` may leave that out. -/
def resolve (key : String) (outcome : Outcome) (context : Context) : String :=
  if key = "outcome" then outcome.status.name
  else if key = "preferred_label" then outcome.preferredLabel
  else
    match Text.after? "context.".toList key.toList with
    | some stripped =>
      let full := context.text key ""
      if full = "" then context.text (String.ofList stripped) "" else full
    | none => context.text key ""

end Condition

/-- Whether a clause holds. -/
def Clause.holds (c : Clause) (outcome : Outcome) (context : Context) : Bool :=
  let actual := Condition.resolve c.key outcome context
  match c.operator with
  | .equal => actual == c.literal
  | .notEqual => actual != c.literal
  | .present => actual != ""

namespace Condition

/-- Whether every clause holds. -/
def allHold (clauses : List Clause) (outcome : Outcome) (context : Context) : Bool :=
  clauses.all (·.holds outcome context)

/-- Whether a condition holds. -/
def holds (text : String) (outcome : Outcome) (context : Context) : Bool :=
  allHold (parse text) outcome context

end Condition

end Workflow
