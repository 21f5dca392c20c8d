import Workflow.Decimal.Integer

/-!
# Errors

Everything that can go wrong between a source text and the end of a run, and
the one text each cause is reported with.

## Main Definitions

* `Position` — a place in a source text.
* `Error` — the causes, with `Error.message` for their wording.
-/

namespace Workflow

/-- A place in a text: line and column, both counted from 1. -/
structure Position where
  /-- One more than the line ends before the place. -/
  line : Nat
  /-- One more than the characters before the place on its line. -/
  column : Nat
  deriving DecidableEq, Repr, Inhabited

namespace Position

/-- The place of the first character. -/
def start : Position := ⟨1, 1⟩

/-- The place behind a character. -/
def step (p : Position) (c : Char) : Position :=
  if c = '\n' then ⟨p.line + 1, 1⟩ else ⟨p.line, p.column + 1⟩

/-- The place behind a text. -/
def after (p : Position) (cs : List Char) : Position := cs.foldl step p

@[simp] theorem after_nil (p : Position) : p.after [] = p := rfl

@[simp] theorem after_append (p : Position) (a b : List Char) :
    p.after (a ++ b) = (p.after a).after b := by
  simp [after]

end Position

/-- Why reading, checking or running a workflow failed. -/
inductive Error where
  /-- A character sequence that is no token. -/
  | lex (text : String) (position : Position)
  /-- A token that fits no rule of the grammar. -/
  | parse (text : String) (position : Position)
  /-- A text that is no duration. -/
  | invalidDuration (text : String)
  /-- A graph that must not be run. -/
  | validation (text : String)
  /-- A handler that gave up on a node. -/
  | handler (handler node text : String)
  /-- A file that could not be read or written. -/
  | io (text : String)
  /-- A JSON text that is malformed or of another shape. -/
  | json (text : String)
  /-- Anything else. -/
  | other (text : String)
  deriving DecidableEq, Repr

namespace Error

/-- A text with the place it speaks about. -/
def located (text : String) (p : Position) : String :=
  text ++ " at line " ++ Decimal.showNat p.line ++ ", column " ++ Decimal.showNat p.column

/-- The wording of an error. -/
def message : Error → String
  | .lex text p => located text p
  | .parse text p => located text p
  | .invalidDuration text => "Invalid duration: " ++ text
  | .validation text => "Pipeline validation failed: " ++ text
  | .handler name node text =>
    "Handler '" ++ name ++ "' failed on node '" ++ node ++ "': " ++ text
  | .io text => "IO error: " ++ text
  | .json text => "JSON error: " ++ text
  | .other text => text

/-- Whether the error arose while turning a source text into a graph. -/
def isCompileError : Error → Bool
  | .lex .. | .parse .. | .invalidDuration _ => true
  | _ => false

/-- The place in the source text, for errors that have one. -/
def position? : Error → Option Position
  | .lex _ p => some p
  | .parse _ p => some p
  | _ => none

end Error

end Workflow
