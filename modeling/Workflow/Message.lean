import Workflow.Event

/-!
# Messages

Events as lines for people, in three degrees of detail.

## Main Definitions

* `Verbosity` — how much to tell.
* `Event.Kind.message` — the text of an event.
* `Event.Kind.messageAt?` — the text, unless the verbosity hides the event.
-/

namespace Workflow

/-- How much to tell. -/
inductive Verbosity where
  /-- How runs begin and end. -/
  | minimal
  /-- The stages too. -/
  | standard
  /-- Everything. -/
  | verbose
  deriving DecidableEq, Repr, Inhabited

namespace Verbosity

/-- The name of a verbosity. -/
def name : Verbosity → String
  | .minimal => "minimal"
  | .standard => "standard"
  | .verbose => "verbose"

/-- The verbosity of a name, or what is wrong with the name. -/
def parse (name : String) : Except Error Verbosity :=
  match [minimal, standard, verbose].find? (·.name == name) with
  | some v => .ok v
  | none => .error (.other ("unknown verbosity: " ++ name))

/-- How much is told when nothing is said about it. -/
def default : Verbosity := .standard

/-- The kinds of event that are always shown. -/
def minimalKinds : List String :=
  ["pipeline_started", "pipeline_completed", "pipeline_failed", "error"]

/-- The kinds of event that the least verbosity hides. -/
def stageKinds : List String :=
  ["stage_started", "stage_completed", "stage_retrying", "edge_selected", "human_gate"]

/-- Whether a kind of event is shown. -/
def shows (v : Verbosity) (k : Event.Kind) : Bool :=
  match v with
  | .minimal => minimalKinds.contains k.name
  | .standard => minimalKinds.contains k.name || stageKinds.contains k.name
  | .verbose => true

end Verbosity

/-- Milliseconds rounded to whole seconds, halves upwards. -/
def roundedSeconds (millis : Nat) : Nat := (millis + 500) / 1000

/-- A length of time: seconds alone below a minute, else minutes with the seconds left over. -/
def renderDuration (millis : Nat) : String :=
  if millis < 60000 then Decimal.showNat (roundedSeconds millis) ++ "s"
  else
    let minutes := millis / 60000
    let seconds := roundedSeconds (millis % 60000)
    if 0 < seconds then
      Decimal.showNat minutes ++ "m " ++ Decimal.showNat seconds ++ "s"
    else Decimal.showNat minutes ++ "m"

namespace Event.Kind

open Decimal in
/-- The text of an event. -/
def message : Event.Kind → String
  | .pipelineStarted goal total => "[Pipeline] " ++ goal ++ "\n  " ++ showNat total ++ " nodes"
  | .pipelineCompleted _ completed total duration =>
    "[Pipeline] Complete — " ++ showNat completed ++ "/" ++ showNat total ++ " nodes — " ++
      renderDuration duration
  | .pipelineFailed _ reason => "[Pipeline] Failed — " ++ reason
  | .stageStarted _ label num total =>
    "  → " ++ label ++ " (" ++ showNat num ++ "/" ++ showNat total ++ ")"
  | .stageCompleted _ label _ _ status duration =>
    "  " ++ (if status = .success then "✓" else "✗") ++ " " ++ label ++ " — " ++
      renderDuration duration
  | .stageRetrying _ label count most =>
    "  ↻ Retry " ++ label ++ " (" ++ showNat count.toNat ++ "/" ++ showNat most.toNat ++ ")"
  | .edgeSelected _ target label => "  ↪ " ++ (if label = "" then target else label)
  | .humanGate _ label choices =>
    "  ⏸ Awaiting approval: " ++ label ++ "\n  Choices: " ++ String.intercalate " | " choices
  | .error id text => "  ✗ Error at " ++ id ++ ": " ++ text

/-- The text of an event, unless the verbosity hides it. -/
def messageAt? (v : Verbosity) (k : Event.Kind) : Option String :=
  if v.shows k then some k.message else none

end Event.Kind

end Workflow
