import Workflow.Message
import Workflow.Run.State

/-!
# Arguments

What a user may say on the command line, and what it asks for.

## Main Definitions

* `Request` — the things that can be asked for.
* `Halt` — the ways to be done without a request.
* `Request.ofArguments` — the request of some arguments.

## Design Notes

Arguments are taken from left to right, and the first that is wrong, asks for
help or asks for the version decides.  An option is given at most once.  Its
value follows an equals sign, or is the next argument, which must not look like
an option itself; behind a short name the value may also follow at once.
-/

namespace Workflow.CommandLine

/-- The commands, and the program itself. -/
inductive Topic where
  | program | run | validate | info | checkpoint | help
  deriving DecidableEq, Repr

namespace Topic

/-- The commands that make requests. -/
def commands : List Topic := [run, validate, info, checkpoint]

/-- The name of a topic. -/
def name : Topic → String
  | program => "trellis"
  | run => "run"
  | validate => "validate"
  | info => "info"
  | checkpoint => "checkpoint"
  | help => "help"

/-- The command of a name that makes a request. -/
def ofName? (name : String) : Option Topic := commands.find? (·.name == name)

end Topic

/-- The options. -/
inductive Flag where
  | verbose | help | version | script | checkpointDir | verbosity | maxIterations
  deriving DecidableEq, Repr

namespace Flag

/-- The options of a topic. -/
def available : Topic → List Flag
  | .program => [verbose, help, version]
  | .run => [script, checkpointDir, verbosity, maxIterations, verbose, help]
  | .validate | .info | .checkpoint => [verbose, help]
  | .help => []

/-- The long name of an option. -/
def long : Flag → String
  | verbose => "verbose"
  | help => "help"
  | version => "version"
  | script => "command"
  | checkpointDir => "checkpoint-dir"
  | verbosity => "verbosity"
  | maxIterations => "max-iterations"

/-- The short name of an option, when it has one. -/
def short? : Flag → Option Char
  | verbose => some 'v'
  | help => some 'h'
  | version => some 'V'
  | script => some 'c'
  | checkpointDir | verbosity | maxIterations => none

/-- Whether an option has a value. -/
def takesValue : Flag → Bool
  | verbose | help | version => false
  | script | checkpointDir | verbosity | maxIterations => true

/-- The option of a long name. -/
def ofLong? (topic : Topic) (name : String) : Option Flag :=
  (available topic).find? (·.long == name)

/-- The option of a short name. -/
def ofShort? (topic : Topic) (c : Char) : Option Flag :=
  (available topic).find? (·.short? == some c)

end Flag

/-- The ways to be done without a request. -/
inductive Halt where
  /-- Something is wrong with the arguments. -/
  | usage
  /-- Help was asked for. -/
  | help (topic : Topic)
  /-- The version was asked for. -/
  | version
  deriving DecidableEq, Repr

/-- What has been said so far. -/
structure Said where
  /-- The options with their values. -/
  flags : List (Flag × String)
  /-- The other arguments. -/
  operands : List String

namespace Said

/-- Nothing. -/
def nothing : Said := ⟨[], []⟩

/-- The value of an option. -/
def value? (s : Said) (flag : Flag) : Option String := s.flags.lookup flag

end Said

/-- A number of visits: digits, perhaps behind a plus sign, that fit a word. -/
def readLimit? (text : String) : Option Nat :=
  let ds := match text.toList with
    | '+' :: ds => ds
    | ds => ds
  (Decimal.readNat? ds).bind fun n => if n < UInt64.size then some n else none

/-- Whether an option may have a value. -/
def Flag.admits (flag : Flag) (value : String) : Bool :=
  match flag with
  | .checkpointDir => value != ""
  | .verbosity =>
    match Verbosity.parse value with
    | .ok _ => true
    | .error _ => false
  | .maxIterations => (readLimit? value).isSome
  | _ => true

/-- Say an option. -/
def Said.give (topic : Topic) (s : Said) (flag : Flag) (value : String) : Except Halt Said :=
  match flag with
  | .help => .error (.help topic)
  | .version => .error .version
  | _ =>
    if (s.value? flag).isSome || !flag.admits value then .error .usage
    else .ok { s with flags := s.flags ++ [(flag, value)] }

/-- Say another argument.  There is room for one, which is not empty. -/
def Said.giveOperand (s : Said) (text : String) : Except Halt Said :=
  if s.operands = [] ∧ text ≠ "" then .ok { s with operands := [text] } else .error .usage

/-- Say options by their short names in a row.  The last one may still lack its value. -/
def sayShort (topic : Topic) (s : Said) : List Char → Except Halt (Said × Option Flag)
  | [] => .ok (s, none)
  | c :: more =>
    match Flag.ofShort? topic c with
    | none => .error .usage
    | some flag =>
      if flag.takesValue then
        match more with
        | [] => .ok (s, some flag)
        | '=' :: value => (s.give topic flag (String.ofList value)).map (·, none)
        | value => (s.give topic flag (String.ofList value)).map (·, none)
      else (s.give topic flag "").bind fun s => sayShort topic s more

/-- Say an option by its long name.  It may still lack its value. -/
def sayLong (topic : Topic) (s : Said) (text : String) : Except Halt (Said × Option Flag) :=
  let name := text.toList.takeWhile (· != '=')
  match Flag.ofLong? topic (String.ofList name), text.toList.dropWhile (· != '=') with
  | none, _ => .error .usage
  | some flag, [] =>
    if flag.takesValue then .ok (s, some flag) else (s.give topic flag "").map (·, none)
  | some flag, _ :: value =>
    if flag.takesValue then (s.give topic flag (String.ofList value)).map (·, none)
    else .error .usage

/-- What one argument is. -/
inductive Shape where
  /-- The sign that no more options follow. -/
  | divider
  /-- An option by its long name, perhaps with a value. -/
  | long (text : String)
  /-- Options by their short names. -/
  | short (names : List Char)
  /-- Anything else. -/
  | operand

/-- What an argument is. -/
def shapeOf (arg : String) : Shape :=
  match arg.toList with
  | ['-', '-'] => .divider
  | '-' :: '-' :: text => .long (String.ofList text)
  | '-' :: c :: names => .short (c :: names)
  | _ => .operand

/-- Say the arguments of a command. -/
def sayAll (topic : Topic) (s : Said) : List String → Except Halt Said
  | [] => .ok s
  | arg :: more =>
    let told : Option (Except Halt (Said × Option Flag)) := match shapeOf arg with
      | .divider => none
      | .long text => some (sayLong topic s text)
      | .short names => some (sayShort topic s names)
      | .operand => some ((s.giveOperand arg).map (·, none))
    match told with
    | none => more.foldlM Said.giveOperand s
    | some (.error halt) => .error halt
    | some (.ok (s, none)) => sayAll topic s more
    | some (.ok (s, some flag)) =>
      match more with
      | [] => .error .usage
      | value :: more =>
        if value.startsWith "-" && value != "-" then .error .usage
        else (s.give topic flag value).bind fun s => sayAll topic s more

/-- What a run is asked for beside its source. -/
structure RunOptions where
  /-- The script that answers prompts; without one every task is a success. -/
  script : Option String
  /-- Where checkpoints are kept, if anywhere. -/
  checkpointDir : Option String
  /-- How much to tell. -/
  verbosity : Verbosity
  /-- How many visits to nodes are allowed. -/
  limit : Nat
  deriving DecidableEq, Repr

/-- The things that can be asked for. -/
inductive Request where
  /-- Run a workflow. -/
  | run (path : String) (options : RunOptions)
  /-- Say what is wrong with a workflow. -/
  | validate (path : String)
  /-- Describe a workflow. -/
  | info (path : String)
  /-- Describe the checkpoint in a directory. -/
  | checkpoint (directory : String)
  deriving DecidableEq, Repr

namespace Request

/-- What was asked of a run. -/
def runOptions (s : Said) : RunOptions where
  script := s.value? .script
  checkpointDir := s.value? .checkpointDir
  verbosity :=
    match (s.value? .verbosity).map Verbosity.parse with
    | some (.ok v) => v
    | _ => .default
  limit := ((s.value? .maxIterations).bind readLimit?).getD Run.standardLimit

/-- The request that a command makes. -/
def ofSaid (topic : Topic) (s : Said) : Except Halt Request :=
  match topic, s.operands with
  | .run, [path] => .ok (.run path (runOptions s))
  | .validate, [path] => .ok (.validate path)
  | .info, [path] => .ok (.info path)
  | .checkpoint, [directory] => .ok (.checkpoint directory)
  | _, _ => .error .usage

/-- What help about some topics is asked for. -/
def helpFor : List String → Halt
  | [] => .help .program
  | ["help"] => .help .help
  | [name] =>
    match Topic.ofName? name with
    | some topic => .help topic
    | none => .usage
  | _ => .usage

/-- The request of some arguments, behind options of the program itself. -/
def ofArgumentsFrom (s : Said) : List String → Except Halt Request
  | [] => .error .usage
  | arg :: more =>
    match shapeOf arg with
    | .divider => .error .usage
    | .long text => do
      let (s, _) ← sayLong .program s text
      ofArgumentsFrom s more
    | .short names => do
      let (s, _) ← sayShort .program s names
      ofArgumentsFrom s more
    | .operand =>
      if arg = "help" then .error (helpFor more)
      else
        match Topic.ofName? arg with
        | some topic => (sayAll topic .nothing more).bind (ofSaid topic)
        | none => .error .usage

/-- The request of some arguments. -/
def ofArguments (args : List String) : Except Halt Request := ofArgumentsFrom .nothing args

end Request

end Workflow.CommandLine
