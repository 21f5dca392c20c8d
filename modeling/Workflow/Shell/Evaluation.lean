import Workflow.Decimal.Integer
import Workflow.Responder
import Workflow.Shell.Script

/-!
# What scripts do

A script reads a text and writes two: its output, and its complaints.

## Main Definitions

* `Streams` — the texts that are still to be read and already written.
* `run` — what becomes of the streams, with the exit status.
* `interpreter` — the interpreter of scripts.

## Design Notes

The interpreter stands in for the shell of the system, which is no part of the
program.  It belongs to the outer layer: `main` is the only one to choose it,
everything else is about any `Interpreter`, and no result is about this one.

Commands see no files: whatever is written to a file is gone, and there is no
file to read from.
-/

namespace Workflow.Shell

/-- The texts at hand. -/
structure Streams where
  /-- What can still be read. -/
  input : List Char
  /-- What has been written. -/
  output : List Char
  /-- What has been complained. -/
  complaints : List Char

/-- The state of a script. -/
structure State where
  /-- Its texts. -/
  streams : Streams
  /-- The values of its variables. -/
  bindings : Table String
  /-- The exit status of the last command. -/
  status : Nat
  /-- Whether the script has ended itself. -/
  ended : Bool

/-! ### Words -/

/-- The value of a variable, empty when it has none. -/
def State.value (s : State) (name : String) : List Char :=
  if name = "?" then (Decimal.showNat s.status).toList
  else ((s.bindings.get? name).getD "").toList

/-- The parts of a text between blanks. -/
def fields (cs : List Char) : List (List Char) :=
  cs.foldr
    (fun c parts =>
      if c = ' ' ∨ c = '\t' ∨ c = '\n' then
        match parts with
        | [] :: _ => parts
        | _ => [] :: parts
      else
        match parts with
        | part :: more => (c :: part) :: more
        | [] => [[c]])
    [[]]

/-- Words with an unquoted value behind them: its first part joins the last word, its last part may
still go on. -/
def joinFields (words : List (List Char)) (current : Option (List Char)) (cs : List Char) :
    List (List Char) × Option (List Char) :=
  match fields cs with
  | [] | [[]] => (words, current)
  | [part] => (words, some (current.getD [] ++ part))
  | first :: more =>
    let head := current.getD [] ++ first
    let words := if head = [] then words else words ++ [head]
    let last := more.getLastD []
    (words ++ more.dropLast, if last = [] then none else some last)

/-- The words that a written word stands for. -/
def State.expand (s : State) (w : Word) : List String :=
  let (words, current) := w.foldl
    (fun (words, current) piece =>
      match piece with
      | .text cs => (words, some (current.getD [] ++ cs))
      | .value name true => (words, some (current.getD [] ++ s.value name))
      | .value name false => joinFields words current (s.value name))
    (([] : List (List Char)), (none : Option (List Char)))
  (words ++ current.toList).map String.ofList

/-! ### Commands -/

/-- A letter behind a backslash. -/
def escapeOf? : Char → Option Char
  | 'n' => some '\n'
  | 't' => some '\t'
  | 'r' => some '\r'
  | '\\' => some '\\'
  | 'a' => some '\x07'
  | 'b' => some '\x08'
  | 'f' => some '\x0c'
  | 'v' => some '\x0b'
  | _ => none

/-- A text with its escapes resolved. -/
def unescape : List Char → List Char
  | '\\' :: c :: cs =>
    match escapeOf? c with
    | some e => e :: unescape cs
    | none => '\\' :: c :: unescape cs
  | c :: cs => c :: unescape cs
  | [] => []

/-- A format with its places filled from left to right, and the texts that are left over. -/
def fill : List Char → List String → List Char × List String
  | '%' :: '%' :: cs, args => let (out, args) := fill cs args; ('%' :: out, args)
  | '%' :: 's' :: cs, args =>
    let (out, rest) := fill cs args.tail
    ((args.headD "").toList ++ out, rest)
  | '%' :: 'd' :: cs, args =>
    let (out, rest) := fill cs args.tail
    ((args.headD "0").toList ++ out, rest)
  | '\\' :: c :: cs, args =>
    let (out, rest) := fill cs args
    (match escapeOf? c with
      | some e => e :: out
      | none => '\\' :: c :: out, rest)
  | c :: cs, args => let (out, rest) := fill cs args; (c :: out, rest)
  | [], args => ([], args)

/-- A format filled again and again until no texts are left over. -/
def fillAll (format : List Char) : Nat → List String → List Char
  | 0, args => (fill format args).1
  | again + 1, args =>
    let (out, rest) := fill format args
    if rest = [] ∨ rest.length = args.length then out else out ++ fillAll format again rest

/-- What a command writes, complains and returns, and what it leaves of its input. -/
structure Effect where
  /-- The output. -/
  output : List Char
  /-- The complaints. -/
  complaints : List Char
  /-- The exit status. -/
  status : Nat
  /-- The rest of the input. -/
  rest : List Char

/-- Whether a condition holds; nothing when it is malformed. -/
def condition? : List String → Option Bool
  | [] => some false
  | [a] => some (a != "")
  | ["!", a] => some (a == "")
  | ["-n", a] => some (a != "")
  | ["-z", a] => some (a == "")
  | [a, "=", b] => some (a == b)
  | [a, "!=", b] => some (a != b)
  | _ => none

/-- The effect of a test. -/
def testEffect (args : List String) (input : List Char) : Effect :=
  match condition? args with
  | some true => ⟨[], [], 0, input⟩
  | some false => ⟨[], [], 1, input⟩
  | none => ⟨[], "test: unexpected operator\n".toList, 2, input⟩

/-- The effect of a command with its arguments. -/
def effect (name : String) (args : List String) (input : List Char) : Effect :=
  match name with
  | ":" | "true" => ⟨[], [], 0, input⟩
  | "false" => ⟨[], [], 1, input⟩
  | "cat" =>
    match args.find? (· != "-") with
    | none => ⟨input, [], 0, []⟩
    | some file => ⟨[], ("cat: " ++ file ++ ": No such file or directory\n").toList, 1, input⟩
  | "echo" =>
    match args with
    | "-n" :: args => ⟨unescape (String.intercalate " " args).toList, [], 0, input⟩
    | _ => ⟨unescape (String.intercalate " " args).toList ++ ['\n'], [], 0, input⟩
  | "printf" =>
    match args with
    | format :: args => ⟨fillAll format.toList args.length args, [], 0, input⟩
    | [] => ⟨[], "printf: usage: printf format [arg ...]\n".toList, 2, input⟩
  | "test" => testEffect args input
  | "[" =>
    if args.getLast? = some "]" then testEffect args.dropLast input
    else ⟨[], "[: missing ]\n".toList, 2, input⟩
  | _ => ⟨[], (name ++ ": not found\n").toList, 127, input⟩

/-! ### Redirections -/

/-- Where a text that is written ends up. -/
inductive Sink where
  | output | complaints | nowhere
  deriving DecidableEq, Repr

/-- Where the output and the complaints of a command end up. -/
structure Wiring where
  /-- Where the output goes. -/
  output : Sink
  /-- Where the complaints go. -/
  complaints : Sink

/-- The wiring behind a redirection. -/
def Wiring.redirect (w : Wiring) : Redirection → Wiring
  | .input _ => w
  | .output stream target =>
    let sink := match target with
      | .stream 1 => w.output
      | .stream 2 => w.complaints
      | _ => .nowhere
    if stream = 1 then { w with output := sink }
    else if stream = 2 then { w with complaints := sink }
    else w

/-- The streams after a text went to a sink. -/
def Streams.send (s : Streams) (cs : List Char) : Sink → Streams
  | .output => { s with output := s.output ++ cs }
  | .complaints => { s with complaints := s.complaints ++ cs }
  | .nowhere => s

/-- The value that a word gives to a variable, when it is an assignment. -/
def assignment? (s : State) : Word → Option (String × String)
  | .text cs :: pieces =>
    let name := cs.takeWhile Scanner.isNameChar
    match cs.dropWhile Scanner.isNameChar with
    | '=' :: rest =>
      if name = [] ∨ (name.headD 'a').isDigit then none
      else
        let value := pieces.flatMap fun piece =>
          match piece with
          | .text cs => cs
          | .value name _ => s.value name
        some (String.ofList name, String.ofList (rest ++ value))
    | _ => none
  | _ => none

/-- Give values to the variables at the front of a command, and return its other words. -/
def assign (s : State) : List Word → State × List Word
  | [] => (s, [])
  | w :: more =>
    match assignment? s w with
    | some (name, value) =>
      assign { s with bindings := s.bindings.insert name value, status := 0 } more
    | none => (s, w :: more)

/-- Whether the input of a command is redirected to a file that is not there. -/
def lacksInput (s : State) (c : Command) : Bool :=
  c.redirections.any fun r =>
    match r with
    | .input w => s.expand w != ["/dev/null"]
    | .output .. => false

/-- Whether a command has its input redirected. -/
def hasInput (c : Command) : Bool :=
  c.redirections.any fun r =>
    match r with
    | .input _ => true
    | .output .. => false

/-- The exit status that a text names. -/
def statusOf? (text : String) : Option Nat := (Decimal.readNat? text.toList).map (· % 256)

/-- Run a simple command. -/
def runCommand (s : State) (c : Command) : State :=
  let (s, words) := assign s c.words
  let w := c.redirections.foldl Wiring.redirect ⟨.output, .complaints⟩
  if lacksInput s c then
    { s with status := 2, streams := s.streams.send "cannot open file\n".toList w.complaints }
  else
    match words.flatMap s.expand with
    | [] => s
    | "exit" :: args =>
      match args with
      | [] => { s with ended := true }
      | text :: _ => { s with ended := true, status := (statusOf? text).getD 2 }
    | name :: args =>
      let e := effect name args (if hasInput c then [] else s.streams.input)
      let streams := (s.streams.send e.output w.output).send e.complaints w.complaints
      { s with
        status := e.status
        streams := if hasInput c then streams else { streams with input := e.rest } }

/-- Run commands of which each reads what the one before has written. -/
def runPipe (s : State) : List Command → State
  | [] => s
  | [c] => runCommand s c
  | c :: more =>
    let first := runCommand { s with streams := { s.streams with output := [] } } c
    let last := runPipe
      { s with
        status := first.status
        streams := ⟨first.streams.output, s.streams.output, first.streams.complaints⟩ }
      more
    { s with
      status := last.status
      streams := { last.streams with input := first.streams.input } }

/-- Take a step, unless its link or an end of the script forbids it. -/
def runStep (s : State) (step : Step) : State :=
  let taken := match step.link with
    | .always => true
    | .onSuccess => s.status = 0
    | .onFailure => s.status ≠ 0
  if s.ended || !taken then s else runPipe s step.commands

/-- Run a script on an input. -/
def run (script : Script) (bindings : Table String) (input : String) : State :=
  script.foldl runStep ⟨⟨input.toList, [], []⟩, bindings, 0, false⟩

/-- The exit status of texts that are no script. -/
def malformed : Nat := 2

/-- The interpreter of scripts.  It remembers nothing. -/
def interpreter : Interpreter Unit where
  carryOut command bindings input memory :=
    let result := match Script.parse? command with
      | some script =>
        let s := run script bindings input
        ⟨s.status, String.ofList s.streams.output, String.ofList s.streams.complaints⟩
      | none => ⟨malformed, "", "Syntax error\n"⟩
    (result, memory)

end Workflow.Shell
