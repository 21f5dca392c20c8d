import Workflow.CommandLine.Arguments

/-!
# Help texts

What is shown to those who ask for help or for the version.

## Main Definitions

* `Topic.helpText` — the help about a topic.
* `versionText` — the name and version of the program.
-/

namespace Workflow.CommandLine

/-- The name and version of the program. -/
def versionText : String := "trellis 0.1.0\n"

/-- What a topic is about. -/
def Topic.about : Topic → String
  | .program => "DOT-based workflow pipeline runner"
  | .run => "Run a pipeline from a .dot file"
  | .validate => "Validate a pipeline .dot file"
  | .info => "Show information about a pipeline"
  | .checkpoint => "Summarize the checkpoint saved in a directory"
  | .help => "Print this message or the help of the given subcommand(s)"

/-- The argument of a command and what it is. -/
def Topic.operand? : Topic → Option (String × String)
  | .program => none
  | .run | .validate | .info => some ("<PIPELINE>", "Path to the pipeline .dot file")
  | .checkpoint => some ("<DIR>", "Directory containing checkpoint.json")
  | .help => some ("[COMMAND]...", "Print help for the subcommand(s)")

/-- An option as it is written, and what it does. -/
def Flag.entry : Flag → String × String
  | .verbose => ("-v, --verbose", "Enable verbose logging")
  | .help => ("-h, --help", "Print help")
  | .version => ("-V, --version", "Print version")
  | .script => ("-c, --command <COMMAND>",
      "Shell command that answers prompts: prompt on stdin, response on stdout. " ++
        "Without it every prompt answers `[outcome:success]`")
  | .checkpointDir => ("    --checkpoint-dir <CHECKPOINT_DIR>", "Directory for checkpoint.json")
  | .verbosity => ("    --verbosity <VERBOSITY>",
      "Progress detail: minimal, standard, or verbose [default: standard]")
  | .maxIterations => ("    --max-iterations <MAX_ITERATIONS>",
      "Maximum loop iterations before the run is treated as a cycle [default: 1000]")

/-- How many characters a line of help should have. -/
def lineWidth : Nat := 100

/-- Whether explanations do not fit behind names of a width: the names take more than two fifths of
the line, and some explanation is longer than the rest of it. -/
def crowded (width : Nat) (entries : List (String × String)) : Bool :=
  let taken := width + 4
  taken ≤ lineWidth && 2 * lineWidth < 5 * taken &&
    entries.any fun e => lineWidth - taken < e.2.length

/-- Names with their explanations behind them, or each below its name where they do not fit. -/
def columns (entries : List (String × String)) : List String :=
  let width := entries.foldl (fun width e => max width e.1.length) 0
  if crowded width entries then
    entries.flatMap fun (left, right) => ["  " ++ left, "          " ++ right]
  else
    entries.map fun (left, right) =>
      "  " ++ left ++ String.ofList (List.replicate (width - left.length) ' ') ++ "  " ++ right

/-- The commands and what they do. -/
def commandEntries : List (String × String) :=
  (Topic.commands ++ [Topic.help]).map fun t => (t.name, t.about)

/-- How a topic is asked for. -/
def Topic.usage (t : Topic) : String :=
  let options := if Flag.available t = [] then "" else " [OPTIONS]"
  match t.operand? with
  | none => "Usage: trellis" ++ options ++ " <COMMAND>"
  | some (operand, _) => "Usage: trellis " ++ t.name ++ options ++ " " ++ operand

/-- A titled part of a help text, absent when it has no entries. -/
def part (title : String) (entries : List (String × String)) : List String :=
  if entries = [] then [] else ["", title] ++ columns entries

/-- The help about a topic. -/
def Topic.helpText (t : Topic) : String :=
  let middle := match t.operand? with
    | none => part "Commands:" commandEntries
    | some entry => part "Arguments:" [entry]
  let options := part "Options:" ((Flag.available t).map Flag.entry)
  String.intercalate "\n" ([t.about, "", t.usage] ++ middle ++ options) ++ "\n"

end Workflow.CommandLine
