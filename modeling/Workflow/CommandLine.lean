import Workflow.CommandLine.Help
import Workflow.Session
import Workflow.Text.Quoted

/-!
# The command line

Answers to requests, as a function of the files at hand: what is printed, what
is complained about, the exit code, and the files afterwards.

## Main Definitions

* `Setting` — the files, and what a run needs from outside.
* `run` — a run of a workflow, with the files that it leaves.
* `Response` — an answer.
* `respond` — the answer to some arguments.
-/

namespace Workflow.CommandLine

/-- What an answer depends on beside the arguments. -/
structure Setting (σ : Type) where
  /-- The files. -/
  files : FileTree
  /-- The name of a run. -/
  id : String
  /-- The moment of checkpoints. -/
  moment : Timestamp
  /-- Who carries out commands. -/
  interpreter : Interpreter σ
  /-- What the interpreter remembers at first. -/
  memory : σ

/-- An answer. -/
structure Response where
  /-- The exit code. -/
  code : Nat
  /-- What is printed. -/
  output : String
  /-- What is complained about. -/
  complaints : String
  /-- The files afterwards. -/
  files : FileTree

variable {σ : Type}

namespace Response

/-- An answer without complaints. -/
def print (e : Setting σ) (output : String) : Response := ⟨0, output, "", e.files⟩

/-- An answer that is only a complaint. -/
def fail (e : Setting σ) (message : String) : Response :=
  ⟨1, "", "Error: " ++ message ++ "\n", e.files⟩

end Response

/-- Lines of text. -/
def lines (texts : List String) : String := String.join (texts.map (· ++ "\n"))

/-- What is complained about a file that cannot be read. -/
def unreadable (path : String) (problem : FileTree.Problem) : String :=
  "reading " ++ path ++ "\n\nCaused by:\n    " ++ problem.message

/-- The text of a file, or what is complained about it. -/
def load (e : Setting σ) (path : String) : Except String String :=
  match (e.files.resolve (FileTree.names path)).bind e.files.read with
  | .ok text => .ok text
  | .error problem => .error (unreadable path problem)

/-- The graph of a file, or what is complained about it. -/
def loadGraph (e : Setting σ) (path : String) : Except String Graph :=
  (load e path).bind fun source => (Source.parse source).mapError Error.message

/-! ### Validation -/

/-- The name of a severity in listings. -/
def severityMark : Severity → String
  | .error => "ERROR"
  | .warning => "WARN"

/-- The lines about a finding. -/
def findingLines (f : Finding) : List String :=
  ("[" ++ severityMark f.severity ++ "] " ++ f.rule ++ ": " ++ f.message) ::
    (f.fix?.map ("        fix: " ++ ·)).toList

/-- Say what is wrong with a graph. -/
def validate (e : Setting σ) (g : Graph) : Response :=
  match g.findings with
  | [] => .print e "Pipeline is valid\n"
  | findings =>
    { Response.print e (lines (findings.flatMap findingLines)) with
      code := if g.isValid then 0 else 1 }

/-! ### Descriptions -/

/-- The line about a node. -/
def nodeLine (n : Node) : String :=
  "  " ++ n.id ++ " [" ++ n.label ++ "] shape=" ++ n.shape ++ " type=" ++ n.work

/-- What is told about an edge beside its ends. -/
def edgeNotes (edge : Edge) : List String :=
  (if edge.label = "" then [] else ["label=" ++ Text.quote edge.label]) ++
  (if edge.condition = "" then [] else ["condition=" ++ Text.quote edge.condition]) ++
  (if edge.weight = 0 then [] else ["weight=" ++ Decimal.showInt edge.weight.toInt])

/-- The line about an edge. -/
def edgeLine (edge : Edge) : String :=
  "  " ++ edge.source ++ " -> " ++ edge.target ++ " " ++ String.intercalate " " (edgeNotes edge)

/-- Describe a graph. -/
def info (e : Setting σ) (g : Graph) : Response :=
  .print e <| lines <|
    ["Pipeline: " ++ g.name] ++
    (if g.goal = "" then [] else ["Goal: " ++ g.goal]) ++
    ["Nodes: " ++ Decimal.showNat g.nodes.size, "Edges: " ++ Decimal.showNat g.edges.length,
      "\nNodes:"] ++
    g.nodeList.map nodeLine ++ ["\nEdges:"] ++ g.edges.map edgeLine

/-- The line about the outcome of a node. -/
def outcomeLine (retries : Table UInt32) (id : String) (status : Status) : String :=
  "  " ++ id ++ ": " ++ status.name ++ " (retries: " ++
    Decimal.showNat ((retries.get? id).getD 0).toNat ++ ")"

/-- Describe a checkpoint. -/
def describe (e : Setting σ) (c : Checkpoint) : Response :=
  .print e <| lines <|
    ["Pipeline: " ++ c.pipelineId,
      "Saved: " ++ c.timestamp.renderOffset,
      "Current node: " ++ c.progress.currentNode,
      "Completed: " ++ String.intercalate " -> " c.progress.completed] ++
    (c.progress.outcomes.entries.map fun (id, status) =>
      outcomeLine c.progress.retries id status) ++
    ["Context keys: " ++ Decimal.showNat c.progress.context.values.size]

/-- Describe the checkpoint in a directory. -/
def checkpoint (e : Setting σ) (directory : String) : Response :=
  match Checkpoint.load? e.files (FileTree.names directory) with
  | none => .fail e ("No readable checkpoint in " ++ directory)
  | some c => describe e c

/-! ### Runs -/

/-- The checkpoint of a standing. -/
def Setting.stamp (e : Setting σ) (progress : Progress) : Checkpoint := ⟨e.id, e.moment, progress⟩

/-- The files after standings were kept in a directory, one after the other.  One that cannot be
kept is passed over. -/
def keep (e : Setting σ) (directory : List String) (standings : List Progress) : FileTree :=
  standings.foldl (fun t progress => (Checkpoint.save t directory (e.stamp progress)).1) e.files

/-- What the session of a run is given. -/
def Setting.setup (e : Setting σ) (options : RunOptions) : Session.Setup σ :=
  let responder := match options.script with
    | some command => .ofCommand e.interpreter command
    | none => .dry
  ⟨e.id, responder, options.limit, .standard, options.verbosity⟩

/-- What a run ends with, and what is said about it. -/
def report (e : Setting σ) (options : RunOptions) (source : String) : Session.Report σ :=
  Session.conduct (e.setup options) source e.memory

/-- Run a workflow. -/
def run (e : Setting σ) (options : RunOptions) (source : String) : Response :=
  let notice := match options.script with
    | some _ => []
    | none => ["(dry run: every prompt answers [outcome:success])"]
  let report := report e options source
  let state := report.result.state
  let output := lines <| notice ++ report.messages ++
    ["\nCompleted nodes: " ++ Text.quoteList state.completed]
  let files := match options.checkpointDir with
    | some directory => keep e (FileTree.names directory) state.snapshots
    | none => e.files
  match report.result.ending.failure? with
  | none => ⟨0, output, "", files⟩
  | some reason => ⟨1, output, "Pipeline failed: " ++ reason ++ "\n", files⟩

/-! ### Answers -/

/-- The answer to something that depends on a file, or the complaint about the file. -/
def withFile {α : Type} (e : Setting σ) (found : Except String α) (answer : α → Response) :
    Response :=
  match found with
  | .ok a => answer a
  | .error message => .fail e message

/-- The answer to a request. -/
def answer (e : Setting σ) : Request → Response
  | .run path options => withFile e (load e path) (run e options)
  | .validate path => withFile e (loadGraph e path) (validate e)
  | .info path => withFile e (loadGraph e path) (info e)
  | .checkpoint directory => checkpoint e directory

/-- The answer to those who made no request. -/
def answerHalt (e : Setting σ) : Halt → Response
  | .usage => ⟨2, "", "For more information, try '--help'.\n", e.files⟩
  | .help topic => .print e topic.helpText
  | .version => .print e versionText

/-- The answer to some arguments. -/
def respond (e : Setting σ) (args : List String) : Response :=
  match Request.ofArguments args with
  | .ok request => answer e request
  | .error halt => answerHalt e halt

end Workflow.CommandLine
