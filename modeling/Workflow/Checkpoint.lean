import Workflow.FileTree
import Workflow.Outcome
import Workflow.Timestamp

/-!
# Checkpoints

How far a run has come, kept in a file so that others can look at it.

## Main Definitions

* `Progress` — the standing of a run after a stage.
* `Checkpoint` — a standing with the run it belongs to and its moment.
* `Checkpoint.save`, `Checkpoint.load?` — checkpoints in a directory.

## Design Notes

A checkpoint is written beside its place and then moved there, so that a reader
finds the old one or the new one and nothing in between.
-/

namespace Workflow

/-- The standing of a run after a stage. -/
structure Progress where
  /-- The node that was worked on. -/
  currentNode : String
  /-- The nodes passed so far, oldest first. -/
  completed : List String
  /-- How often each node was tried again. -/
  retries : Table UInt32
  /-- The last status of each node. -/
  outcomes : Table Status
  /-- The context. -/
  context : Context
  deriving BEq

/-- A standing that was kept. -/
structure Checkpoint where
  /-- The run. -/
  pipelineId : String
  /-- When it was kept. -/
  timestamp : Timestamp
  /-- How far the run had come. -/
  progress : Progress
  deriving BEq

namespace Checkpoint

/-! ### JSON -/

/-- A checkpoint as a flat object. -/
def toJson (c : Checkpoint) : Json :=
  .object [
    ("pipeline_id", .string c.pipelineId),
    ("timestamp", .string c.timestamp.render),
    ("current_node", .string c.progress.currentNode),
    ("completed_nodes", Json.ofTexts c.progress.completed),
    ("node_retries", Json.ofTable (fun n => .ofNat n.toNat) c.progress.retries),
    ("node_outcomes", Json.ofTable Status.toJson c.progress.outcomes),
    ("context_values", Context.valuesToJson c.progress.context.values),
    ("logs", Json.ofTexts c.progress.context.logs)]

/-- The checkpoint of a record. -/
def ofJson? (j : Json) : Option Checkpoint := do
  match ← j.record? ["pipeline_id", "timestamp", "current_node", "completed_nodes",
      "node_retries", "node_outcomes", "context_values", "logs"] with
  | [id, moment, node, completed, retries, outcomes, values, logs] =>
    let id ← Json.required? Json.text? id
    let moment ← Json.required? (fun j => j.text?.bind Timestamp.parse?) moment
    return ⟨id, moment, {
      currentNode := ← Json.required? Json.text? node
      completed := ← Json.required? (Json.list? Json.text?) completed
      retries := ← Json.required? (Json.table? Json.uint32?) retries
      outcomes := ← Json.required? (Json.table? Status.ofJson?) outcomes
      context := ⟨← Json.required? (Context.valuesOfJson? 1) values,
        ← Json.required? (Json.list? Json.text?) logs⟩ }⟩
  | _ => none

/-- A checkpoint as a text with a line for each member. -/
def render (c : Checkpoint) : String := c.toJson.pretty

/-- The checkpoint of a text. -/
def parse? (text : String) : Option Checkpoint := (Json.parse? text).bind ofJson?

/-! ### Files -/

/-- The file that holds a checkpoint. -/
def fileName : String := "checkpoint.json"

/-- The file that a checkpoint is written to before it takes its place. -/
def draftName : String := "checkpoint.json.tmp"

/-- Do one step after another on a tree, and keep what the steps before a problem have done. -/
def inTurn (t : FileTree) :
    List (FileTree → Except FileTree.Problem FileTree) → FileTree × Option FileTree.Problem
  | [] => (t, none)
  | step :: more =>
    match step t with
    | .ok t => inTurn t more
    | .error problem => (t, some problem)

/-- Keep a checkpoint in a directory, which is made when it is missing. -/
def save (t : FileTree) (directory : List String) (c : Checkpoint) :
    FileTree × Option FileTree.Problem :=
  match t.makeDirs directory with
  | .error problem => (t, some problem)
  | .ok (t, path) =>
    inTurn t [
      (·.write (path ++ [draftName]) c.render.toUTF8),
      (·.rename (path ++ [draftName]) (path ++ [fileName]))]

/-- The checkpoint in a directory, when there is one that can be read. -/
def load? (t : FileTree) (directory : List String) : Option Checkpoint :=
  match (t.resolve directory).bind fun path => t.read (path ++ [fileName]) with
  | .ok text => parse? text
  | .error _ => none

end Checkpoint

end Workflow
