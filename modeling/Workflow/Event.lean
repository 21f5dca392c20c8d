import Workflow.Outcome
import Workflow.Timestamp

/-!
# Events

What a run reports while it goes on.

## Main Definitions

* `Event.Kind` — the nine things that can happen, with what is told about each.
* `Event` — a kind with the run it belongs to and its moment.
* `Event.toJson`, `Event.ofJson?` — events as flat objects and back.

## Design Notes

An event is one flat object: the members of its envelope, the tag of its kind
under `kind`, and the members of that kind.  The tag is made from the title of
the kind; that it is the name by which people know the kind is a theorem.
-/

namespace Workflow

/-- What happened. -/
inductive Event.Kind where
  /-- A run began. -/
  | pipelineStarted (goal : String) (totalNodes : Nat)
  /-- A run reached an exit. -/
  | pipelineCompleted (goal : String) (completedNodes totalNodes durationMs : Nat)
  /-- A run failed. -/
  | pipelineFailed (goal reason : String)
  /-- Work on a node began. -/
  | stageStarted (nodeId nodeLabel : String) (stageNum totalNodes : Nat)
  /-- Work on a node ended. -/
  | stageCompleted (nodeId nodeLabel : String) (stageNum totalNodes : Nat) (status : Status)
      (durationMs : Nat)
  /-- A node is tried again. -/
  | stageRetrying (nodeId nodeLabel : String) (retryCount maxRetries : UInt32)
  /-- A labelled edge was followed. -/
  | edgeSelected (fromNode toNode edgeLabel : String)
  /-- A person is asked to choose. -/
  | humanGate (nodeId nodeLabel : String) (choices : List String)
  /-- A node cannot be worked on. -/
  | error (nodeId message : String)
  deriving DecidableEq, Repr

/-- Something that happened in a run. -/
structure Event where
  /-- The run. -/
  pipelineId : String
  /-- When it happened. -/
  timestamp : Timestamp
  /-- What happened. -/
  kind : Event.Kind
  deriving DecidableEq, Repr

namespace Event

namespace Kind

/-- The name of a kind. -/
def name : Kind → String
  | .pipelineStarted .. => "pipeline_started"
  | .pipelineCompleted .. => "pipeline_completed"
  | .pipelineFailed .. => "pipeline_failed"
  | .stageStarted .. => "stage_started"
  | .stageCompleted .. => "stage_completed"
  | .stageRetrying .. => "stage_retrying"
  | .edgeSelected .. => "edge_selected"
  | .humanGate .. => "human_gate"
  | .error .. => "error"

/-- The title of a kind: its words run together, each with a capital. -/
def title : Kind → String
  | .pipelineStarted .. => "PipelineStarted"
  | .pipelineCompleted .. => "PipelineCompleted"
  | .pipelineFailed .. => "PipelineFailed"
  | .stageStarted .. => "StageStarted"
  | .stageCompleted .. => "StageCompleted"
  | .stageRetrying .. => "StageRetrying"
  | .edgeSelected .. => "EdgeSelected"
  | .humanGate .. => "HumanGate"
  | .error .. => "Error"

/-- The words of a title in small letters, with underscores between them. -/
def underscored (title : String) : String :=
  match title.toList with
  | [] => ""
  | first :: others =>
    String.ofList (first.toLower ::
      others.flatMap fun c => if c.isUpper then ['_', c.toLower] else [c.toLower])

/-- The tag of a kind, by which its JSON form says what happened. -/
def tag (k : Kind) : String := underscored k.title

/-- The tags of all kinds. -/
def names : List String :=
  ["pipeline_started", "pipeline_completed", "pipeline_failed", "stage_started",
    "stage_completed", "stage_retrying", "edge_selected", "human_gate", "error"]

/-- The members of a kind, its tag first. -/
def members (k : Kind) : List (String × Json) :=
  ("kind", .string k.tag) ::
    match k with
    | .pipelineStarted goal total =>
      [("goal", .string goal), ("total_nodes", .ofNat total)]
    | .pipelineCompleted goal completed total duration =>
      [("goal", .string goal), ("completed_nodes", .ofNat completed),
        ("total_nodes", .ofNat total), ("duration_ms", .ofNat duration)]
    | .pipelineFailed goal reason =>
      [("goal", .string goal), ("reason", .string reason)]
    | .stageStarted id label num total =>
      [("node_id", .string id), ("node_label", .string label), ("stage_num", .ofNat num),
        ("total_nodes", .ofNat total)]
    | .stageCompleted id label num total status duration =>
      [("node_id", .string id), ("node_label", .string label), ("stage_num", .ofNat num),
        ("total_nodes", .ofNat total), ("status", status.toJson), ("duration_ms", .ofNat duration)]
    | .stageRetrying id label count most =>
      [("node_id", .string id), ("node_label", .string label),
        ("retry_count", .ofNat count.toNat), ("max_retries", .ofNat most.toNat)]
    | .edgeSelected source target label =>
      [("from_node", .string source), ("to_node", .string target), ("edge_label", .string label)]
    | .humanGate id label choices =>
      [("node_id", .string id), ("node_label", .string label), ("choices", Json.ofTexts choices)]
    | .error id text =>
      [("node_id", .string id), ("message", .string text)]

/-- The name that a value under `kind` gives: a text, or a place in the list of names. -/
def nameOf? : Json → Option String
  | .string s => some s
  | .number (.integer n) => if 0 ≤ n then names[n.toNat]? else none
  | _ => none

/-- Whether a value stands for nothing: `null` or an empty object. -/
def isVoid : Json → Bool
  | .null => true
  | .object [] => true
  | _ => false

/-- The status of a member. -/
def status? (j : Json) : Option Status := (Status.nameOf? isVoid j).bind Status.ofName?

/-- The kind that some members describe. -/
def ofMembers? (members : List (String × Json)) : Option Kind := do
  let text (name : String) : Option String :=
    (Json.member? name members).bind (Json.required? Json.text?)
  let count (name : String) : Option Nat :=
    (Json.member? name members).bind (Json.required? Json.count?)
  let uint32 (name : String) : Option UInt32 :=
    (Json.member? name members).bind (Json.required? Json.uint32?)
  match ← (Json.member? "kind" members).bind (Json.required? nameOf?) with
  | "pipeline_started" => return .pipelineStarted (← text "goal") (← count "total_nodes")
  | "pipeline_completed" =>
    return .pipelineCompleted (← text "goal") (← count "completed_nodes") (← count "total_nodes")
      (← count "duration_ms")
  | "pipeline_failed" => return .pipelineFailed (← text "goal") (← text "reason")
  | "stage_started" =>
    return .stageStarted (← text "node_id") (← text "node_label") (← count "stage_num")
      (← count "total_nodes")
  | "stage_completed" =>
    return .stageCompleted (← text "node_id") (← text "node_label") (← count "stage_num")
      (← count "total_nodes")
      (← (Json.member? "status" members).bind (Json.required? status?))
      (← count "duration_ms")
  | "stage_retrying" =>
    return .stageRetrying (← text "node_id") (← text "node_label") (← uint32 "retry_count")
      (← uint32 "max_retries")
  | "edge_selected" =>
    return .edgeSelected (← text "from_node") (← text "to_node") (← text "edge_label")
  | "human_gate" =>
    return .humanGate (← text "node_id") (← text "node_label")
      (← (Json.member? "choices" members).bind (Json.required? (Json.list? Json.text?)))
  | "error" => return .error (← text "node_id") (← text "message")
  | _ => none

end Kind

/-- The members of an event: those of its envelope, and those of its kind. -/
def members (e : Event) : List (String × Json) :=
  ("pipeline_id", .string e.pipelineId) :: ("timestamp", .string e.timestamp.render) ::
    e.kind.members

/-- An event as a flat object. -/
def toJson (e : Event) : Json := .object e.members

mutual

/-- Whether a value and everything in it can be read, with at most `room` nested objects and
sequences. -/
def isReadable (room : Nat) : Json → Bool
  | .unreadable => false
  | .array items =>
    match room with
    | 0 => false
    | room + 1 => areReadable room items
  | .object members =>
    match room with
    | 0 => false
    | room + 1 => membersReadable room members
  | _ => true

/-- Whether every item can be read. -/
def areReadable (room : Nat) : List Json → Bool
  | [] => true
  | j :: more => isReadable room j && areReadable room more

/-- Whether every member can be read. -/
def membersReadable (room : Nat) : List (String × Json) → Bool
  | [] => true
  | (_, j) :: more => isReadable room j && membersReadable room more

end

/-- The event of a JSON value.  Members that the kind does not have are ignored, but must be
readable. -/
def ofJson? : Json → Option Event
  | .object members => do
    if !membersReadable (Datum.nestingLimit - 1) members then none
    let id ← (Json.member? "pipeline_id" members).bind (Json.required? Json.text?)
    let moment ← (Json.member? "timestamp" members).bind (Json.required? Json.text?)
    return ⟨id, ← Timestamp.parse? moment, ← Kind.ofMembers? members⟩
  | _ => none

/-- The event of a JSON text. -/
def parse? (text : String) : Option Event := (Json.parse? text).bind ofJson?

end Event

end Workflow
