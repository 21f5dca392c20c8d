import Workflow.Checkpoint
import Workflow.Proofs.Datum
import Workflow.Proofs.Timestamp.Text

/-!
# Checkpoints are exchanged without loss

A checkpoint is described by an object with eight members, or by eight values in a row.  What
describes a checkpoint is read as it, nothing else is read, and what is written describes the
checkpoint that was to be written.

## Main Definitions

* `Checkpoint.Described` — the values that describe a checkpoint.
* `Checkpoint.Spelled` — the texts of those values.
* `Checkpoint.Exact` — checkpoints of the calendar, without doubles, that are not too deep.

## Main Statements

* `Checkpoint.parse?_eq_some_iff` — exactly the texts that spell a checkpoint are read.
* `Checkpoint.spelled_of_reordered` — the text of an exact checkpoint spells it, in whatever
  order its members are written.
-/

namespace Workflow

open Json

/-! ### Statuses -/

namespace Status

/-- A value stands for a status: its name, alone or as the only member of an object. -/
def Named (j : Json) (s : Status) : Prop := j = .string s.name ∨ j = .object [(s.name, .null)]

theorem ofName?_eq_some_iff {name : String} {s : Status} :
    ofName? name = some s ↔ name = s.name := by
  constructor
  · intro found
    rw [ofName?] at found
    have same := List.find?_some found
    exact (eq_of_beq same).symm
  · rintro rfl
    cases s
    all_goals rfl

theorem isNull_iff {j : Json} : isNull j = true ↔ j = .null := by
  cases j
  all_goals simp [isNull]

/-- What an object holds as a name. -/
theorem nameOf?_single (name : String) (j : Json) :
    nameOf? isNull (.object [(name, j)]) = if isNull j then some name else none := rfl

theorem nameOf?_of_length_ne {ms : List (String × Json)} (several : ms.length ≠ 1) :
    nameOf? isNull (.object ms) = none := by
  match ms with
  | [] => rfl
  | [_] => exact absurd rfl several
  | _ :: _ :: _ => rfl

theorem nameOf?_eq_some_iff {j : Json} {name : String} :
    nameOf? isNull j = some name ↔ j = .string name ∨ j = .object [(name, .null)] := by
  constructor
  · intro read
    cases j with
    | string s => exact .inl (congrArg _ (Option.some.inj read))
    | object ms =>
        by_cases one : ms.length = 1
        · obtain ⟨⟨key, j⟩, rfl⟩ := List.length_eq_one_iff.mp one
          rw [nameOf?_single] at read
          split at read
          · next null =>
              obtain rfl := Option.some.inj read
              exact .inr (by rw [isNull_iff.mp null])
          · cases read
        · rw [nameOf?_of_length_ne one] at read
          cases read
    | _ => cases read
  · rintro (rfl | rfl)
    · rfl
    · rfl

theorem ofJson?_eq_some_iff (j : Json) (s : Status) : ofJson? j = some s ↔ Named j s := by
  simp only [ofJson?, Option.bind_eq_some_iff, nameOf?_eq_some_iff, ofName?_eq_some_iff,
    exists_eq_right, Named]

theorem ofJson?_toJson (s : Status) : ofJson? s.toJson = some s :=
  (ofJson?_eq_some_iff _ _).mpr (.inl rfl)

theorem ofJson?_orderless : Orderless ofJson? := by
  have null (name : String) : Orderless fun j => if isNull j then some name else none :=
    .of_scalar (fun _ => rfl) fun _ => rfl
  have named : Orderless (nameOf? isNull) :=
    .of_single null (fun _ => rfl) nameOf?_single fun _ => nameOf?_of_length_ne
  exact named.bind ofName?

end Status

namespace Checkpoint

/-- How deep data may nest in a checkpoint: the checkpoint itself and its table of data are objects,
too. -/
abbrev room : Nat := Datum.nestingLimit - 2

/-- The names of the parts of a checkpoint. -/
def names : List String := ["pipeline_id", "timestamp", "current_node", "completed_nodes",
  "node_retries", "node_outcomes", "context_values", "logs"]

/-- A value describes a checkpoint. -/
inductive Described (c : Checkpoint) : Json → Prop
  | mk {j retries outcomes values : Json} {moment : String}
      (parts : Parts names [.string c.pipelineId, .string moment, .string c.progress.currentNode,
        ofTexts c.progress.completed, retries, outcomes, values,
        ofTexts c.progress.context.logs] j)
      (timestamp : Timestamp.parse? moment = some c.timestamp)
      (counted : Tabled (fun j n => j = .ofNat n.toNat) retries c.progress.retries)
      (ended : Tabled Status.Named outcomes c.progress.outcomes)
      (kept : Tabled (Datum.Denoted room) values c.progress.context.values) : Described c j

/-- A text spells a checkpoint. -/
def Spelled (c : Checkpoint) (text : String) : Prop := ∃ j, Holds text j ∧ Described c j

theorem counts?_eq_some_iff {j : Json} {t : Table UInt32} :
    table? uint32? j = some t ↔ Tabled (fun j n => j = .ofNat n.toNat) j t :=
  table?_eq_some_iff fun _ _ => uint32?_eq_some_iff

theorem statuses?_eq_some_iff {j : Json} {t : Table Status} :
    table? Status.ofJson? j = some t ↔ Tabled Status.Named j t :=
  table?_eq_some_iff Status.ofJson?_eq_some_iff

theorem values?_eq_some_iff {j : Json} {t : Table Datum} :
    Context.valuesOfJson? 1 j = some t ↔ Tabled (Datum.Denoted room) j t :=
  table?_eq_some_iff (Datum.ofJson?_eq_some_iff room)

/-- **What describes a checkpoint is read as it**, and nothing else is read. -/
theorem ofJson?_eq_some_iff {j : Json} {c : Checkpoint} : ofJson? j = some c ↔ Described c j := by
  constructor
  · intro read
    rw [ofJson?, Option.bind_eq_bind, Option.bind_eq_some_iff] at read
    obtain ⟨parts, found, read⟩ := read
    split at read
    · simp only [Option.bind_eq_bind, Option.bind_eq_some_iff, required?_eq_some_iff,
        text?_eq_some_iff, list?_text?_eq_some_iff, counts?_eq_some_iff,
        statuses?_eq_some_iff, values?_eq_some_iff, Option.pure_def, Option.some.injEq] at read
      obtain ⟨_, ⟨_, rfl, rfl⟩, _, ⟨_, rfl, _, rfl, timestamp⟩, _, ⟨_, rfl, rfl⟩, _,
        ⟨_, rfl, rfl⟩, _, ⟨_, rfl, counted⟩, _, ⟨_, rfl, ended⟩, _, ⟨_, rfl, kept⟩, _,
        ⟨_, rfl, rfl⟩, rfl⟩ := read
      exact .mk (record?_eq_some_iff.mp found) timestamp counted ended kept
    · cases read
  · rintro ⟨parts, timestamp, counted, ended, kept⟩
    have found := record?_eq_some_iff.mpr parts
    rw [ofJson?, Option.bind_eq_bind, ← names, found]
    simp only [List.map_cons, List.map_nil, Option.bind_eq_bind, Option.bind_some, required?, text?,
      timestamp, list?_text?_eq_some_iff.mpr rfl, counts?_eq_some_iff.mpr counted,
      statuses?_eq_some_iff.mpr ended, values?_eq_some_iff.mpr kept, Option.pure_def]

/-- **Exactly the texts that spell a checkpoint are read.** -/
theorem parse?_eq_some_iff {text : String} {c : Checkpoint} :
    parse? text = some c ↔ Spelled c text := by
  simp only [parse?, Option.bind_eq_some_iff, Json.parse?_eq_some_iff, ofJson?_eq_some_iff, Spelled]

/-- The order of members makes no difference to a checkpoint. -/
theorem ofJson?_orderless : Orderless ofJson? :=
  Orderless.record? names fun xs ys same => by
    rcases same with _ | ⟨id, _ | ⟨moment, _ | ⟨node, _ | ⟨completed, _ | ⟨retries, _ |
      ⟨outcomes, _ | ⟨values, _ | ⟨logs, _ | ⟨_, _⟩⟩⟩⟩⟩⟩⟩⟩⟩
    case cons.cons.cons.cons.cons.cons.cons.cons.nil =>
      have timestamp := (Orderless.text?.bind Timestamp.parse?).required? moment
      have data : required? (Context.valuesOfJson? 1) _ = required? (Context.valuesOfJson? 1) _ :=
        (Datum.ofJson?_orderless room).table?.required? values
      simp only [Orderless.text?.required? id, timestamp, Orderless.text?.required? node,
        Orderless.text?.list?.required? completed, Orderless.uint32?.table?.required? retries,
        Status.ofJson?_orderless.table?.required? outcomes, data,
        Orderless.text?.list?.required? logs]
    all_goals rfl

/-! ### What is written -/

/-- A checkpoint of the calendar without doubles. -/
structure Integral (c : Checkpoint) : Prop where
  timestamp : c.timestamp.Proper
  values : ∀ e ∈ c.progress.context.values.entries, ∃ depth, Datum.Exact depth e.2

/-- A checkpoint of the calendar without doubles in which data nest no deeper than JSON is read. -/
structure Exact (c : Checkpoint) : Prop where
  timestamp : c.timestamp.Proper
  values : ∀ e ∈ c.progress.context.values.entries, Datum.Exact room e.2

variable {c : Checkpoint}

theorem Exact.integral (exact : c.Exact) : c.Integral :=
  ⟨exact.timestamp, fun e mem => ⟨room, exact.values e mem⟩⟩

theorem Integral.plain (integral : c.Integral) : Plain c.toJson := by
  have texts (xs : List String) : Plain (ofTexts xs) := .arrayMap fun s _ => .string s
  refine .object ?_
  simp only [List.forall_mem_cons]
  exact ⟨.string _, .string _, .string _, texts _,
    .ofTable fun e _ => .integer (fits_toNat e.2), .ofTable fun e _ => .string _,
    .ofTable fun e mem => (integral.values e mem).elim fun _ => Datum.Exact.plain, texts _,
    List.forall_mem_nil _⟩

/-- The parts of a checkpoint as it is written. -/
theorem record?_toJson (c : Checkpoint) : c.toJson.record? names =
    some ([.string c.pipelineId, .string c.timestamp.render, .string c.progress.currentNode,
      ofTexts c.progress.completed, ofTable (fun n => .ofNat n.toNat) c.progress.retries,
      ofTable Status.toJson c.progress.outcomes, Context.valuesToJson c.progress.context.values,
      ofTexts c.progress.context.logs].map some) := rfl

/-- **What is written describes the checkpoint.** -/
theorem described_toJson (exact : c.Exact) : Described c c.toJson := by
  refine .mk (record?_eq_some_iff.mp (record?_toJson c))
    (Timestamp.parse?_render exact.timestamp) ?_ ?_ ?_
  · exact counts?_eq_some_iff.mp (table?_ofTable fun e _ => uint32?_eq_some_iff.mpr rfl)
  · exact statuses?_eq_some_iff.mp (table?_ofTable fun e _ => Status.ofJson?_toJson e.2)
  · exact values?_eq_some_iff.mp
      (table?_ofTable fun e mem => Datum.ofJson?_toJson (exact.values e mem))

/-- **Nothing deeper is read.** -/
theorem Integral.exact_of_read (integral : c.Integral) {c' : Checkpoint}
    (read : parse? c.render = some c') : c.Exact := by
  rw [parse?, render, integral.plain.parse?_pretty, Option.bind_some, ofJson?, Option.bind_eq_bind,
    ← names, record?_toJson] at read
  simp only [List.map_cons, List.map_nil, Option.bind_eq_bind, Option.bind_some, required?,
    Option.bind_eq_some_iff] at read
  obtain ⟨_, -, _, -, _, -, _, -, _, -, _, -, _, values, -⟩ := read
  refine ⟨integral.timestamp, fun e mem => ?_⟩
  obtain ⟨depth, exact⟩ := integral.values e mem
  exact exact.of_isSome (isSome_of_table? values (List.mem_map.mpr ⟨e, mem, rfl⟩))

/-- **The text of an exact checkpoint spells it**, in whatever order its members are written. -/
theorem spelled_of_reordered (exact : c.Exact) {j : Json} (same : Reordered c.toJson j) :
    Spelled c j.pretty := by
  have decoded : ofJson? j = some c :=
    (ofJson?_orderless _ _ same).symm.trans (ofJson?_eq_some_iff.mpr (described_toJson exact))
  have read := (exact.integral.plain.reordered same).parse?_pretty
  rw [← parse?_eq_some_iff, parse?, read, Option.bind_some, decoded]

end Checkpoint

end Workflow
