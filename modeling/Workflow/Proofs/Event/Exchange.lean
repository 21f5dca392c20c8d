import Workflow.Event
import Workflow.Proofs.Checkpoint.Exchange
import Workflow.Proofs.Json.Flat

/-!
# Events are exchanged without loss

The envelope of an event and its kind share one object.  No kind has a member of a name that the
envelope uses, so nothing is overwritten; the tag, which is made from the title of the kind, is
the name by which the kind is known; and the members that a tag asks for are those that the
kind has written.  So an event is read back whatever its texts are made of, as long as its moment
and its counts have a text; and an event where they have none is never read.

## Main Definitions

* `Event.Kind.counts` — what is counted in an event.
* `Event.Exact` — events with moments and counts that have a text.

## Main Statements

* `Event.Kind.tag_eq_name` — tags are names.
* `Event.Kind.ofMembers?_of_found` — a kind is read from its members, whatever stands beside them.
* `Event.exact_of_ofJson?` — only events with a text are read.
* `Event.toJson_exchanged` — events are flat objects and are read back.
-/

namespace Workflow.Event

open Json

/-! ### Kinds -/

namespace Kind

/-- **Tags are names.** -/
theorem tag_eq_name (k : Kind) : k.tag = k.name := by
  cases k
  all_goals
    simp only [tag, title, name]
    decide +kernel

/-- What is counted in an event, apart from retries, which are words. -/
def counts : Kind → List Nat
  | .pipelineStarted _ total => [total]
  | .pipelineCompleted _ completed total duration => [completed, total, duration]
  | .stageStarted _ _ num total => [num, total]
  | .stageCompleted _ _ num total _ duration => [num, total, duration]
  | _ => []

variable {ms : List (String × Json)} {key : String}

theorem tag_of_found {tag : String} (found : member? key ms = some (some (.string tag))) :
    (member? key ms).bind (required? nameOf?) = some tag :=
  required?_of_found found rfl

theorem status_of_found {s : Status} (found : member? key ms = some (some s.toJson)) :
    (member? key ms).bind (required? status?) = some s :=
  required?_of_found found (Status.ofName?_eq_some_iff.mpr rfl)

/-- **A kind is read from its members**, whatever stands beside them. -/
theorem ofMembers?_of_found {k : Kind} (found : ∀ m ∈ k.members, member? m.1 ms = some (some m.2))
    (small : ∀ n ∈ k.counts, n < UInt64.size) : ofMembers? ms = some k := by
  cases k
  all_goals simp only [members, tag_eq_name, name, counts, List.forall_mem_cons] at found small
  case pipelineStarted goal total =>
    obtain ⟨tag, goal, total, -⟩ := found
    simp only [ofMembers?, tag_of_found tag, text_of_found goal, count_of_found total small.1,
      Option.bind_eq_bind, Option.bind_some, Option.pure_def]
  case pipelineCompleted goal completed total duration =>
    obtain ⟨tag, goal, completed, total, duration, -⟩ := found
    simp only [ofMembers?, tag_of_found tag, text_of_found goal,
      count_of_found completed small.1, count_of_found total small.2.1,
      count_of_found duration small.2.2.1, Option.bind_eq_bind, Option.bind_some, Option.pure_def]
  case pipelineFailed goal reason =>
    obtain ⟨tag, goal, reason, -⟩ := found
    simp only [ofMembers?, tag_of_found tag, text_of_found goal, text_of_found reason,
      Option.bind_eq_bind, Option.bind_some, Option.pure_def]
  case stageStarted id label num total =>
    obtain ⟨tag, id, label, num, total, -⟩ := found
    simp only [ofMembers?, tag_of_found tag, text_of_found id, text_of_found label,
      count_of_found num small.1, count_of_found total small.2.1, Option.bind_eq_bind,
      Option.bind_some, Option.pure_def]
  case stageCompleted id label num total status duration =>
    obtain ⟨tag, id, label, num, total, status, duration, -⟩ := found
    simp only [ofMembers?, tag_of_found tag, text_of_found id, text_of_found label,
      count_of_found num small.1, count_of_found total small.2.1, status_of_found status,
      count_of_found duration small.2.2.1, Option.bind_eq_bind, Option.bind_some, Option.pure_def]
  case stageRetrying id label count most =>
    obtain ⟨tag, id, label, count, most, -⟩ := found
    simp only [ofMembers?, tag_of_found tag, text_of_found id, text_of_found label,
      uint32_of_found count, uint32_of_found most, Option.bind_eq_bind, Option.bind_some,
      Option.pure_def]
  case edgeSelected source target label =>
    obtain ⟨tag, source, target, label, -⟩ := found
    simp only [ofMembers?, tag_of_found tag, text_of_found source, text_of_found target,
      text_of_found label, Option.bind_eq_bind, Option.bind_some, Option.pure_def]
  case humanGate id label choices =>
    obtain ⟨tag, id, label, choices, -⟩ := found
    simp only [ofMembers?, tag_of_found tag, text_of_found id, text_of_found label,
      texts_of_found choices, Option.bind_eq_bind, Option.bind_some, Option.pure_def]
  case error id text =>
    obtain ⟨tag, id, text, -⟩ := found
    simp only [ofMembers?, tag_of_found tag, text_of_found id, text_of_found text,
      Option.bind_eq_bind, Option.bind_some, Option.pure_def]

/-- **What is counted in a kind that was read is a word.** -/
theorem counts_lt_of_read {k : Kind} (read : ofMembers? ms = some k) :
    ∀ n ∈ k.counts, n < UInt64.size := by
  rw [ofMembers?, Option.bind_eq_bind, Option.bind_eq_some_iff] at read
  obtain ⟨tag, -, read⟩ := read
  -- a case for each tag, in the order of the list of names, and one for all other texts
  split at read
  case h_10 => cases read
  all_goals
    simp only [Option.bind_eq_bind, Option.bind_eq_some_iff, Option.pure_def,
      Option.some.injEq] at read
  case h_1 =>
    obtain ⟨_, -, _, ⟨_, -, total⟩, rfl⟩ := read
    simp [counts, lt_of_count total]
  case h_2 =>
    obtain ⟨_, -, _, ⟨_, -, completed⟩, _, ⟨_, -, total⟩, _, ⟨_, -, duration⟩, rfl⟩ := read
    simp [counts, lt_of_count completed, lt_of_count total, lt_of_count duration]
  case h_4 =>
    obtain ⟨_, -, _, -, _, ⟨_, -, num⟩, _, ⟨_, -, total⟩, rfl⟩ := read
    simp [counts, lt_of_count num, lt_of_count total]
  case h_5 =>
    obtain ⟨_, -, _, -, _, ⟨_, -, num⟩, _, ⟨_, -, total⟩, _, -, _, ⟨_, -, duration⟩, rfl⟩ := read
    simp [counts, lt_of_count num, lt_of_count total, lt_of_count duration]
  case h_3 | h_9 =>
    obtain ⟨_, -, _, -, rfl⟩ := read
    simp [counts]
  case h_7 | h_8 =>
    obtain ⟨_, -, _, -, _, -, rfl⟩ := read
    simp [counts]
  case h_6 =>
    obtain ⟨_, -, _, -, _, -, _, -, rfl⟩ := read
    simp [counts]

/-- A kind has no member twice, and none of the names that the envelope uses. -/
theorem nodup_names (k : Kind) :
    ("pipeline_id" :: "timestamp" :: k.members.map (·.1)).Nodup := by
  cases k
  all_goals simp [members]

theorem leaf_members (k : Kind) : ∀ m ∈ k.members, Leaf m.2 := by
  cases k
  all_goals simp [members, Leaf.text, Leaf.integer, Leaf.texts, ofNat, ofTexts, Status.toJson]

theorem plain_members {k : Kind} (small : ∀ n ∈ k.counts, n < UInt64.size) :
    ∀ m ∈ k.members, Plain m.2 := by
  have count {n : Nat} (small : n < UInt64.size) : Plain (.ofNat n) := .integer (fits_of_lt small)
  have word (n : UInt32) : Plain (.ofNat n.toNat) := .integer (fits_toNat n)
  have texts (texts : List String) : Plain (ofTexts texts) := .arrayMap fun s _ => .string s
  cases k
  all_goals
    simp only [counts, List.forall_mem_cons] at small
    simp [members, Plain.string, Status.toJson, count, word, texts, small]

end Kind

/-! ### Events -/

variable {e : Event} {ms : List (String × Json)}

/-- **An event is flat**: nothing of its envelope is overwritten by its kind. -/
theorem flat_members (e : Event) : Flat e.members := by
  refine ⟨e.kind.nodup_names, ?_⟩
  simp only [members, List.forall_mem_cons]
  exact ⟨.text _, .text _, e.kind.leaf_members⟩

theorem kind_mem_members (e : Event) : ("kind", .string e.kind.tag) ∈ e.members :=
  List.mem_cons_of_mem _ (List.mem_cons_of_mem _ List.mem_cons_self)

/-- Events with moments and counts that have a text: the text of the moment is read as the moment,
and counts are words. -/
structure Exact (e : Event) : Prop where
  timestamp : Timestamp.parse? e.timestamp.render = some e.timestamp
  counts : ∀ n ∈ e.kind.counts, n < UInt64.size

/-- Every moment of the calendar has a text. -/
theorem exact_of_proper (proper : e.timestamp.Proper)
    (small : ∀ n ∈ e.kind.counts, n < UInt64.size) : e.Exact :=
  ⟨Timestamp.parse?_render proper, small⟩

/-! ### What is read -/

theorem isReadable_of_leaf {j : Json} (leaf : Leaf j) (room : Nat) :
    isReadable (room + 1) j = true := by
  cases leaf with
  | text s => rfl
  | integer n => rfl
  | texts texts =>
      rw [isReadable]
      induction texts with
      | nil => rfl
      | cons s texts ih =>
          rw [List.map_cons, areReadable, ih, Bool.and_true]
          rfl

theorem membersReadable_of_forall {room : Nat} (all : ∀ m ∈ ms, isReadable room m.2 = true) :
    membersReadable room ms = true := by
  induction ms with
  | nil => rfl
  | cons m ms ih =>
      rw [List.forall_mem_cons] at all
      rw [membersReadable, all.1, ih all.2, Bool.and_self]

/-- **An event is read from its members**, whatever stands beside them that can be read. -/
theorem ofJson?_of_found (exact : e.Exact)
    (found : ∀ m ∈ e.members, member? m.1 ms = some (some m.2))
    (readable : ∀ m ∈ ms, isReadable (Datum.nestingLimit - 1) m.2 = true) :
    ofJson? (.object ms) = some e := by
  simp only [members, List.forall_mem_cons] at found
  obtain ⟨id, moment, kind⟩ := found
  simp only [ofJson?, membersReadable_of_forall readable, text_of_found id, text_of_found moment,
    exact.timestamp, Kind.ofMembers?_of_found kind exact.counts, Bool.not_true,
    Bool.false_eq_true, if_false, Option.bind_eq_bind, Option.bind_some, Option.pure_def]

/-- What is written for an event is read as it, in whatever order its members are written. -/
theorem ofJson?_of_reordered (exact : e.Exact) {j : Json} (same : Reordered e.toJson j) :
    ofJson? j = some e := by
  obtain ⟨ms, rfl, perm⟩ := exists_perm_of_reordered e.flat_members.leaves same
  have flat := e.flat_members.perm perm
  refine ofJson?_of_found exact (fun m mem => ?_) fun m mem => ?_
  · exact flat.member?_of_mem (perm.mem_iff.mp mem)
  · exact isReadable_of_leaf (flat.leaves m mem) _

theorem Exact.plain (exact : e.Exact) : Plain e.toJson := by
  refine .object ?_
  simp only [members, List.forall_mem_cons]
  exact ⟨.string _, .string _, Kind.plain_members exact.counts⟩

/-- **Only exact events are read.** -/
theorem exact_of_ofJson? {j : Json} (read : ofJson? j = some e) : e.Exact := by
  unfold ofJson? at read
  split at read
  · split at read
    · cases read
    · simp only [Option.bind_eq_bind, Option.bind_eq_some_iff, Option.pure_def,
        Option.some.injEq] at read
      obtain ⟨id, -, text, -, moment, shown, kind, told, rfl⟩ := read
      exact exact_of_proper (Timestamp.proper_of_parse? shown) (Kind.counts_lt_of_read told)
  · cases read

/-- **Events are exchanged without loss.**  Every event is one flat object: the members of its
envelope and of its kind, none of which replaces another and none of which is an object; and what
stands under `kind` is the name of its kind.  If its moment survives as a text and its counts
are words, it is read back from that object, and from the text of the object written compactly
or with a line for each item, with its members in any order.  Other events are never read. -/
theorem toJson_exchanged (e : Event) :
    (e.toJson = .object e.members ∧ Flat e.members ∧
      member? "kind" e.members = some (some (.string e.kind.name))) ∧
    (e.Exact → ∀ j, Reordered e.toJson j →
      ofJson? j = some e ∧ parse? j.compact = some e ∧ parse? j.pretty = some e) ∧
    ∀ j, ofJson? j = some e → e.Exact := by
  refine ⟨⟨rfl, e.flat_members, ?_⟩, fun exact j same => ?_, fun j => exact_of_ofJson?⟩
  · rw [← Kind.tag_eq_name]
    exact e.flat_members.member?_of_mem e.kind_mem_members
  · have read := ofJson?_of_reordered exact same
    have plain := exact.plain.reordered same
    rw [parse?, parse?, plain.parse?_compact, plain.parse?_pretty]
    exact ⟨read, read, read⟩

/-- An event whose texts have to be escaped, with the largest count there is. -/
def longStage : Event where
  pipelineId := "p-9"
  timestamp := ⟨19849, 25689, 123000000⟩
  kind := .stageCompleted "node_42" "\"kind\"\n" 2 5 .partialSuccess 18446744073709551615

/-- The long stage is read back from its text, which begins with its envelope and its tag, and from
the text with the members the other way round.  With a longer duration it could not be read. -/
theorem longStage_exchanged : longStage.Exact ∧
    longStage.toJson.compact = "\x7b\"pipeline_id\":\"p-9\"," ++
      "\"timestamp\":\"2024-05-06T07:08:09.123Z\"," ++
      "\"kind\":\"stage_completed\",\"node_id\":\"node_42\"," ++
      "\"node_label\":\"\\\"kind\\\"\\n\",\"stage_num\":2,\"total_nodes\":5," ++
      "\"status\":\"partial_success\",\"duration_ms\":18446744073709551615\x7d" ∧
    parse? longStage.toJson.compact = some longStage ∧
    parse? (Json.object longStage.members.reverse).compact = some longStage ∧
    ∀ j, ofJson? j ≠ some { longStage with
      kind := .stageCompleted "node_42" "" 2 5 .partialSuccess 18446744073709551616 } := by
  have exact : longStage.Exact :=
    exact_of_proper ⟨by decide, by decide, by decide, by decide⟩ (by decide +kernel)
  have turned : Reordered longStage.toJson (.object longStage.members.reverse) :=
    .members longStage.flat_members.distinct (List.reverse_perm _).symm
  refine ⟨exact, by decide +kernel, ((toJson_exchanged longStage).2.1 exact _ (.refl _)).2.1,
    ((toJson_exchanged longStage).2.1 exact _ turned).2.1, fun j read => ?_⟩
  have counted := ((toJson_exchanged _).2.2 j read).counts 18446744073709551616 (by decide)
  exact absurd counted (by decide)

end Workflow.Event
