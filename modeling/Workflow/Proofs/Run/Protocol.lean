import Workflow.Proofs.Run.Record

/-!
# The protocol of events

Events are told from many places of a run, on every way through a visit.  Seen from
outside they follow one protocol: a run of a valid graph opens, tells an episode for each
visit that has something to tell, and closes once.

## Main Definitions

* `Run.Onward` — what may follow a stage.
* `Run.Episode` — what is told about one node.
* `Run.closingEvent` — what is told at the end.

## Main Statements

* `Run.events_eq_of_isValid` — the events of a run are an opening, episodes, and a closing.
* `Run.events_follow_protocol` — the protocol, and what the last event says about the run.

## Design Notes

Episodes name the node they are about by what a graph holds, not by a key: the nodes of a
graph that was decoded from data need not be filed under their ids, and the protocol
holds for such graphs too.
-/

namespace Workflow

namespace Event.Kind

/-- Whether an event opens a run. -/
def isOpening : Event.Kind → Bool
  | .pipelineStarted .. => true
  | _ => false

/-- Whether an event closes a run. -/
def isClosing : Event.Kind → Bool
  | .pipelineCompleted .. | .pipelineFailed .. | .error .. => true
  | _ => false

end Event.Kind

namespace Run

variable {σ : Type}

/-! ### Episodes -/

/-- What may follow the work at a node: nothing, a retry of a stage, or a labelled edge that leaves
the node. -/
inductive Onward (g : Graph) (n : Node) : List Event.Kind → Prop
  | silent : Onward g n []
  | retried (stage : n.IsStage) (count most : UInt32) :
      Onward g n [.stageRetrying n.id n.label count most]
  | selected {e : Edge} (edge : e ∈ g.edges) (leaves : e.source = n.id) (labelled : e.label ≠ "") :
      Onward g n [.edgeSelected n.id e.target e.label]

/-- What is told about one node: the events of a stage and what follows it, or the labelled edge
by which a passage is left. -/
inductive Episode (g : Graph) : List Event.Kind → Prop
  | stage {key : String} {n : Node} {onward : List Event.Kind} (found : g.node? key = some n)
      (stage : n.IsStage) (number : Nat) (status : Status) (next : Onward g n onward) :
      Episode g (workEvents g n number status ++ onward)
  | passage {key : String} {n : Node} {e : Edge} (found : g.node? key = some n)
      (passage : n.IsPassage) (edge : e ∈ g.edges) (leaves : e.source = n.id)
      (labelled : e.label ≠ "") :
      Episode g [.edgeSelected n.id e.target e.label]

section Inside

variable {g : Graph} {n : Node} {told : List Event.Kind} {k : Event.Kind}

theorem isInside_of_mem_workEvents {stage : Nat} {status : Status}
    (mem : k ∈ workEvents g n stage status) : k.isOpening = false ∧ k.isClosing = false := by
  rcases List.mem_cons.mp mem with rfl | mem
  · exact ⟨rfl, rfl⟩
  · rcases List.mem_append.mp mem with asked | ended
    · split at asked
      · rw [List.mem_singleton.mp asked]
        exact ⟨rfl, rfl⟩
      · exact absurd asked List.not_mem_nil
    · rw [List.mem_singleton.mp ended]
      exact ⟨rfl, rfl⟩

theorem Onward.isInside_of_mem (onward : Onward g n told) (mem : k ∈ told) :
    k.isOpening = false ∧ k.isClosing = false := by
  cases onward with
  | silent => exact absurd mem List.not_mem_nil
  | retried =>
      rw [List.mem_singleton.mp mem]
      exact ⟨rfl, rfl⟩
  | selected =>
      rw [List.mem_singleton.mp mem]
      exact ⟨rfl, rfl⟩

/-- Episodes neither open nor close a run. -/
theorem Episode.isInside_of_mem (episode : Episode g told) (mem : k ∈ told) :
    k.isOpening = false ∧ k.isClosing = false := by
  cases episode with
  | stage found stage number status next =>
      rcases List.mem_append.mp mem with work | onward
      · exact isInside_of_mem_workEvents work
      · exact next.isInside_of_mem onward
  | passage =>
      rw [List.mem_singleton.mp mem]
      exact ⟨rfl, rfl⟩

end Inside

/-! ### What a visit tells -/

/-- What is told at the end of a run that is left in a state. -/
def closingEvent (p : Plan σ) (t : State σ) : Ending → Event.Kind
  | .completed => .pipelineCompleted p.graph.goal t.completed.length p.graph.nodes.size 0
  | .failed reason => reason.event p.graph.goal

/-- What a visit tells last: the end of the run, if it is the end. -/
def closingEvents (p : Plan σ) (t : State σ) : Move → List Event.Kind
  | .goto _ => []
  | .stop ending => [closingEvent p t ending]

section Telling

variable {p : Plan σ} {s t : State σ} {n : Node} {outcome : Outcome} {told onward : List Event.Kind}

/-- What is told about settled work, together with what follows it, is one episode at most. -/
theorem Settled.exists_episodes {key : String} (found : p.graph.node? key = some n)
    (settled : Settled p s n t outcome told) (next : Onward p.graph n onward) :
    ∃ episodes : List (List Event.Kind),
      (∀ episode ∈ episodes, Episode p.graph episode) ∧ told ++ onward = episodes.flatten := by
  have one : ∀ {told}, Episode p.graph told → ∃ episodes : List (List Event.Kind),
      (∀ episode ∈ episodes, Episode p.graph episode) ∧ told = episodes.flatten := by
    intro told episode
    exact ⟨[told], List.forall_mem_singleton.mpr episode, List.flatten_singleton.symm⟩
  cases settled with
  | stage stage handled => exact one (.stage found stage _ _ next)
  | passage passage =>
      cases next with
      | silent => exact ⟨[], List.forall_mem_nil _, rfl⟩
      | retried stage => exact absurd passage stage.2
      | selected edge leaves labelled => exact one (.passage found passage edge leaves labelled)

/-- The edge that a run follows is one of those that leave the node. -/
theorem onward_followEvents {g : Graph} {context : Context} {e : Edge}
    (selected : Routing.select? g n.id outcome context = some e) :
    Onward g n (followEvents n e) := by
  obtain ⟨edge, leaves⟩ := Routing.mem_outgoing_iff.mp (Routing.mem_outgoing_of_select? selected)
  unfold followEvents
  split
  · exact .silent
  · exact .selected edge leaves ‹_›

/-- **A visit tells one episode at most**, and the end of the run if it is the end. -/
theorem Course.exists_episodes {id : String} {move : Move} (course : Course p s id t move told) :
    ∃ episodes : List (List Event.Kind), (∀ episode ∈ episodes, Episode p.graph episode) ∧
      told = episodes.flatten ++ closingEvents p t move := by
  cases course with
  | unknown | left | held | barred | unhandled => exact ⟨[], List.forall_mem_nil _, rfl⟩
  | retried found stage settled again =>
      obtain ⟨episodes, all, eq⟩ := settled.exists_episodes found (.retried stage _ _)
      exact ⟨episodes, all, eq.trans (List.append_nil _).symm⟩
  | followed found settled spent selected =>
      obtain ⟨episodes, all, eq⟩ := settled.exists_episodes found (onward_followEvents selected)
      exact ⟨episodes, all, eq.trans (List.append_nil _).symm⟩
  | redirected found settled =>
      obtain ⟨episodes, all, eq⟩ := settled.exists_episodes found .silent
      exact ⟨episodes, all, (List.append_nil _).symm.trans (eq.trans (List.append_nil _).symm)⟩
  | stranded found settled =>
      obtain ⟨episodes, all, eq⟩ := settled.exists_episodes found .silent
      rw [List.append_nil] at eq
      subst eq
      exact ⟨episodes, all, rfl⟩

end Telling

/-! ### What a run tells -/

/-- A trail tells episodes, and the end of the run once it has stopped. -/
theorem Trail.exists_episodes {p : Plan σ} {s t : State σ} {id : String}
    {visits : List (Visit σ)} {move : Move} (trail : Trail p s id visits t move) :
    ∃ episodes : List (List Event.Kind), (∀ episode ∈ episodes, Episode p.graph episode) ∧
      t.events = s.events ++ (episodes.flatten ++ closingEvents p t move) := by
  induction trail with
  | start => exact ⟨[], List.forall_mem_nil _, (List.append_nil _).symm⟩
  | @visit visits t here trail ih =>
      obtain ⟨earlier, allEarlier, before⟩ := ih
      have course : Course p t here _ _ _ := Visit.paid_of p t here
      obtain ⟨episodes, all, told⟩ := course.exists_episodes
      refine ⟨earlier ++ episodes, List.forall_mem_append.mpr ⟨allEarlier, all⟩, ?_⟩
      rw [course.events_eq, told, before, closingEvents, List.append_nil, List.flatten_append,
        List.append_assoc, List.append_assoc]

/-- **The events of a run are an opening, episodes, and a closing.** -/
theorem events_eq_of_isValid {p : Plan σ} (memory : σ) (valid : p.graph.isValid = true) :
    ∃ episodes : List (List Event.Kind), (∀ episode ∈ episodes, Episode p.graph episode) ∧
      (execute p memory).state.events = .pipelineStarted p.graph.goal p.graph.nodes.size ::
        (episodes.flatten ++
          [closingEvent p (execute p memory).state (execute p memory).ending]) := by
  obtain ⟨start, t, move, -, trail, eq⟩ := exists_trail_of_isValid memory valid
  obtain ⟨episodes, all, events⟩ := trail.exists_episodes
  refine ⟨episodes, all, ?_⟩
  rw [eq]
  cases move with
  | stop ending => exact events
  | goto next =>
      -- the visits were used up: the run says so on top of what its trail has told
      rw [closingEvents, List.append_nil] at events
      show t.events ++ [Reason.limitReached.event p.graph.goal] = _
      rw [events]
      rfl

/-! ### What the last event says -/

theorem isClosing_closingEvent (p : Plan σ) (t : State σ) (ending : Ending) :
    (closingEvent p t ending).isClosing = true ∧ (closingEvent p t ending).isOpening = false := by
  rcases ending with _ | reason
  · exact ⟨rfl, rfl⟩
  · cases reason <;> exact ⟨rfl, rfl⟩

/-- A run closes as completed only when it is, and counts the nodes that it has completed. -/
theorem closingEvent_eq_pipelineCompleted_iff {p : Plan σ} {t : State σ} {ending : Ending}
    {goal : String} {count total duration : Nat} :
    closingEvent p t ending = .pipelineCompleted goal count total duration ↔
      ending = .completed ∧ goal = p.graph.goal ∧ count = t.completed.length ∧
        total = p.graph.nodes.size ∧ duration = 0 := by
  rcases ending with _ | reason
  · simp [closingEvent, eq_comm]
  · cases reason <;> simp [closingEvent, Reason.event]

/-- A run closes with an error only when it has failed for want of a handler. -/
theorem closingEvent_eq_error_iff {p : Plan σ} {t : State σ} {ending : Ending}
    {id message : String} :
    closingEvent p t ending = .error id message ↔
      ∃ kind, ending = .failed (.noHandler id kind) ∧
        message = (Reason.noHandler id kind).announcement := by
  rcases ending with _ | reason
  · simp [closingEvent]
  · cases reason with
    | noHandler key kind =>
        constructor
        · intro closes
          cases closes
          exact ⟨kind, rfl, rfl⟩
        · rintro ⟨_, failed, rfl⟩
          cases failed
          rfl
    | _ => simp [closingEvent, Reason.event]

/-- A run of a valid graph fails for want of a handler exactly when its last visit went to a node
without one. -/
theorem ending_eq_noHandler_iff {p : Plan σ} {memory : σ} (valid : p.graph.isValid = true)
    {id kind : String} :
    (execute p memory).ending = .failed (.noHandler id kind) ↔
      ∃ v n, (visits p memory).getLast? = some v ∧ p.graph.node? v.id = some n ∧ n.IsStage ∧
        p.registry.get? n.work = none ∧ n.id = id ∧ n.work = kind := by
  obtain ⟨start, t, move, -, trail, eq⟩ := exists_trail_of_isValid memory valid
  rw [eq]
  constructor
  · intro failed
    cases move with
    | goto next => cases failed
    | stop ending =>
        obtain rfl : ending = .failed (.noHandler id kind) := failed
        obtain ⟨v, last, -, stops⟩ := trail.exists_getLast?
        have paid := trail.paid_of_mem (List.mem_of_getLast? last)
        have unhandled := Visit.isUnhandled_of_stops paid stops
        obtain ⟨n, found, stage, none⟩ := Visit.isUnhandled_iff.mp unhandled
        obtain ⟨m, foundM, stopsM⟩ := Visit.stops_of_isUnhandled paid unhandled
        obtain rfl : n = m := Option.some.inj (found.symm.trans foundM)
        rw [stops] at stopsM
        cases stopsM
        exact ⟨v, n, last, found, stage, none, rfl, rfl⟩
  · rintro ⟨v, n, last, found, stage, none, rfl, rfl⟩
    have paid := trail.paid_of_mem (List.mem_of_getLast? last)
    obtain ⟨m, foundM, stops⟩ :=
      Visit.stops_of_isUnhandled paid (Visit.isUnhandled_iff.mpr ⟨n, found, stage, none⟩)
    obtain rfl : n = m := Option.some.inj (found.symm.trans foundM)
    rw [← (trail.eq_of_mem_getLast? last).2, stops]
    rfl

/-- A run tells nothing exactly when its graph has an error. -/
theorem events_eq_nil_iff (p : Plan σ) (memory : σ) :
    (execute p memory).state.events = [] ↔ ∃ f ∈ p.graph.findings, f.severity = .error := by
  rw [← Graph.isValid_eq_false_iff]
  cases valid : p.graph.isValid with
  | false =>
      rw [(execute_of_not_isValid memory valid).1]
      exact ⟨fun _ => rfl, fun _ => rfl⟩
  | true =>
      obtain ⟨episodes, -, events⟩ := events_eq_of_isValid memory valid
      rw [events]
      exact ⟨fun none => absurd none (List.cons_ne_nil _ _), fun invalid => (nomatch invalid)⟩

/-- The last event of a run is its closing. -/
theorem getLast?_events_of_isValid {p : Plan σ} (memory : σ) (valid : p.graph.isValid = true) :
    (execute p memory).state.events.getLast? =
      some (closingEvent p (execute p memory).state (execute p memory).ending) := by
  obtain ⟨episodes, -, events⟩ := events_eq_of_isValid memory valid
  rw [events, ← List.cons_append]
  exact List.getLast?_concat

/-- A run closes as completed exactly when it has completed, and then with its own counts. -/
theorem getLast?_eq_pipelineCompleted_iff {p : Plan σ} {memory : σ} {goal : String}
    {count total duration : Nat} :
    (execute p memory).state.events.getLast? =
        some (.pipelineCompleted goal count total duration) ↔
      (execute p memory).ending = .completed ∧ goal = p.graph.goal ∧
        count = (execute p memory).state.completed.length ∧ total = p.graph.nodes.size ∧
        duration = 0 := by
  cases valid : p.graph.isValid with
  | false =>
      rw [(execute_of_not_isValid memory valid).1]
      exact ⟨fun last => (nomatch last), fun completed => (nomatch completed.1)⟩
  | true =>
      rw [getLast?_events_of_isValid memory valid, Option.some_inj]
      exact closingEvent_eq_pipelineCompleted_iff

/-- A run closes with an error exactly when its last visit went to a node without a handler. -/
theorem getLast?_eq_error_iff {p : Plan σ} {memory : σ} {id message : String} :
    (execute p memory).state.events.getLast? = some (.error id message) ↔
      ∃ v n, (visits p memory).getLast? = some v ∧ p.graph.node? v.id = some n ∧ n.IsStage ∧
        p.registry.get? n.work = none ∧
        (execute p memory).ending = .failed (.noHandler n.id n.work) ∧ n.id = id ∧
        message = (Reason.noHandler n.id n.work).announcement := by
  cases valid : p.graph.isValid with
  | false =>
      obtain ⟨eq, none⟩ := execute_of_not_isValid memory valid
      rw [eq, none]
      exact ⟨fun last => (nomatch last), fun ⟨_, _, last, _⟩ => (nomatch last)⟩
  | true =>
      rw [getLast?_events_of_isValid memory valid, Option.some_inj, closingEvent_eq_error_iff]
      constructor
      · rintro ⟨kind, failed, rfl⟩
        obtain ⟨v, n, last, found, stage, none, rfl, rfl⟩ :=
          (ending_eq_noHandler_iff valid).mp failed
        exact ⟨v, n, last, found, stage, none, failed, rfl, rfl⟩
      · rintro ⟨v, n, last, found, stage, none, failed, rfl, rfl⟩
        exact ⟨n.work, failed, rfl⟩

/-- **Every run follows the protocol**, whatever its graph.  It tells nothing exactly when the graph
has an error.  Otherwise it opens once, tells episodes, and closes once.  It has completed exactly
when it closes as completed, with the number of its completed nodes, and it closes with an error
exactly when its last visit went to a node without a handler. -/
theorem events_follow_protocol (p : Plan σ) (memory : σ) :
    ((execute p memory).state.events = [] ↔ ∃ f ∈ p.graph.findings, f.severity = .error) ∧
    ((execute p memory).state.events ≠ [] →
      ∃ (episodes : List (List Event.Kind)) (closing : Event.Kind),
        (execute p memory).state.events =
          .pipelineStarted p.graph.goal p.graph.nodes.size :: (episodes.flatten ++ [closing]) ∧
        (∀ episode ∈ episodes, Episode p.graph episode) ∧
        (∀ k ∈ episodes.flatten, k.isOpening = false ∧ k.isClosing = false) ∧
        closing.isClosing = true ∧ closing.isOpening = false) ∧
    ((execute p memory).ending = .completed ↔ ∃ goal count total duration,
      (execute p memory).state.events.getLast? =
        some (.pipelineCompleted goal count total duration)) ∧
    (∀ goal count total duration,
      (execute p memory).state.events.getLast? =
        some (.pipelineCompleted goal count total duration) →
      count = (execute p memory).state.completed.length) ∧
    ∀ id message, (execute p memory).state.events.getLast? = some (.error id message) ↔
      ∃ v n, (visits p memory).getLast? = some v ∧ p.graph.node? v.id = some n ∧ n.IsStage ∧
        p.registry.get? n.work = none ∧
        (execute p memory).ending = .failed (.noHandler n.id n.work) ∧ n.id = id ∧
        message = (Reason.noHandler n.id n.work).announcement := by
  refine ⟨events_eq_nil_iff p memory, fun told => ?_, ⟨fun completed => ?_, ?_⟩, ?_, ?_⟩
  · have noError := mt (events_eq_nil_iff p memory).mpr told
    have valid : p.graph.isValid = true := by
      rw [← Graph.isValid_eq_false_iff, Bool.not_eq_false] at noError
      exact noError
    obtain ⟨episodes, all, events⟩ := events_eq_of_isValid memory valid
    refine ⟨episodes, _, events, all, fun k mem => ?_, isClosing_closingEvent ..⟩
    obtain ⟨episode, among, inside⟩ := List.mem_flatten.mp mem
    exact (all episode among).isInside_of_mem inside
  · exact ⟨_, _, _, _, getLast?_eq_pipelineCompleted_iff.mpr ⟨completed, rfl, rfl, rfl, rfl⟩⟩
  · rintro ⟨goal, count, total, duration, last⟩
    exact (getLast?_eq_pipelineCompleted_iff.mp last).1
  · intro goal count total duration last
    exact (getLast?_eq_pipelineCompleted_iff.mp last).2.2.1
  · intro id message
    exact getLast?_eq_error_iff

/-- The review of a text follows the protocol: a draft that is tried again, two more drafts with a
review each, and the close with six completed nodes. -/
theorem reviewPlan_follows_protocol :
    (execute reviewPlan 0).state.events.map Event.Kind.name =
      ["pipeline_started",
        "stage_started", "stage_completed", "stage_retrying",
        "stage_started", "stage_completed",
        "stage_started", "human_gate", "stage_completed", "edge_selected",
        "stage_started", "stage_completed",
        "stage_started", "human_gate", "stage_completed", "edge_selected",
        "pipeline_completed"] ∧
    (∃ episodes : List (List Event.Kind),
      (execute reviewPlan 0).state.events =
        .pipelineStarted "" 4 :: (episodes.flatten ++ [.pipelineCompleted "" 6 4 0]) ∧
      ∀ episode ∈ episodes, Episode reviewPlan.graph episode) ∧
    (execute reviewPlan 0).ending = .completed ∧
    (execute reviewPlan 0).state.completed.length = 6 := by
  have told : (execute reviewPlan 0).state.events ≠ [] := by decide +kernel
  have last : (execute reviewPlan 0).state.events.getLast? =
      some (.pipelineCompleted "" 6 4 0) := by decide +kernel
  obtain ⟨-, told', completed, counted, -⟩ := events_follow_protocol reviewPlan 0
  obtain ⟨episodes, closing, events, all, -, -, -⟩ := told' told
  have closes : closing = .pipelineCompleted "" 6 4 0 := by
    rw [events, ← List.cons_append, List.getLast?_concat] at last
    exact Option.some.inj last
  rw [closes] at events
  exact ⟨by decide +kernel, ⟨episodes, events, all⟩, completed.mpr ⟨_, _, _, _, last⟩,
    (counted _ _ _ _ last).symm⟩

end Run

end Workflow
