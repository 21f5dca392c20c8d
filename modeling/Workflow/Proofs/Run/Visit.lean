import Workflow.Proofs.Validity
import Workflow.Run

/-!
# What comes of a visit

A visit dispatches on the kind of work, lets a handler act, records what it came to
and decides where the run goes.  Theorems about whole runs would have to open all of
that again and again, so it is opened here once: `Course` has one constructor for each
way in which a visit can end, and each constructor says what the state is afterwards,
where the run goes and which events were told on the way.

## Main Definitions

* `Run.Settled` — the work at a node is done and recorded.
* `Run.Course` — what comes of a visit.
* `Run.Visit` — a visit that took place, with the states around it.

## Main Statements

* `Run.exists_course` — every visit takes one of the courses.
* `Run.Course.events_eq` — the events of a course are the ones added to the record.

## Design Notes

`Settled` is the part that passages and stages share: both end with an outcome, an
entry in the list of completed nodes, and a status.  The courses that lead on from a
node are stated for a settled node, whatever its kind of work.
-/

namespace Workflow

namespace Node

/-- Starts and conditionals: the run passes them by itself. -/
def IsPassage (n : Node) : Prop := n.work = Work.start ∨ n.work = Work.conditional

/-- Every kind of work that is not the run's own needs a handler. -/
def IsStage (n : Node) : Prop := n.work ≠ Work.exit ∧ ¬n.IsPassage

instance (n : Node) : Decidable n.IsPassage :=
  inferInstanceAs (Decidable (n.work = Work.start ∨ n.work = Work.conditional))

instance (n : Node) : Decidable n.IsStage :=
  inferInstanceAs (Decidable (n.work ≠ Work.exit ∧ ¬n.IsPassage))

theorem IsPassage.work_ne_exit {n : Node} (passage : n.IsPassage) : n.work ≠ Work.exit := by
  intro exit
  rcases passage with start | conditional
  · exact absurd (exit.symm.trans start) (by decide)
  · exact absurd (exit.symm.trans conditional) (by decide)

end Node

namespace Run

variable {σ : Type}

/-! ### Work that is done -/

/-- The state in which a visit finds its node: the context says where the run is. -/
def arrive (s : State σ) (id : String) : State σ := s.note "current_node" id

/-- The events of a stage: it begins, a person may be asked, and it ends. -/
def workEvents (g : Graph) (n : Node) (stage : Nat) (status : Status) : List Event.Kind :=
  .stageStarted n.id n.label stage g.nodes.size ::
    ((if n.work = Work.human then [.humanGate n.id n.label (choices g n)] else []) ++
      [.stageCompleted n.id n.label stage g.nodes.size status 0])

/-- The work at a node is done and recorded: the state it leaves, what it came to, and what was
told about it. -/
inductive Settled (p : Plan σ) (s : State σ) (n : Node) :
    State σ → Outcome → List Event.Kind → Prop
  /-- A passage succeeds. -/
  | passage (passage : n.IsPassage) :
      Settled p s n ((s.pass n.id .success).note "outcome" Status.success.name) .success []
  /-- A stage comes to what its handler answers. -/
  | stage {h : Handler σ} (stage : n.IsStage) (handled : p.registry.get? n.work = some h) :
      Settled p s n
        (closeStage p (perform p h (openStage p s n) n).1 n (perform p h (openStage p s n) n).2)
        (perform p h (openStage p s n) n).2
        (workEvents p.graph n (s.stage + 1) (perform p h (openStage p s n) n).2.status)

/-- Beginning a stage leaves everything but the events and the number of the stage. -/
theorem openStage_eq (p : Plan σ) (s : State σ) (n : Node) :
    openStage p s n =
      { s with stage := s.stage + 1, events := s.events ++
        (.stageStarted n.id n.label (s.stage + 1) p.graph.nodes.size ::
          if n.work = Work.human then [.humanGate n.id n.label (choices p.graph n)] else []) } := by
  unfold openStage
  split <;> simp [State.emit]

/-- What a handler answers does not depend on the events or the number of the stage. -/
theorem perform_openStage_snd (p : Plan σ) (h : Handler σ) (s : State σ) (n : Node) :
    (perform p h (openStage p s n) n).2 = (perform p h s n).2 := by
  rw [openStage_eq]
  rfl

namespace Settled

variable {p : Plan σ} {s t : State σ} {n : Node} {outcome : Outcome} {told : List Event.Kind}

theorem completed_eq (settled : Settled p s n t outcome told) :
    t.completed = s.completed ++ [n.id] := by
  cases settled with
  | passage => rfl
  | stage stage handled =>
      rw [openStage_eq]
      rfl

theorem outcomes_eq (settled : Settled p s n t outcome told) :
    t.outcomes = s.outcomes.insert n.id outcome.status := by
  cases settled with
  | passage => rfl
  | stage stage handled =>
      rw [openStage_eq]
      rfl

theorem retries_eq (settled : Settled p s n t outcome told) : t.retries = s.retries := by
  cases settled with
  | passage => rfl
  | stage stage handled =>
      rw [openStage_eq]
      rfl

theorem events_eq (settled : Settled p s n t outcome told) : t.events = s.events ++ told := by
  cases settled with
  | passage => exact (List.append_nil s.events).symm
  | stage stage handled =>
      rw [openStage_eq]
      simp [closeStage, perform, workEvents, State.emit, State.note, State.pass, State.snapshot]

/-- Work is done at passages and stages only. -/
theorem work_ne_exit (settled : Settled p s n t outcome told) : n.work ≠ Work.exit := by
  cases settled with
  | passage passage => exact passage.work_ne_exit
  | stage stage handled => exact stage.1

end Settled

/-! ### The courses of a visit -/

/-- The event about a run that leaves at an exit. -/
def leaveEvent (p : Plan σ) (s : State σ) (n : Node) : Event.Kind :=
  .pipelineCompleted p.graph.goal (s.completed ++ [n.id]).length p.graph.nodes.size 0

/-- The state in which a run leaves at an exit. -/
def leave (p : Plan σ) (s : State σ) (n : Node) : State σ :=
  ({ s with completed := s.completed ++ [n.id] } : State σ).emit (leaveEvent p s n)

/-- The event about an edge that is followed, if it has a label. -/
def followEvents (n : Node) (e : Edge) : List Event.Kind :=
  if e.label = "" then [] else [.edgeSelected n.id e.target e.label]

/-- To follow an edge is to tell about it, and nothing else. -/
theorem follow_eq (s : State σ) (n : Node) (e : Edge) :
    follow s n e = { s with events := s.events ++ followEvents n e } := by
  unfold follow followEvents
  split
  · rw [List.append_nil]
  · rfl

@[simp] theorem completed_follow (s : State σ) (n : Node) (e : Edge) :
    (follow s n e).completed = s.completed := by
  rw [follow_eq]

@[simp] theorem outcomes_follow (s : State σ) (n : Node) (e : Edge) :
    (follow s n e).outcomes = s.outcomes := by
  rw [follow_eq]

@[simp] theorem retries_follow (s : State σ) (n : Node) (e : Edge) :
    (follow s n e).retries = s.retries := by
  rw [follow_eq]

@[simp] theorem context_follow (s : State σ) (n : Node) (e : Edge) :
    (follow s n e).context = s.context := by
  rw [follow_eq]

/-- The event about a retry. -/
def retryEvent (p : Plan σ) (s : State σ) (n : Node) : Event.Kind :=
  .stageRetrying n.id n.label (s.retriesOf n.id + 1) (Retry.budget p.graph n)

/-- What comes of a visit to `id` in the state `s`: the state afterwards, where the run goes, and
what is told on the way. -/
inductive Course (p : Plan σ) (s : State σ) (id : String) :
    State σ → Move → List Event.Kind → Prop
  /-- There is no such node. -/
  | unknown (absent : p.graph.node? id = none) :
      Course p s id (s.emit ((Reason.nodeNotFound id).event p.graph.goal))
        (.stop (.failed (.nodeNotFound id))) [(Reason.nodeNotFound id).event p.graph.goal]
  /-- The run leaves at an exit. -/
  | left {n : Node} (found : p.graph.node? id = some n) (exit : n.work = Work.exit)
      (clear : Gate.unsatisfied p.graph s.completed s.outcomes = []) :
      Course p s id (leave p (arrive s id) n) (.stop .completed) [leaveEvent p s n]
  /-- A gate holds the run back at an exit and sends it to a retry target. -/
  | held {n : Node} {first target : String} {others : List String}
      (found : p.graph.node? id = some n) (exit : n.work = Work.exit)
      (failed : Gate.unsatisfied p.graph s.completed s.outcomes = first :: others)
      (back : Gate.retryTarget? p.graph (p.graph.node? first) = some target) :
      Course p s id (arrive s id) (.goto target) []
  /-- A gate holds the run back at an exit and there is nowhere to go back to. -/
  | barred {n : Node} {first : String} {others : List String}
      (found : p.graph.node? id = some n) (exit : n.work = Work.exit)
      (failed : Gate.unsatisfied p.graph s.completed s.outcomes = first :: others)
      (nowhere : Gate.retryTarget? p.graph (p.graph.node? first) = none) :
      Course p s id
        ((arrive s id).emit ((Reason.gatesUnsatisfied (first :: others)).event p.graph.goal))
        (.stop (.failed (.gatesUnsatisfied (first :: others))))
        [(Reason.gatesUnsatisfied (first :: others)).event p.graph.goal]
  /-- There is no handler for the node. -/
  | unhandled {n : Node} (found : p.graph.node? id = some n) (stage : n.IsStage)
      (unhandled : p.registry.get? n.work = none) :
      Course p s id ((arrive s id).emit ((Reason.noHandler n.id n.work).event p.graph.goal))
        (.stop (.failed (.noHandler n.id n.work)))
        [(Reason.noHandler n.id n.work).event p.graph.goal]
  /-- The stage is tried again in place. -/
  | retried {n : Node} {t : State σ} {outcome : Outcome} {told : List Event.Kind}
      (found : p.graph.node? id = some n) (stage : n.IsStage)
      (settled : Settled p (arrive s id) n t outcome told)
      (again : retries? p t n outcome.status = true) :
      Course p s id (retry p t n).1 (.goto n.id) (told ++ [retryEvent p s n])
  /-- The run follows an edge. -/
  | followed {n : Node} {t : State σ} {outcome : Outcome} {told : List Event.Kind} {e : Edge}
      (found : p.graph.node? id = some n)
      (settled : Settled p (arrive s id) n t outcome told)
      (spent : n.IsStage → retries? p t n outcome.status = false)
      (selected : Routing.select? p.graph n.id outcome t.context = some e) :
      Course p s id (follow t n e) (.goto e.target) (told ++ followEvents n e)
  /-- No edge leaves the failed node, and the run goes to a retry target. -/
  | redirected {n : Node} {t : State σ} {outcome : Outcome} {told : List Event.Kind}
      {target : String} (found : p.graph.node? id = some n)
      (settled : Settled p (arrive s id) n t outcome told)
      (spent : n.IsStage → retries? p t n outcome.status = false)
      (deadEnd : Routing.select? p.graph n.id outcome t.context = none)
      (failed : outcome.status = .fail)
      (back : Gate.retryTarget? p.graph (p.graph.node? n.id) = some target) :
      Course p s id t (.goto target) told
  /-- No edge leaves the node, and there is nowhere else to go. -/
  | stranded {n : Node} {t : State σ} {outcome : Outcome} {told : List Event.Kind}
      (found : p.graph.node? id = some n)
      (settled : Settled p (arrive s id) n t outcome told)
      (spent : n.IsStage → retries? p t n outcome.status = false)
      (deadEnd : Routing.select? p.graph n.id outcome t.context = none)
      (nowhere : outcome.status = .fail →
        Gate.retryTarget? p.graph (p.graph.node? n.id) = none) :
      Course p s id (t.emit ((Reason.deadEnd n.id outcome.status).event p.graph.goal))
        (.stop (.failed (.deadEnd n.id outcome.status)))
        (told ++ [(Reason.deadEnd n.id outcome.status).event p.graph.goal])

section Dispatch

variable (p : Plan σ) (s : State σ) {id : String} {n : Node}

/-- A visit to an exit. -/
theorem exists_course_visitExit (found : p.graph.node? id = some n) (exit : n.work = Work.exit) :
    ∃ told, Course p s id (visitExit p (arrive s id) n).1 (visitExit p (arrive s id) n).2 told := by
  cases failed : Gate.unsatisfied p.graph s.completed s.outcomes with
  | nil =>
      have eq : visitExit p (arrive s id) n = (leave p (arrive s id) n, .stop .completed) := by
        simp only [visitExit, arrive, State.note, failed]
        rfl
      rw [eq]
      exact ⟨_, .left found exit failed⟩
  | cons first others =>
      cases back : Gate.retryTarget? p.graph (p.graph.node? first) with
      | some target =>
          have eq : visitExit p (arrive s id) n = (arrive s id, .goto target) := by
            simp only [visitExit, arrive, State.note, failed, back]
          rw [eq]
          exact ⟨_, .held found exit failed back⟩
      | none =>
          have eq : visitExit p (arrive s id) n =
              abandon p (arrive s id) (.gatesUnsatisfied (first :: others)) := by
            simp only [visitExit, arrive, State.note, failed, back]
          rw [eq]
          exact ⟨_, .barred found exit failed back⟩

/-- The ways on from a settled node. -/
theorem exists_course_advance {t : State σ} {outcome : Outcome} {told : List Event.Kind}
    (found : p.graph.node? id = some n) (settled : Settled p (arrive s id) n t outcome told)
    (spent : n.IsStage → retries? p t n outcome.status = false) :
    ∃ told, Course p s id (advance p t n outcome).1 (advance p t n outcome).2 told := by
  cases selected : Routing.select? p.graph n.id outcome t.context with
  | some e =>
      have eq : advance p t n outcome = (follow t n e, .goto e.target) := by
        simp only [advance, selected]
      rw [eq]
      exact ⟨_, .followed found settled spent selected⟩
  | none =>
      by_cases failed : outcome.status = .fail
      · cases back : Gate.retryTarget? p.graph (p.graph.node? n.id) with
        | some target =>
            have eq : advance p t n outcome = (t, .goto target) := by
              simp only [advance, selected, if_pos failed, back]
            rw [eq]
            exact ⟨_, .redirected found settled spent selected failed back⟩
        | none =>
            have eq : advance p t n outcome = abandon p t (.deadEnd n.id outcome.status) := by
              simp only [advance, selected, if_pos failed, back]
            rw [eq]
            exact ⟨_, .stranded found settled spent selected fun _ => back⟩
      · have eq : advance p t n outcome = abandon p t (.deadEnd n.id outcome.status) := by
          simp only [advance, selected, if_neg failed]
        rw [eq]
        exact ⟨_, .stranded found settled spent selected fun h => absurd h failed⟩

/-- A visit to a stage. -/
theorem exists_course_visitStage (found : p.graph.node? id = some n) (stage : n.IsStage) :
    ∃ told,
      Course p s id (visitStage p (arrive s id) n).1 (visitStage p (arrive s id) n).2 told := by
  cases handled : p.registry.get? n.work with
  | none =>
      have eq : visitStage p (arrive s id) n =
          abandon p (arrive s id) (.noHandler n.id n.work) := by
        simp only [visitStage, handled]
      rw [eq]
      exact ⟨_, .unhandled found stage handled⟩
  | some h =>
      have settled := Settled.stage (p := p) (s := arrive s id) stage handled
      by_cases again : retries? p
          (closeStage p (perform p h (openStage p (arrive s id) n) n).1 n
            (perform p h (openStage p (arrive s id) n) n).2) n
          (perform p h (openStage p (arrive s id) n) n).2.status = true
      · simp only [visitStage, handled, if_pos again]
        exact ⟨_, .retried found stage settled again⟩
      · simp only [visitStage, handled, if_neg again]
        exact exists_course_advance p s found settled fun _ => Bool.eq_false_iff.mpr again

/-- **Every visit takes one of the courses.** -/
theorem exists_course (id : String) :
    ∃ told, Course p s id (visit p s id).1 (visit p s id).2 told := by
  cases found : p.graph.node? id with
  | none =>
      have eq : visit p s id = abandon p s (.nodeNotFound id) := by simp only [visit, found]
      rw [eq]
      exact ⟨_, .unknown found⟩
  | some n =>
      by_cases exit : n.work = Work.exit
      · have eq : visit p s id = visitExit p (arrive s id) n := by
          simp only [visit, found, if_pos exit, arrive]
        rw [eq]
        exact exists_course_visitExit p s found exit
      · by_cases passage : n.IsPassage
        · have eq : visit p s id = visitPassage p (arrive s id) n := by
            simp only [visit, found, if_neg exit]
            exact if_pos passage
          rw [eq]
          exact exists_course_advance p s found (.passage passage) fun stage =>
            absurd passage stage.2
        · have eq : visit p s id = visitStage p (arrive s id) n := by
            simp only [visit, found, if_neg exit]
            exact if_neg passage
          rw [eq]
          exact exists_course_visitStage p s found ⟨exit, passage⟩

end Dispatch

/-- The events of a course are the ones it adds to the record. -/
theorem Course.events_eq {p : Plan σ} {s t : State σ} {id : String} {move : Move}
    {told : List Event.Kind} (course : Course p s id t move told) :
    t.events = s.events ++ told := by
  cases course with
  | unknown => rfl
  | left => rfl
  | held => exact (List.append_nil s.events).symm
  | barred => rfl
  | unhandled => rfl
  | @retried n t outcome told found stage settled again =>
      -- the number that was told is read off the state before the visit
      have count : t.retriesOf n.id = s.retriesOf n.id := by
        rw [State.retriesOf, settled.retries_eq]
        rfl
      have events : (retry p t n).1.events = t.events ++ [retryEvent p t n] := rfl
      rw [events, settled.events_eq, List.append_assoc, retryEvent, retryEvent, count]
      rfl
  | @followed n t outcome told e found settled spent selected =>
      have events : (follow t n e).events = t.events ++ followEvents n e := by rw [follow_eq]
      rw [events, settled.events_eq, List.append_assoc]
      rfl
  | redirected found settled => exact settled.events_eq
  | @stranded n t outcome told found settled =>
      have events : t.events = s.events ++ told := settled.events_eq
      rw [← List.append_assoc, ← events]
      rfl

/-! ### Visits that took place -/

/-- A visit of a run. -/
structure Visit (σ : Type) where
  /-- The id the run went to. -/
  id : String
  /-- The state before. -/
  before : State σ
  /-- The state after. -/
  after : State σ
  /-- Where the run went from there. -/
  move : Move
  /-- What was told during the visit. -/
  events : List Event.Kind

namespace Visit

/-- The visit that a run pays to `id` in the state `s`. -/
def of (p : Plan σ) (s : State σ) (id : String) : Visit σ :=
  ⟨id, s, (visit p s id).1, (visit p s id).2, (visit p s id).1.events.drop s.events.length⟩

/-- The visit took one of the courses, with everything that this says about it. -/
def Paid (p : Plan σ) (v : Visit σ) : Prop := Course p v.before v.id v.after v.move v.events

/-- What the visit came to: success at a passage, the answer of the handler at a stage; nothing at
an exit, and nothing where there is no node or no handler. -/
def outcome? (p : Plan σ) (v : Visit σ) : Option Outcome :=
  (p.graph.node? v.id).bind fun n =>
    if n.work = Work.exit then none
    else if n.IsPassage then some .success
    else (p.registry.get? n.work).map fun h => (perform p h (arrive v.before v.id) n).2

/-- The visits of a run are paid as its plan says. -/
theorem paid_of (p : Plan σ) (s : State σ) (id : String) : (of p s id).Paid p := by
  obtain ⟨told, course⟩ := exists_course p s id
  have events : (of p s id).events = told := by
    rw [of, course.events_eq]
    exact List.drop_left
  rw [Paid, events]
  exact course

section Outcome

variable {p : Plan σ} {v : Visit σ} {n : Node}

theorem outcome?_of_absent (absent : p.graph.node? v.id = none) : v.outcome? p = none := by
  simp [outcome?, absent]

theorem outcome?_of_exit (found : p.graph.node? v.id = some n) (exit : n.work = Work.exit) :
    v.outcome? p = none := by
  simp [outcome?, found, exit]

theorem outcome?_of_unhandled (found : p.graph.node? v.id = some n) (stage : n.IsStage)
    (unhandled : p.registry.get? n.work = none) : v.outcome? p = none := by
  simp [outcome?, found, stage.1, stage.2, unhandled]

/-- Settled work came to its outcome. -/
theorem outcome?_of_settled {t : State σ} {outcome : Outcome} {told : List Event.Kind}
    (found : p.graph.node? v.id = some n)
    (settled : Settled p (arrive v.before v.id) n t outcome told) :
    v.outcome? p = some outcome := by
  cases settled with
  | passage passage => simp [outcome?, found, passage.work_ne_exit, passage]
  | stage stage handled =>
      simp [outcome?, found, stage.1, stage.2, handled, perform_openStage_snd]

/-- Whether a visit comes to anything depends on the node alone, not on the state. -/
theorem isSome_outcome?_congr {w : Visit σ} (same : v.id = w.id) :
    (v.outcome? p).isSome = (w.outcome? p).isSome := by
  unfold outcome?
  rw [same]
  cases p.graph.node? w.id with
  | none => rfl
  | some n =>
      simp only [Option.bind_some]
      split
      · rfl
      · split
        · rfl
        · rw [Option.isSome_map, Option.isSome_map]

end Outcome

end Visit

end Run

end Workflow
