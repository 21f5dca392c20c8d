import Workflow.Proofs.Gate
import Workflow.Proofs.Routing
import Workflow.Proofs.Run.Trail

/-!
# What the record of a run says

A run keeps a list of completed nodes and the last status of every node.  Both are
written, overwritten and taken back from several places, visit after visit.  This file
says what they amount to in terms of the visits: the completed nodes are the visits that
count, in their order, and the status of a node is what the last visit to it came to.

## Main Definitions

* `Run.Visit.isRetried`, `Run.Visit.isHeld`, `Run.Visit.isUnhandled` — the visits that
  leave no completed node behind.
* `Run.lastVisit?` — the last visit to a node.
* `Run.reviewPlan` — a plan whose run goes through all of this.

## Main Statements

* `Run.Trail.contains` — a run of a valid graph visits nodes of the graph only.
* `Run.Trail.completed_eq` — the completed nodes are the visits that count.
* `Run.Trail.get?_outcomes` — the status of a node is that of the last visit to it.

## Design Notes

A retry is recognised from outside, by the event that tells about it and by the move
back to the same node, not by the branch that decided on it.
-/

namespace Workflow

theorem Status.wantsRetry_iff {status : Status} :
    status.wantsRetry = true ↔ status = .fail ∨ status = .retry := by
  cases status <;> simp [wantsRetry]

/-- Whether an event tells about a retry. -/
def Event.Kind.isRetry : Event.Kind → Bool
  | .stageRetrying .. => true
  | _ => false

namespace Run

variable {σ : Type}

/-! ### Where retries are told about -/

theorem any_isRetry_workEvents (g : Graph) (n : Node) (stage : Nat) (status : Status) :
    (workEvents g n stage status).any (·.isRetry) = false := by
  unfold workEvents
  split <;> rfl

theorem any_isRetry_followEvents (n : Node) (e : Edge) :
    (followEvents n e).any (·.isRetry) = false := by
  unfold followEvents
  split <;> rfl

theorem isRetry_event (goal : String) (reason : Reason) :
    (reason.event goal).isRetry = false := by
  cases reason <;> rfl

theorem Settled.any_isRetry {p : Plan σ} {s t : State σ} {n : Node} {outcome : Outcome}
    {told : List Event.Kind} (settled : Settled p s n t outcome told) :
    told.any (·.isRetry) = false := by
  cases settled with
  | passage => rfl
  | stage => exact any_isRetry_workEvents ..

theorem Settled.any_isRetry_append_followEvents {p : Plan σ} {s t : State σ} {n : Node}
    {outcome : Outcome} {told : List Event.Kind} (settled : Settled p s n t outcome told)
    (e : Edge) : (told ++ followEvents n e).any (·.isRetry) = false := by
  rw [List.any_append, settled.any_isRetry, any_isRetry_followEvents]
  rfl

theorem Settled.any_isRetry_append_event {p : Plan σ} {s t : State σ} {n : Node}
    {outcome : Outcome} {told : List Event.Kind} (settled : Settled p s n t outcome told)
    (goal : String) (reason : Reason) :
    (told ++ [reason.event goal]).any (·.isRetry) = false := by
  rw [List.any_append, settled.any_isRetry, List.any_cons, isRetry_event]
  rfl

/-- A stage whose work is settled has a handler. -/
theorem Settled.handled {p : Plan σ} {s t : State σ} {n : Node} {outcome : Outcome}
    {told : List Event.Kind} (settled : Settled p s n t outcome told) (stage : n.IsStage) :
    ∃ h, p.registry.get? n.work = some h := by
  cases settled with
  | passage passage => exact absurd passage stage.2
  | stage _ handled => exact ⟨_, handled⟩

/-! ### Visits that leave no completed node behind -/

namespace Visit

/-- The node was tried again in place: the visit told about a retry and led back to the node. -/
def isRetried (v : Visit σ) : Bool := v.move == .goto v.id && v.events.any (·.isRetry)

/-- The run was held back at an exit. -/
def isHeld (p : Plan σ) (v : Visit σ) : Bool :=
  match p.graph.node? v.id with
  | some n =>
    n.work == Work.exit && Gate.unsatisfied p.graph v.before.completed v.before.outcomes != []
  | none => false

/-- There was no handler for the node. -/
def isUnhandled (p : Plan σ) (v : Visit σ) : Bool :=
  match p.graph.node? v.id with
  | some n => decide n.IsStage && (p.registry.get? n.work).isNone
  | none => false

/-- The visit counts: it was not taken back, not held back, and not without a handler. -/
def counts (p : Plan σ) (v : Visit σ) : Bool := !(v.isRetried || v.isHeld p || v.isUnhandled p)

section Effects

variable {p : Plan σ} {v : Visit σ} {n : Node}

theorem isRetried_eq_false (quiet : v.events.any (·.isRetry) = false) : v.isRetried = false := by
  rw [isRetried, quiet, Bool.and_false]

theorem isRetried_eq_true {s : State σ} {work : List Event.Kind} (back : v.move = .goto v.id)
    (told : v.events = work ++ [retryEvent p s n]) : v.isRetried = true := by
  rw [isRetried, back, told, List.any_append]
  simp [retryEvent, Event.Kind.isRetry]

theorem isHeld_eq_false (found : p.graph.node? v.id = some n) (inside : n.work ≠ Work.exit) :
    v.isHeld p = false := by
  simp [isHeld, found, inside]

theorem isUnhandled_iff : v.isUnhandled p = true ↔
    ∃ n, p.graph.node? v.id = some n ∧ n.IsStage ∧ p.registry.get? n.work = none := by
  unfold isUnhandled
  cases p.graph.node? v.id with
  | none => simp
  | some n => simp

/-- Settled work had a handler, where it needed one. -/
theorem isUnhandled_eq_false {t : State σ} {outcome : Outcome} {told : List Event.Kind}
    (found : p.graph.node? v.id = some n)
    (settled : Settled p (arrive v.before v.id) n t outcome told) : v.isUnhandled p = false := by
  by_cases stage : n.IsStage
  · obtain ⟨h, handled⟩ := settled.handled stage
    simp [isUnhandled, found, handled]
  · simp [isUnhandled, found, stage]

/-- Settled work counts, unless it is taken back. -/
theorem counts_of_settled {t : State σ} {outcome : Outcome} {told : List Event.Kind}
    (found : p.graph.node? v.id = some n)
    (settled : Settled p (arrive v.before v.id) n t outcome told)
    (quiet : v.events.any (·.isRetry) = false) : v.counts p = true := by
  rw [counts, isRetried_eq_false quiet, isHeld_eq_false found settled.work_ne_exit,
    isUnhandled_eq_false found settled]
  rfl

/-- What a visit adds to the completed nodes: its node if it counts, and else nothing. -/
theorem completed_eq (keyed : p.graph.Keyed) (paid : v.Paid p)
    (known : p.graph.node? v.id ≠ none) :
    v.after.completed = v.before.completed ++ if v.counts p then [v.id] else [] := by
  obtain ⟨id, s, t, move, told⟩ := v
  simp only [Paid] at paid known
  cases paid with
  | unknown absent => exact absurd absent known
  | @left n found exit clear =>
      have counts : counts p (⟨id, s, leave p (arrive s id) n, .stop .completed,
          [leaveEvent p s n]⟩ : Visit σ) = true := by
        simp [Visit.counts, isRetried, isHeld, isUnhandled, found, exit, clear, Node.IsStage]
      rw [if_pos counts, ← keyed.id_eq found]
      rfl
  | held found exit failed back =>
      simp [Visit.counts, isHeld, found, exit, failed, arrive, State.note]
  | barred found exit failed nowhere =>
      simp [Visit.counts, isHeld, found, exit, failed, arrive, State.note, State.emit]
  | unhandled found stage unhandled =>
      simp [Visit.counts, isUnhandled, found, stage, unhandled, arrive, State.note, State.emit]
  | @retried n t outcome told found stage settled again =>
      -- the retry drops the entry that the work has just added
      have completed : (retry p t n).1.completed = s.completed := by
        change t.completed.dropLast = s.completed
        rw [settled.completed_eq]
        exact List.dropLast_concat
      have retried := isRetried_eq_true (p := p) (v := ⟨id, s, (retry p t n).1, .goto n.id,
        told ++ [retryEvent p s n]⟩) (congrArg Move.goto (keyed.id_eq found)) rfl
      simp [Visit.counts, retried, completed]
  | @followed n t outcome told e found settled spent selected =>
      have quiet := settled.any_isRetry_append_followEvents e
      rw [if_pos (counts_of_settled found settled quiet), completed_follow, settled.completed_eq,
        keyed.id_eq found]
      rfl
  | redirected found settled spent deadEnd failed back =>
      rw [if_pos (counts_of_settled found settled settled.any_isRetry), ← keyed.id_eq found]
      exact settled.completed_eq
  | @stranded n t outcome told found settled spent deadEnd nowhere =>
      have quiet := settled.any_isRetry_append_event p.graph.goal (.deadEnd n.id outcome.status)
      rw [if_pos (counts_of_settled found settled quiet), ← keyed.id_eq found]
      exact settled.completed_eq

/-- What a visit does to the statuses: it writes what it came to, if it came to anything. -/
theorem outcomes_eq (keyed : p.graph.Keyed) (paid : v.Paid p) :
    v.after.outcomes = match v.outcome? p with
      | some outcome => v.before.outcomes.insert v.id outcome.status
      | none => v.before.outcomes := by
  obtain ⟨id, s, t, move, told⟩ := v
  simp only [Paid] at paid
  cases paid with
  | unknown absent => rw [outcome?_of_absent absent]; rfl
  | left found exit clear => rw [outcome?_of_exit found exit]; rfl
  | held found exit failed back => rw [outcome?_of_exit found exit]; rfl
  | barred found exit failed nowhere => rw [outcome?_of_exit found exit]; rfl
  | unhandled found stage unhandled => rw [outcome?_of_unhandled found stage unhandled]; rfl
  | retried found stage settled again =>
      rw [outcome?_of_settled found settled, ← keyed.id_eq found]
      exact settled.outcomes_eq
  | followed found settled spent selected =>
      rw [outcome?_of_settled found settled, ← keyed.id_eq found, outcomes_follow]
      exact settled.outcomes_eq
  | redirected found settled spent deadEnd failed back =>
      rw [outcome?_of_settled found settled, ← keyed.id_eq found]
      exact settled.outcomes_eq
  | stranded found settled spent deadEnd nowhere =>
      rw [outcome?_of_settled found settled, ← keyed.id_eq found]
      exact settled.outcomes_eq

end Effects

/-- A visit that counts and leads on is not one to an exit. -/
theorem work_ne_exit_of_counts {p : Plan σ} {v : Visit σ} (paid : v.Paid p) {next : String}
    (leads : v.move = .goto next) (counts : v.counts p = true) :
    ∃ n, p.graph.node? v.id = some n ∧ n.work ≠ Work.exit := by
  obtain ⟨id, s, t, move, told⟩ := v
  simp only [Paid] at paid leads
  cases paid with
  | unknown | left | barred | unhandled | stranded => cases leads
  | held found exit failed back => simp [Visit.counts, isHeld, found, exit, failed] at counts
  | retried found stage settled again => exact ⟨_, found, settled.work_ne_exit⟩
  | followed found settled spent selected => exact ⟨_, found, settled.work_ne_exit⟩
  | redirected found settled spent deadEnd failed back => exact ⟨_, found, settled.work_ne_exit⟩

/-- A visit completes the run at an exit where no gate holds it back. -/
theorem exit_of_completed {p : Plan σ} {v : Visit σ} (paid : v.Paid p)
    (completed : v.move = .stop .completed) :
    ∃ n, p.graph.node? v.id = some n ∧ n.work = Work.exit ∧
      Gate.unsatisfied p.graph v.before.completed v.before.outcomes = [] ∧
      v.after.completed = v.before.completed ++ [n.id] ∧
      v.after.outcomes = v.before.outcomes := by
  obtain ⟨id, s, t, move, told⟩ := v
  simp only [Paid] at paid completed
  cases paid with
  | left found exit clear => exact ⟨_, found, exit, clear, rfl, rfl⟩
  | unknown | held | barred | unhandled | retried | followed | redirected | stranded =>
      cases completed

/-- Without a handler for its node a run stops and says so. -/
theorem stops_of_isUnhandled {p : Plan σ} {v : Visit σ} (paid : v.Paid p)
    (unhandled : v.isUnhandled p = true) :
    ∃ n, p.graph.node? v.id = some n ∧ v.move = .stop (.failed (.noHandler n.id n.work)) := by
  obtain ⟨id, s, t, move, told⟩ := v
  simp only [Paid] at paid
  cases paid with
  | unknown absent => simp [isUnhandled, absent] at unhandled
  | left found exit | held found exit | barred found exit =>
      simp [isUnhandled, found, Node.IsStage, exit] at unhandled
  | unhandled found stage none => exact ⟨_, found, rfl⟩
  | retried found stage settled again =>
      rw [isUnhandled_eq_false found settled] at unhandled
      cases unhandled
  | followed found settled | redirected found settled | stranded found settled =>
      rw [isUnhandled_eq_false found settled] at unhandled
      cases unhandled

/-- A run that stops for want of a handler stops at a node without one. -/
theorem isUnhandled_of_stops {p : Plan σ} {v : Visit σ} (paid : v.Paid p) {id kind : String}
    (stops : v.move = .stop (.failed (.noHandler id kind))) : v.isUnhandled p = true := by
  obtain ⟨id, s, t, move, told⟩ := v
  simp only [Paid] at paid stops
  cases paid with
  | unhandled found stage none => simp [isUnhandled, found, stage, none]
  | unknown | left | held | barred | retried | followed | redirected | stranded => cases stops

/-- In a valid graph a visit only leads on to a node. -/
theorem contains_of_goto {p : Plan σ} {v : Visit σ} (valid : p.graph.isValid = true)
    (keyed : p.graph.Keyed) (paid : v.Paid p) {next : String} (leads : v.move = .goto next) :
    p.graph.nodes.contains next = true := by
  obtain ⟨id, s, t, move, told⟩ := v
  simp only [Paid] at paid leads
  cases paid with
  | unknown | left | barred | unhandled | stranded => cases leads
  | held found exit failed back =>
      cases leads
      exact Gate.contains_of_retryTarget? back
  | retried found stage settled again =>
      cases leads
      exact Graph.contains_iff_node?.mpr ⟨_, keyed.node?_id found⟩
  | followed found settled spent selected =>
      cases leads
      have mem := Routing.mem_outgoing_iff.mp (Routing.mem_outgoing_of_select? selected)
      exact (Graph.contains_endpoints valid mem.1).2
  | redirected found settled spent deadEnd failed back =>
      cases leads
      exact Gate.contains_of_retryTarget? back

end Visit

/-! ### The last visit to a node -/

/-- The last of some visits that went to a node. -/
def lastVisit? (visits : List (Visit σ)) (id : String) : Option (Visit σ) :=
  (visits.filter (·.id == id)).getLast?

theorem lastVisit?_concat_self (visits : List (Visit σ)) (v : Visit σ) :
    lastVisit? (visits ++ [v]) v.id = some v := by
  have here : [v].filter (·.id == v.id) = [v] := by simp
  rw [lastVisit?, List.filter_append, here]
  exact List.getLast?_concat

theorem lastVisit?_concat_of_ne (visits : List (Visit σ)) {v : Visit σ} {id : String}
    (ne : v.id ≠ id) : lastVisit? (visits ++ [v]) id = lastVisit? visits id := by
  simp [lastVisit?, ne]

theorem id_eq_of_lastVisit? {visits : List (Visit σ)} {id : String} {v : Visit σ}
    (last : lastVisit? visits id = some v) : v.id = id := by
  have mem := List.mem_of_getLast? last
  exact beq_iff_eq.mp (List.mem_filter.mp mem).2

/-- The status that the last visit to a node came to. -/
def lastStatus? (p : Plan σ) (visits : List (Visit σ)) (id : String) : Option Status :=
  (lastVisit? visits id).bind fun v => (v.outcome? p).map (·.status)

/-- A node at which a visit comes to nothing has no status. -/
theorem lastStatus?_eq_none {p : Plan σ} (visits : List (Visit σ)) {v : Visit σ}
    (nothing : v.outcome? p = none) : lastStatus? p visits v.id = none := by
  cases last : lastVisit? visits v.id with
  | none => rw [lastStatus?, last]; rfl
  | some w =>
      have same := Visit.isSome_outcome?_congr (p := p) (id_eq_of_lastVisit? last)
      rw [nothing] at same
      have none : w.outcome? p = none := by simpa using same
      rw [lastStatus?, last, Option.bind_some, none]
      rfl

theorem lastStatus?_concat_self (p : Plan σ) (visits : List (Visit σ)) (v : Visit σ) :
    lastStatus? p (visits ++ [v]) v.id = (v.outcome? p).map (·.status) := by
  rw [lastStatus?, lastVisit?_concat_self, Option.bind_some]

theorem lastStatus?_concat_of_ne (p : Plan σ) (visits : List (Visit σ)) {v : Visit σ}
    {id : String} (ne : v.id ≠ id) :
    lastStatus? p (visits ++ [v]) id = lastStatus? p visits id := by
  rw [lastStatus?, lastVisit?_concat_of_ne visits ne, ← lastStatus?]

/-! ### What a trail amounts to -/

namespace Trail

variable {p : Plan σ} {s t : State σ} {id : String} {visits : List (Visit σ)} {move : Move}

/-- **A run of a valid graph stays in the graph**: every id it goes to is one of its nodes. -/
theorem contains (valid : p.graph.isValid = true) (keyed : p.graph.Keyed)
    (start : p.graph.nodes.contains id = true) (trail : Trail p s id visits t move) :
    (∀ v ∈ visits, p.graph.nodes.contains v.id = true) ∧
      ∀ next, move = .goto next → p.graph.nodes.contains next = true := by
  induction trail with
  | start =>
      refine ⟨fun v mem => absurd mem List.not_mem_nil, fun next here => ?_⟩
      cases here
      exact start
  | visit trail ih =>
      obtain ⟨visited, here⟩ := ih
      refine ⟨fun v mem => ?_, fun next leads => ?_⟩
      · rcases List.mem_append.mp mem with earlier | last
        · exact visited v earlier
        · rw [List.mem_singleton.mp last]
          exact here _ rfl
      · exact Visit.contains_of_goto valid keyed (Visit.paid_of p _ _) leads

/-- **The completed nodes are the visits that count**, in their order. -/
theorem completed_eq (keyed : p.graph.Keyed)
    (known : ∀ v ∈ visits, p.graph.nodes.contains v.id = true)
    (trail : Trail p s id visits t move) :
    t.completed = s.completed ++ (visits.filter (·.counts p)).map (·.id) := by
  induction trail with
  | start => exact (List.append_nil _).symm
  | @visit visits t here trail ih =>
      have earlier := ih fun v mem => known v (List.mem_append_left _ mem)
      have last := known (Visit.of p t here) (List.mem_append_right _ (List.mem_singleton_self _))
      obtain ⟨n, found⟩ := Graph.contains_iff_node?.mp last
      have step := Visit.completed_eq keyed (Visit.paid_of p t here) (by simp [found])
      have before : (Visit.of p t here).before.completed = t.completed := rfl
      rw [step, before, earlier, List.filter_append, List.map_append, List.append_assoc]
      congr 2
      split <;> simp [*]

/-- **The status of a node is what the last visit to it came to.** -/
theorem get?_outcomes (keyed : p.graph.Keyed) (fresh : s.outcomes = .empty)
    (trail : Trail p s id visits t move) (key : String) :
    t.outcomes.get? key = lastStatus? p visits key := by
  induction trail with
  | start => rw [fresh]; rfl
  | @visit visits t here trail ih =>
      rw [Visit.outcomes_eq keyed (Visit.paid_of p t here)]
      by_cases same : here = key
      · subst same
        refine Eq.trans ?_ (lastStatus?_concat_self p visits (Visit.of p t here)).symm
        -- where a visit comes to nothing, the earlier ones to the same node did not either
        cases outcome : (Visit.of p t here).outcome? p with
        | none => exact ih.trans (lastStatus?_eq_none visits outcome)
        | some o => exact Table.get?_insert_self t.outcomes here o.status
      · rw [lastStatus?_concat_of_ne p visits (v := Visit.of p t here) same, ← ih]
        cases (Visit.of p t here).outcome? p with
        | none => rfl
        | some o => exact Table.get?_insert_of_ne t.outcomes same o.status

/-- While a run goes on, no exit is among the completed nodes. -/
theorem work_ne_exit_of_mem_completed (keyed : p.graph.Keyed) (fresh : s.completed = [])
    (known : ∀ v ∈ visits, p.graph.nodes.contains v.id = true) {here : String}
    (trail : Trail p s id visits t (.goto here)) {key : String} (mem : key ∈ t.completed) :
    ∃ n, p.graph.node? key = some n ∧ n.work ≠ Work.exit := by
  rw [trail.completed_eq keyed known, fresh, List.nil_append] at mem
  obtain ⟨v, counted, rfl⟩ := List.mem_map.mp mem
  obtain ⟨visited, counts⟩ := List.mem_filter.mp counted
  obtain ⟨next, leads⟩ := trail.exists_goto_of_mem visited
  exact Visit.work_ne_exit_of_counts (trail.paid_of_mem visited) leads counts

/-- A run completes by leaving at an exit where no gate holds it back. -/
theorem exists_exit (trail : Trail p s id visits t (.stop .completed)) :
    ∃ front t' here n, visits = front ++ [Visit.of p t' here] ∧
      Trail p s id front t' (.goto here) ∧ p.graph.node? here = some n ∧ n.work = Work.exit ∧
      Gate.unsatisfied p.graph t'.completed t'.outcomes = [] ∧
      t.completed = t'.completed ++ [n.id] ∧ t.outcomes = t'.outcomes := by
  generalize completed : Move.stop .completed = move at trail
  cases trail with
  | start => cases completed
  | @visit front t' here trail =>
      obtain ⟨n, found, exit, clear, listed, kept⟩ :=
        Visit.exit_of_completed (Visit.paid_of p t' here) completed.symm
      exact ⟨front, t', here, n, rfl, trail, found, exit, clear, listed, kept⟩

end Trail

/-- A completed run has stopped, and in the state in which its trail has. -/
theorem exists_trail_of_completed {p : Plan σ} {memory : σ}
    (completed : (execute p memory).ending = .completed) :
    ∃ start, p.graph.starts = [start] ∧ p.graph.isValid = true ∧
      Trail p (opening p memory) start.id (visits p memory) (execute p memory).state
        (.stop .completed) := by
  cases valid : p.graph.isValid with
  | false =>
      rw [(execute_of_not_isValid memory valid).1] at completed
      cases completed
  | true =>
      obtain ⟨start, t, move, starts, trail, eq⟩ := exists_trail_of_isValid memory valid
      rw [eq] at completed ⊢
      cases move with
      | goto next => cases completed
      | stop ending =>
          obtain rfl : ending = .completed := completed
          exact ⟨start, starts, rfl, trail⟩

/-! ### A run of a plan -/

/-- A text is drafted and reviewed until the review is passed. -/
def reviewGraph : Graph :=
  ⟨"review", .empty,
    .ofList [
      ("start", ⟨"start", .ofList [("shape", .text "Mdiamond")]⟩),
      ("draft", ⟨"draft", .ofList [("max_retries", .integer 1)]⟩),
      ("review", ⟨"review", .ofList [("shape", .text "hexagon"), ("goal_gate", .boolean true),
        ("retry_target", .text "draft")]⟩),
      ("done", ⟨"done", .ofList [("shape", .text "Msquare")]⟩)],
    [⟨"start", "draft", .empty⟩, ⟨"draft", "review", .empty⟩,
      ⟨"review", "done", .ofList [("label", .text "ship")]⟩]⟩

/-- A handler that fails at its first and at its third call. -/
def moody : Handler Nat :=
  ⟨"codergen", fun _ _ context calls =>
    (.ok (.ofStatus (if calls = 0 ∨ calls = 2 then .fail else .success)), context, calls + 1)⟩

/-- A run that tries the draft again, is held back by the review, and then completes. -/
def reviewPlan : Plan Nat :=
  ⟨"run", reviewGraph, .ofList [("codergen", moody), ("wait.human", moody)], 100, .none⟩

end Run

end Workflow
