import Workflow.Proofs.Run.WayBack

/-!
# The limit of a run

A run may visit so many nodes and no more.  The limit is the only thing in which two runs
of one plan can differ here.  A run that stops before its limit does not notice it, and a
run that is cut short has gone, visit for visit, the way of any run with a higher limit.

## Main Definitions

* `Run.resume` — the rest of a walk.

## Main Statements

* `Run.Trail.walk_add` — a walk that is allowed more visits than a trail goes along it.
* `Run.failure?_eq_limit_iff` — when a run says that its visits are used up.
* `Run.limit_raised` — what a higher limit changes, and what it does not.

## Design Notes

The visits of two runs are never compared one by one.  The lower limit gives a trail, and
the walk with the higher limit is computed along that trail, up to where it stands at its
end.  Nothing is asked of the graph: if it is not valid, there are no visits to limit.
-/

namespace Workflow

/-! ### What a run says at its end -/

/-- No finding is worded like the limit of a run. -/
theorem Finding.exists_head?_message (f : Finding) :
    ∃ c, f.message.toList.head? = some c ∧ c ≠ 'M' := by
  unfold message
  cases f <;> simp [String.toList_append]

/-- The errors of a graph are not worded like the limit of a run: they begin with the wording of the
first of them. -/
theorem Graph.exists_head?_errorMessage {g : Graph} (invalid : g.isValid = false) :
    ∃ c, g.errorMessage.toList.head? = some c ∧ c ≠ 'M' := by
  cases errors : g.errors with
  | nil => simp [isValid, errors] at invalid
  | cons f others =>
      obtain ⟨c, front, ne⟩ := f.exists_head?_message
      refine ⟨c, ?_, ne⟩
      cases others with
      | nil => simpa [errorMessage, errors] using front
      | cons second others => simp [errorMessage, errors, String.toList_append, front]

namespace Run

variable {σ : Type} {p : Plan σ}

/-- No other failure of a walk is worded like its limit. -/
theorem Reason.eq_limitReached_of_wording {reason : Reason}
    (walked : reason.Underway ∨ ∃ id, reason = .nodeNotFound id)
    (worded : reason.message = "Max iterations exceeded") : reason = .limitReached := by
  -- the first character tells the messages apart
  have front : reason.message.toList.head? = some 'M' := by rw [worded]; rfl
  unfold message at front
  rcases walked with underway | ⟨id, rfl⟩
  · cases underway with
    | limitReached => rfl
    | gatesUnsatisfied | noHandler | deadEnd => simp [String.toList_append] at front
  · simp [String.toList_append] at front

/-- No visit says that the visits are used up. -/
theorem Visit.not_stop_limitReached {v : Visit σ} (paid : v.Paid p) :
    v.move ≠ .stop (.failed .limitReached) := by
  intro stops
  obtain ⟨id, s, t, move, told⟩ := v
  simp only [Paid] at paid stops
  cases paid with
  | unknown | left | held | barred | unhandled | retried | followed | redirected | stranded =>
      cases stops

/-- A walk says that its visits are used up exactly when the last of them leads on. -/
theorem Trail.conclude_eq_limitReached_iff {s t : State σ} {id : String}
    {visits : List (Visit σ)} {move : Move} (trail : Trail p s id visits t move) :
    (conclude p t move).ending = .failed .limitReached ↔ ∃ here, move = .goto here := by
  cases move with
  | goto here => exact iff_of_true rfl ⟨here, rfl⟩
  | stop ending =>
      refine iff_of_false (fun used => ?_) (by simp)
      obtain ⟨v, last, -, stops⟩ := trail.exists_getLast?
      obtain rfl : ending = .failed .limitReached := used
      exact Visit.not_stop_limitReached (trail.paid_of_mem (List.mem_of_getLast? last)) stops

/-- **A run says that its visits are used up when they are**, and in no other case. -/
theorem failure?_eq_limit_iff (memory : σ) :
    (execute p memory).ending.failure? = some "Max iterations exceeded" ↔
      (execute p memory).ending = .failed .limitReached := by
  constructor
  · intro failure
    obtain ⟨reason, failed, worded⟩ := Ending.exists_reason_of_failure? failure
    rw [failed]
    cases valid : p.graph.isValid with
    | false =>
        -- the run fails with the errors of the graph
        obtain ⟨c, front, ne⟩ := Graph.exists_head?_errorMessage valid
        rw [(execute_of_not_isValid memory valid).1] at failed
        cases failed
        have front : (Reason.invalid p.graph.errorMessage).message.toList.head? = some c := front
        rw [worded] at front
        exact absurd (Option.some.inj front).symm ne
    | true =>
        obtain ⟨start, t, move, -, trail, eq⟩ := exists_trail_of_isValid memory valid
        rw [eq] at failed
        rcases trail.limitReached_or_stops failed with rfl | ⟨v, mem, stops⟩
        · rfl
        · have walked := Visit.underway_or_nodeNotFound_of_stop (trail.paid_of_mem mem) stops
          rw [Reason.eq_limitReached_of_wording walked worded]
  · intro used
    rw [used]
    rfl

/-! ### Along a trail -/

/-- A run only adds to its events. -/
theorem Trail.events_prefix_of_start {s t : State σ} {id : String} {visits : List (Visit σ)}
    {move : Move} (trail : Trail p s id visits t move) : s.events <+: t.events := by
  induction trail with
  | start => exact List.prefix_rfl
  | @visit visits t here trail ih =>
      have course : Course p t here _ _ _ := Visit.paid_of p t here
      rw [course.events_eq]
      exact ih.trans (List.prefix_append _ _)

/-- A walk only adds to the events, wherever it begins. -/
theorem events_prefix_walk (p : Plan σ) (remaining : Nat) (s : State σ) (id : String) :
    s.events <+: (walk p remaining s id).state.events := by
  obtain ⟨t, move, trail, eq⟩ := exists_trail_walk p remaining s id
  obtain ⟨told, events, -⟩ := exists_conclude_events p t move
  rw [eq, events]
  exact trail.events_prefix_of_start.trans (List.prefix_append _ _)

/-- The rest of a walk behind a move, with the visits that are left. -/
def resume (p : Plan σ) (left : Nat) (t : State σ) : Move → Result σ
  | .goto here => walk p left t here
  | .stop ending => ⟨ending, t⟩

/-- **A walk goes along every trail from its beginning**, if it is allowed that many visits, and
spends on the way from the end of the trail what is left of them. -/
theorem Trail.walk_add {s t : State σ} {id : String} {visits : List (Visit σ)} {move : Move}
    (trail : Trail p s id visits t move) (left : Nat) :
    walk p (visits.length + left) s id = resume p left t move := by
  induction trail generalizing left with
  | start =>
      rw [List.length_nil, Nat.zero_add]
      rfl
  | @visit visits t here trail ih =>
      -- the last visit of the trail is the first that the walk pays after the others
      have last : (visits ++ [Visit.of p t here]).length + left = visits.length + (left + 1) := by
        simp only [List.length_append, List.length_singleton]
        omega
      rw [last, ih (left + 1)]
      exact walk_succ p left t here

/-- No walk is longer than it is allowed to be. -/
theorem length_visitsFrom_le (p : Plan σ) (remaining : Nat) (s : State σ) (id : String) :
    (visitsFrom p remaining s id).length ≤ remaining := by
  induction remaining generalizing s id with
  | zero => exact Nat.zero_le _
  | succ remaining ih =>
      rw [visitsFrom, List.length_cons]
      split
      · exact Nat.succ_le_succ (ih _ _)
      · exact Nat.succ_le_succ (Nat.zero_le _)

/-- A walk that leads on at its end has paid all the visits it was allowed. -/
theorem length_visitsFrom_of_goto {s t : State σ} {id here : String} {remaining : Nat}
    (trail : Trail p s id (visitsFrom p remaining s id) t (.goto here)) :
    (visitsFrom p remaining s id).length = remaining := by
  rcases length_visitsFrom p remaining s id with used | ⟨v, ending, last, stops⟩
  · exact used
  · obtain ⟨-, leads⟩ := trail.eq_of_mem_getLast? last
    rw [stops] at leads
    cases leads

/-! ### Plans that differ in their limit -/

/-- What a visit does has nothing to do with how many others are allowed. -/
theorem visit_limit (p : Plan σ) (limit : Nat) : visit { p with limit } = visit p := rfl

theorem walk_limit (p : Plan σ) (limit remaining : Nat) (s : State σ) (id : String) :
    walk { p with limit } remaining s id = walk p remaining s id := by
  induction remaining generalizing s id with
  | zero => rfl
  | succ remaining ih =>
      simp only [walk, visit_limit, ih]

theorem visitsFrom_limit (p : Plan σ) (limit remaining : Nat) (s : State σ) (id : String) :
    visitsFrom { p with limit } remaining s id = visitsFrom p remaining s id := by
  have same : Visit.of { p with limit } = Visit.of p := by
    funext s id
    simp only [Visit.of, visit_limit]
  induction remaining generalizing s id with
  | zero => rfl
  | succ remaining ih =>
      simp only [visitsFrom, same, ih]

/-- The runs of a valid graph all begin to walk in one state and at one node, whatever their
limit. -/
theorem exists_walk_of_isValid (memory : σ) (valid : p.graph.isValid = true) :
    ∃ start, ∀ limit,
      execute { p with limit } memory = walk p limit (opening p memory) start ∧
      visits { p with limit } memory = visitsFrom p limit (opening p memory) start := by
  obtain ⟨start, starts⟩ := Graph.exists_starts_eq_singleton valid
  have first : p.graph.start? = some start := by rw [Graph.start?, starts, List.head?_cons]
  refine ⟨start.id, fun limit => ⟨?_, ?_⟩⟩
  · simp only [execute, valid, if_true, first, walk_limit]
    rfl
  · simp only [visits, valid, if_true, first, visitsFrom_limit]
    rfl

/-- **A higher limit never changes a finished run.**  A run that does not say that its visits are
used up ends with a higher limit exactly as it does, and in the same state: the context, the events
and whatever else it has recorded.  A run that says so has paid all the visits it was allowed, and
what it told before the last of its events is what a run with a higher limit tells first. -/
theorem limit_raised (p : Plan σ) (memory : σ) {low high : Nat} (le : low ≤ high) :
    ((execute { p with limit := low } memory).ending.failure? ≠ some "Max iterations exceeded" →
      execute { p with limit := high } memory = execute { p with limit := low } memory) ∧
    ((execute { p with limit := low } memory).ending.failure? = some "Max iterations exceeded" →
      (visits { p with limit := low } memory).length = low ∧
      ∃ told, (execute { p with limit := low } memory).state.events =
          told ++ [.pipelineFailed p.graph.goal "Max iterations exceeded (possible infinite loop)"] ∧
        told <+: (execute { p with limit := high } memory).state.events) := by
  rw [Ne, failure?_eq_limit_iff]
  cases valid : p.graph.isValid with
  | false =>
      -- no run of the graph visits a node
      have refused : ∀ limit, execute { p with limit } memory =
          ⟨.failed (.invalid p.graph.errorMessage), .initial memory⟩ := fun limit =>
        (execute_of_not_isValid (p := { p with limit }) memory valid).1
      rw [refused low, refused high]
      exact ⟨fun _ => rfl, fun used => by cases used⟩
  | true =>
      obtain ⟨start, runs⟩ := exists_walk_of_isValid memory valid
      rw [(runs low).1, (runs low).2, (runs high).1]
      obtain ⟨t, move, trail, eq⟩ := exists_trail_walk p low (opening p memory) start
      -- what is left of the higher limit when the lower one ends the trail
      obtain ⟨left, rfl⟩ : ∃ left, high =
          (visitsFrom p low (opening p memory) start).length + left :=
        Nat.exists_eq_add_of_le ((length_visitsFrom_le p low _ start).trans le)
      have longer := trail.walk_add left
      rw [eq, trail.conclude_eq_limitReached_iff]
      cases move with
      | stop ending => exact ⟨fun _ => longer, by simp⟩
      | goto here =>
          refine ⟨fun finished => absurd ⟨here, rfl⟩ finished, fun _ => ?_⟩
          refine ⟨length_visitsFrom_of_goto trail, t.events, rfl, ?_⟩
          rw [longer]
          exact events_prefix_walk p left t here

/-- Five visits are too few for the review of a text; eight are enough, and more change nothing. -/
theorem reviewPlan_limit_raised :
    ((5 ≤ 100 ∧ 8 ≤ 100) ∧
      (execute { reviewPlan with limit := 5 } 0).ending.failure? = some "Max iterations exceeded") ∧
    (visits { reviewPlan with limit := 5 } 0).length = 5 ∧
    (execute { reviewPlan with limit := 5 } 0).state.events.dropLast <+:
      (execute { reviewPlan with limit := 100 } 0).state.events ∧
    execute { reviewPlan with limit := 100 } 0 = execute { reviewPlan with limit := 8 } 0 := by
  have cut : (execute { reviewPlan with limit := 5 } 0).ending.failure? =
      some "Max iterations exceeded" := by decide +kernel
  have finished : (execute { reviewPlan with limit := 8 } 0).ending.failure? ≠
      some "Max iterations exceeded" := by decide +kernel
  have five : 5 ≤ 100 := by decide
  have eight : 8 ≤ 100 := by decide
  obtain ⟨paid, told, events, front⟩ := (limit_raised reviewPlan 0 five).2 cut
  refine ⟨⟨⟨five, eight⟩, cut⟩, paid, ?_, (limit_raised reviewPlan 0 eight).1 finished⟩
  rw [events, List.dropLast_concat]
  exact front

end Run

end Workflow
