import Mathlib.Data.List.Chain
import Workflow.Proofs.Run.Visit

/-!
# Trails

A run counts its visits down and threads its state through them.  A trail is the same
run with every visit written down: which ids it went to, in which states, and where it
stands now.  Facts about runs are proved by induction on trails, visit by visit, and
carried over to the run by `exists_trail_of_isValid`.

## Main Definitions

* `Run.visits` — the visits of a run, oldest first.
* `Run.Trail` — visits that follow one another, with the state and move they end in.
* `Run.conclude` — what a run ends with after the last visit of its trail.

## Main Statements

* `Run.exists_trail_walk` — a walk follows the trail of its visits.
* `Run.exists_trail_of_isValid` — so does a run of a valid graph, from its only start.
* `Run.execute_eq_conclude`, `Run.length_visits` — how the visits of a run end.
* `Run.Trail.isChain` — each visit of a trail goes on to the next.

## Design Notes

A trail grows at its end, like the record of a run.  Its last visit need not lead on: the
move of a trail says whether the run has stopped, so one step lemma for each fact
covers the visits in the middle of a run and the one that ends it.
-/

namespace Workflow.Run

variable {σ : Type}

/-! ### The visits of a run -/

/-- The visits of `walk`, oldest first. -/
def visitsFrom (p : Plan σ) : Nat → State σ → String → List (Visit σ)
  | 0, _, _ => []
  | remaining + 1, s, id =>
    Visit.of p s id ::
      match (Visit.of p s id).move with
      | .goto next => visitsFrom p remaining (Visit.of p s id).after next
      | .stop _ => []

/-- The state in which a run of a valid graph begins to walk. -/
def opening (p : Plan σ) (memory : σ) : State σ :=
  ({ State.initial memory with context := seed p } : State σ).emit
    (.pipelineStarted p.graph.goal p.graph.nodes.size)

/-- The visits of `execute`, oldest first. -/
def visits (p : Plan σ) (memory : σ) : List (Visit σ) :=
  if p.graph.isValid then
    match p.graph.start? with
    | none => []
    | some start => visitsFrom p p.limit (opening p memory) start.id
  else []

/-! ### Trails -/

/-- The visits that lead from the node `id` and the state `s` to a state and a move. -/
inductive Trail (p : Plan σ) (s : State σ) (id : String) :
    List (Visit σ) → State σ → Move → Prop
  /-- Nothing is visited yet. -/
  | start : Trail p s id [] s (.goto id)
  /-- One more node is visited. -/
  | visit {visits : List (Visit σ)} {t : State σ} {here : String}
      (trail : Trail p s id visits t (.goto here)) :
      Trail p s id (visits ++ [Visit.of p t here]) (Visit.of p t here).after
        (Visit.of p t here).move

namespace Trail

variable {p : Plan σ} {s t : State σ} {id : String} {visits : List (Visit σ)} {move : Move}

/-- A visit in front of a trail. -/
theorem cons {next : String} (leads : (Visit.of p s id).move = .goto next)
    (trail : Trail p (Visit.of p s id).after next visits t move) :
    Trail p s id (Visit.of p s id :: visits) t move := by
  induction trail with
  | start =>
      have first := Trail.visit (.start : Trail p s id [] s (.goto id))
      rw [leads] at first
      exact first
  | visit _ ih => exact .visit ih

/-- The last visit of a trail leaves the state and the move of the trail. -/
theorem eq_of_mem_getLast? (trail : Trail p s id visits t move) {v : Visit σ}
    (last : v ∈ visits.getLast?) : v.after = t ∧ v.move = move := by
  cases trail with
  | start => simp at last
  | visit =>
      rw [List.getLast?_concat, Option.mem_some_iff] at last
      subst last
      exact ⟨rfl, rfl⟩

/-- A trail that has stopped has a last visit. -/
theorem exists_getLast? {ending : Ending} (trail : Trail p s id visits t (.stop ending)) :
    ∃ v, visits.getLast? = some v ∧ v.after = t ∧ v.move = .stop ending := by
  generalize stopped : Move.stop ending = move at trail
  cases trail with
  | start => cases stopped
  | visit => exact ⟨_, List.getLast?_concat, rfl, rfl⟩

/-- The visits of a trail are paid as the plan says. -/
theorem paid_of_mem (trail : Trail p s id visits t move) {v : Visit σ} (mem : v ∈ visits) :
    v.Paid p := by
  induction trail with
  | start => exact absurd mem List.not_mem_nil
  | visit _ ih =>
      rcases List.mem_append.mp mem with earlier | last
      · exact ih earlier
      · rw [List.mem_singleton.mp last]
        exact Visit.paid_of p _ _

/-- While a run goes on, all of its visits have led on. -/
theorem exists_goto_of_mem {here : String} (trail : Trail p s id visits t (.goto here))
    {v : Visit σ} (mem : v ∈ visits) : ∃ next, v.move = .goto next := by
  generalize onward : Move.goto here = move at trail
  induction trail generalizing here with
  | start => exact absurd mem List.not_mem_nil
  | visit _ ih =>
      rcases List.mem_append.mp mem with earlier | last
      · exact ih earlier rfl
      · rw [List.mem_singleton.mp last]
        exact ⟨here, onward.symm⟩

/-- A visit that stops is the last one. -/
theorem getLast?_of_stop (trail : Trail p s id visits t move) {v : Visit σ} (mem : v ∈ visits)
    {ending : Ending} (stops : v.move = .stop ending) : visits.getLast? = some v := by
  cases trail with
  | start => exact absurd mem List.not_mem_nil
  | visit trail =>
      rcases List.mem_append.mp mem with earlier | last
      · obtain ⟨next, leads⟩ := trail.exists_goto_of_mem earlier
        rw [stops] at leads
        cases leads
      · rw [List.mem_singleton.mp last]
        exact List.getLast?_concat

/-- Each visit of a trail goes on to the next and leaves it the state. -/
theorem isChain (trail : Trail p s id visits t move) :
    visits.IsChain fun v w => v.move = .goto w.id ∧ v.after = w.before := by
  induction trail with
  | start => exact List.isChain_nil
  | visit trail ih =>
      -- the visit that is added goes where the last one so far has led
      refine List.isChain_append.mpr ⟨ih, List.isChain_singleton _, fun v last w first => ?_⟩
      obtain ⟨after, move⟩ := trail.eq_of_mem_getLast? last
      rw [List.head?_singleton, Option.mem_some_iff] at first
      subst first
      exact ⟨move, after⟩

/-- A run only adds to its events: those before and during a visit are the first it has told. -/
theorem events_prefix (trail : Trail p s id visits t move) {v : Visit σ} (mem : v ∈ visits) :
    v.before.events ++ v.events <+: t.events := by
  induction trail with
  | start => exact absurd mem List.not_mem_nil
  | @visit visits t here trail ih =>
      have course : Course p t here _ _ _ := Visit.paid_of p t here
      rw [course.events_eq]
      rcases List.mem_append.mp mem with earlier | last
      · exact (ih earlier).trans (List.prefix_append _ _)
      · rw [List.mem_singleton.mp last]
        exact List.prefix_rfl

end Trail

/-! ### Runs follow trails -/

/-- What a run ends with after the last visit of its trail: either the trail has stopped, or the
visits are used up. -/
def conclude (p : Plan σ) (t : State σ) : Move → Result σ
  | .goto _ => ⟨.failed .limitReached, t.emit (Reason.limitReached.event p.graph.goal)⟩
  | .stop ending => ⟨ending, t⟩

theorem walk_succ (p : Plan σ) (remaining : Nat) (s : State σ) (id : String) :
    walk p (remaining + 1) s id =
      match (Visit.of p s id).move with
      | .goto next => walk p remaining (Visit.of p s id).after next
      | .stop ending => ⟨ending, (Visit.of p s id).after⟩ := by
  rw [walk, Visit.of]
  rcases visit p s id with ⟨t, next | ending⟩
  · rfl
  · rfl

/-- **A walk follows the trail of its visits.** -/
theorem exists_trail_walk (p : Plan σ) (remaining : Nat) (s : State σ) (id : String) :
    ∃ t move, Trail p s id (visitsFrom p remaining s id) t move ∧
      walk p remaining s id = conclude p t move := by
  induction remaining generalizing s id with
  | zero => exact ⟨s, .goto id, .start, rfl⟩
  | succ remaining ih =>
      rw [walk_succ, visitsFrom]
      cases leads : (Visit.of p s id).move with
      | goto next =>
          -- the rest of the walk has a trail, and this visit goes in front of it
          obtain ⟨t, move, trail, eq⟩ := ih (Visit.of p s id).after next
          exact ⟨t, move, trail.cons leads, eq⟩
      | stop ending =>
          have trail := Trail.visit (.start : Trail p s id [] s (.goto id))
          rw [leads] at trail
          exact ⟨_, _, trail, rfl⟩

theorem conclude_completed (p : Plan σ) (t : State σ) (move : Move) :
    (conclude p t move).state.completed = t.completed := by
  cases move <;> rfl

/-- To conclude a run is to say at most that its visits are used up. -/
theorem exists_conclude_events (p : Plan σ) (t : State σ) (move : Move) :
    ∃ told, (conclude p t move).state.events = t.events ++ told ∧
      (told = [] ∨ told = [Reason.limitReached.event p.graph.goal]) := by
  cases move with
  | goto next => exact ⟨_, rfl, .inr rfl⟩
  | stop ending => exact ⟨[], (List.append_nil _).symm, .inl rfl⟩

/-- A run of a graph that is not valid visits nothing. -/
theorem execute_of_not_isValid {p : Plan σ} (memory : σ) (invalid : p.graph.isValid = false) :
    execute p memory = ⟨.failed (.invalid p.graph.errorMessage), .initial memory⟩ ∧
      visits p memory = [] := by
  simp [execute, visits, invalid]

/-- **A run of a valid graph follows the trail of its visits**, from the only start on. -/
theorem exists_trail_of_isValid {p : Plan σ} (memory : σ) (valid : p.graph.isValid = true) :
    ∃ start t move, p.graph.starts = [start] ∧
      Trail p (opening p memory) start.id (visits p memory) t move ∧
      execute p memory = conclude p t move := by
  obtain ⟨start, starts⟩ := Graph.exists_starts_eq_singleton valid
  have first : p.graph.start? = some start := by rw [Graph.start?, starts, List.head?_cons]
  obtain ⟨t, move, trail, eq⟩ := exists_trail_walk p p.limit (opening p memory) start.id
  refine ⟨start, t, move, starts, ?_, ?_⟩
  · simpa only [visits, valid, if_true, first] using trail
  · rw [← eq]
    simp only [execute, valid, if_true, first]
    rfl

/-- The run of a valid graph ends in what its last visit leaves. -/
theorem execute_eq_conclude {p : Plan σ} {memory : σ} (valid : p.graph.isValid = true)
    {v : Visit σ} (last : (visits p memory).getLast? = some v) :
    execute p memory = conclude p v.after v.move := by
  obtain ⟨start, t, move, -, trail, eq⟩ := exists_trail_of_isValid memory valid
  obtain ⟨rfl, rfl⟩ := trail.eq_of_mem_getLast? last
  exact eq

/-- Visits go on until one of them stops or they are used up. -/
theorem length_visitsFrom (p : Plan σ) (remaining : Nat) (s : State σ) (id : String) :
    (visitsFrom p remaining s id).length = remaining ∨
      ∃ v ending, (visitsFrom p remaining s id).getLast? = some v ∧ v.move = .stop ending := by
  induction remaining generalizing s id with
  | zero => exact .inl rfl
  | succ remaining ih =>
      rw [visitsFrom]
      cases leads : (Visit.of p s id).move with
      | stop ending => exact .inr ⟨_, ending, rfl, leads⟩
      | goto next =>
          rcases ih (Visit.of p s id).after next with used | ⟨v, ending, last, stops⟩
          · exact .inl (congrArg (· + 1) used)
          · refine .inr ⟨v, ending, ?_, stops⟩
            rw [List.getLast?_cons, last]
            rfl

theorem length_visits {p : Plan σ} (memory : σ) (valid : p.graph.isValid = true) :
    (visits p memory).length = p.limit ∨
      ∃ v ending, (visits p memory).getLast? = some v ∧ v.move = .stop ending := by
  obtain ⟨start, starts⟩ := Graph.exists_starts_eq_singleton valid
  have first : p.graph.start? = some start := by rw [Graph.start?, starts, List.head?_cons]
  simp only [visits, valid, if_true, first]
  exact length_visitsFrom p p.limit (opening p memory) start.id

/-- The first visit goes to the start, if a visit is allowed at all. -/
theorem head?_visits {p : Plan σ} {memory : σ} (valid : p.graph.isValid = true) {start : Node}
    (starts : p.graph.starts = [start]) :
    (visits p memory).head?.map (·.id) = if p.limit = 0 then none else some start.id := by
  have first : p.graph.start? = some start := by rw [Graph.start?, starts, List.head?_cons]
  simp only [visits, valid, if_true, first]
  cases p.limit with
  | zero => rfl
  | succ limit => rfl

end Workflow.Run
