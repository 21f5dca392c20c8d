import Workflow.Proofs.Run.Record

/-!
# The budget of retries

A node is tried again in place while its budget lasts.  The budget belongs to the node,
not to a visit: it is shared by all visits to the node, whichever way they came about, and
nothing gives it back.  What is left of it is kept in a table of 32-bit counters; this
file proves that the counters are the events themselves, counted.

## Main Definitions

* `Run.retryCounts` — the numbers of the retries of a node, as they were told.
* `Run.Ledger` — the counters agree with what was told, and with the budgets.

## Main Statements

* `Run.Trail.ledger` — they agree throughout a run.
* `Run.retries_within_budget` — when a node is tried again, and which retries are told.

## Design Notes

The ledger speaks about all nodes at once.  A retry of one node is a step at which the
counters of all others, and what was told about them, stay as they are.
-/

namespace Workflow.Run

variable {σ : Type}

/-! ### The retries that were told -/

/-- The number of a retry, if an event tells about one of this node. -/
def retryCount? (id : String) : Event.Kind → Option Nat
  | .stageRetrying key _ count _ => if key = id then some count.toNat else none
  | _ => none

/-- The numbers of the retries of a node, oldest first. -/
def retryCounts (id : String) (events : List Event.Kind) : List Nat :=
  events.filterMap (retryCount? id)

theorem retryCounts_append (id : String) (events told : List Event.Kind) :
    retryCounts id (events ++ told) = retryCounts id events ++ retryCounts id told :=
  List.filterMap_append

/-- Where no retry is told about, there is none to count. -/
theorem retryCounts_eq_nil (id : String) {told : List Event.Kind}
    (quiet : told.any (·.isRetry) = false) : retryCounts id told = [] := by
  refine List.filterMap_eq_nil_iff.mpr fun k mem => ?_
  have none := List.any_eq_false.mp quiet k mem
  cases k with
  | stageRetrying => exact absurd rfl none
  | _ => rfl

/-- A retry is told with the new value of the counter. -/
theorem retryCounts_retryEvent (p : Plan σ) (s : State σ) (n : Node) (key : String) :
    retryCounts key [retryEvent p s n] =
      if n.id = key then [(s.retriesOf n.id + 1).toNat] else [] := by
  unfold retryCounts retryCount? retryEvent
  split <;> simp [*]

/-! ### Counters -/

/-- A counter below a bound can be raised without running over. -/
theorem toNat_add_one {count most : UInt32} (left : count < most) :
    (count + 1).toNat = count.toNat + 1 := by
  have bound := most.toNat_lt
  have left := UInt32.lt_iff_toNat_lt.mp left
  rw [UInt32.toNat_add]
  exact Nat.mod_eq_of_lt (by show count.toNat + 1 < 2 ^ 32; omega)

/-- What a retry does to the counters. -/
theorem retriesOf_of_retries_eq {s t : State σ} {id : String} {value : UInt32}
    (retries : t.retries = s.retries.insert id value) (key : String) :
    t.retriesOf key = if id = key then value else s.retriesOf key := by
  rw [State.retriesOf, retries]
  by_cases same : id = key
  · subst same
    rw [Table.get?_insert_self, if_pos rfl]
    rfl
  · rw [Table.get?_insert_of_ne _ same, if_neg same]
    rfl

/-! ### One visit -/

/-- Work at a node does not touch the counters. -/
theorem Settled.retriesOf_eq {p : Plan σ} {s t : State σ} {n : Node} {id : String}
    {outcome : Outcome} {told : List Event.Kind}
    (settled : Settled p (arrive s id) n t outcome told) (key : String) :
    t.retriesOf key = s.retriesOf key := by
  rw [State.retriesOf, settled.retries_eq]
  rfl

/-- **A visit either tries its node again or leaves the retries alone.**  If it does try again, the
budget was not spent, the counter of the node goes up by one, and its new value is told. -/
theorem Course.retries_cases {p : Plan σ} {s t : State σ} {id : String} {move : Move}
    {told : List Event.Kind} (course : Course p s id t move told) :
    (∃ n work, p.graph.node? id = some n ∧ move = .goto n.id ∧
      s.retriesOf n.id < Retry.budget p.graph n ∧
      t.retries = s.retries.insert n.id (s.retriesOf n.id + 1) ∧
      told = work ++ [retryEvent p s n] ∧ work.any (·.isRetry) = false) ∨
    (told.any (·.isRetry) = false ∧ t.retries = s.retries) := by
  cases course with
  | unknown | left | held | barred | unhandled => exact .inr ⟨rfl, rfl⟩
  | @retried n t outcome told found stage settled again =>
      have left : t.retriesOf n.id < Retry.budget p.graph n :=
        of_decide_eq_true (Bool.and_eq_true_iff.mp again).2
      rw [settled.retriesOf_eq] at left
      refine .inl ⟨n, told, found, rfl, left, ?_, rfl, settled.any_isRetry⟩
      show t.retries.insert n.id (t.retriesOf n.id + 1) = _
      rw [settled.retriesOf_eq, settled.retries_eq]
      rfl
  | followed found settled spent selected =>
      refine .inr ⟨settled.any_isRetry_append_followEvents _, ?_⟩
      rw [retries_follow]
      exact settled.retries_eq
  | redirected found settled => exact .inr ⟨settled.any_isRetry, settled.retries_eq⟩
  | stranded found settled =>
      exact .inr ⟨settled.any_isRetry_append_event _ _, settled.retries_eq⟩

namespace Visit

variable {p : Plan σ} {v : Visit σ} {n : Node}

/-- **A stage is tried again exactly when it failed or asked for it, while its budget lasts.** -/
theorem isRetried_iff (keyed : p.graph.Keyed) (paid : v.Paid p)
    (found : p.graph.node? v.id = some n) (stage : n.IsStage) {outcome : Outcome}
    (worked : v.outcome? p = some outcome) :
    v.isRetried = true ↔ outcome.status.wantsRetry = true ∧
      v.before.retriesOf n.id < Retry.budget p.graph n := by
  obtain ⟨id, s, t, move, told⟩ := v
  simp only [Paid] at paid found
  -- where the run leads on or stops, the budget was spent or nobody wanted a retry
  have spent : ∀ {m t o told}, p.graph.node? id = some m → Settled p (arrive s id) m t o told →
      (m.IsStage → retries? p t m o.status = false) →
      ¬(outcome.status.wantsRetry = true ∧ s.retriesOf n.id < Retry.budget p.graph n) := by
    intro m t o told foundM settled spent
    obtain rfl : m = n := Option.some.inj (foundM.symm.trans found)
    rw [outcome?_of_settled foundM settled] at worked
    obtain rfl : o = outcome := Option.some.inj worked
    have none := spent stage
    rw [retries?, settled.retriesOf_eq] at none
    simpa using none
  cases paid with
  | unknown absent => exact absurd (absent.symm.trans found) (by simp)
  | left foundM exit | held foundM exit | barred foundM exit =>
      obtain rfl := Option.some.inj (foundM.symm.trans found)
      exact absurd exit stage.1
  | unhandled foundM stageM none =>
      rw [outcome?_of_unhandled foundM stageM none] at worked
      cases worked
  | @retried m t o told foundM stageM settled again =>
      obtain rfl : m = n := Option.some.inj (foundM.symm.trans found)
      rw [outcome?_of_settled foundM settled] at worked
      obtain rfl : o = outcome := Option.some.inj worked
      rw [retries?, settled.retriesOf_eq] at again
      refine ⟨fun _ => by simpa using again, fun _ => ?_⟩
      exact isRetried_eq_true (congrArg Move.goto (keyed.id_eq foundM)) rfl
  | followed foundM settled budget selected =>
      rw [isRetried_eq_false (settled.any_isRetry_append_followEvents _)]
      exact iff_of_false Bool.false_ne_true (spent foundM settled budget)
  | redirected foundM settled budget =>
      rw [isRetried_eq_false settled.any_isRetry]
      exact iff_of_false Bool.false_ne_true (spent foundM settled budget)
  | stranded foundM settled budget =>
      rw [isRetried_eq_false (settled.any_isRetry_append_event _ _)]
      exact iff_of_false Bool.false_ne_true (spent foundM settled budget)

/-- A counter goes up by one at a retry of its node, and is never reset and never runs over. -/
theorem toNat_retriesOf (keyed : p.graph.Keyed) (paid : v.Paid p) (key : String) :
    (v.after.retriesOf key).toNat =
      (v.before.retriesOf key).toNat + if v.isRetried = true ∧ v.id = key then 1 else 0 := by
  rcases Course.retries_cases paid with
    ⟨n, work, found, back, left, retries, told, -⟩ | ⟨quiet, kept⟩
  · have same : n.id = v.id := keyed.id_eq found
    rw [same] at back retries left
    rw [isRetried_eq_true back told, retriesOf_of_retries_eq retries]
    by_cases here : v.id = key
    · rw [if_pos here, if_pos ⟨rfl, here⟩, toNat_add_one left, here]
    · rw [if_neg here, if_neg fun both => here both.2]
      rfl
  · rw [State.retriesOf, kept, isRetried_eq_false quiet]
    rfl

end Visit

/-! ### The ledger -/

/-- The counters of a state agree with what was told, and with the budgets. -/
structure Ledger (p : Plan σ) (s : State σ) : Prop where
  /-- The retries of every node were told with the numbers from one up to its counter. -/
  told : ∀ id, retryCounts id s.events = List.range' 1 (s.retriesOf id).toNat
  /-- No counter is above the budget of its node. -/
  within : ∀ id n, p.graph.node? id = some n →
    (s.retriesOf id).toNat ≤ (Retry.budget p.graph n).toNat

namespace Ledger

variable {p : Plan σ} {s t : State σ} {id : String} {move : Move} {told : List Event.Kind}

/-- As many retries of a node were told as its counter says. -/
theorem length_retryCounts (ledger : Ledger p s) (id : String) :
    (retryCounts id s.events).length = (s.retriesOf id).toNat := by
  rw [ledger.told, List.length_range']

theorem opening (p : Plan σ) (memory : σ) : Ledger p (opening p memory) :=
  ⟨fun _ => rfl, fun _ _ _ => Nat.zero_le _⟩

/-- **A visit keeps the ledger in order.** -/
theorem step (keyed : p.graph.Keyed) (ledger : Ledger p s) (course : Course p s id t move told) :
    Ledger p t := by
  have events := course.events_eq
  rcases course.retries_cases with ⟨n, work, found, -, left, retries, rfl, quiet⟩ | ⟨quiet, kept⟩
  · have counts := retriesOf_of_retries_eq retries
    have raised := toNat_add_one left
    refine ⟨fun key => ?_, fun key m foundM => ?_⟩
    · rw [events, retryCounts_append, retryCounts_append, retryCounts_eq_nil key quiet, ledger.told,
        retryCounts_retryEvent, counts]
      by_cases same : n.id = key
      · -- the new number is the next one
        subst same
        rw [if_pos rfl, if_pos rfl, raised, List.range'_1_concat, Nat.add_comm 1]
        rfl
      · rw [if_neg same, if_neg same]
        exact List.append_nil _
    · rw [counts]
      by_cases same : n.id = key
      · subst same
        rw [keyed.node?_id found] at foundM
        obtain rfl := Option.some.inj foundM
        rw [if_pos rfl, raised]
        exact UInt32.lt_iff_toNat_lt.mp left
      · rw [if_neg same]
        exact ledger.within key m foundM
  · have counts : ∀ key, t.retriesOf key = s.retriesOf key := by
      intro key
      rw [State.retriesOf, kept]
      rfl
    refine ⟨fun key => ?_, fun key m foundM => ?_⟩
    · rw [events, retryCounts_append, retryCounts_eq_nil key quiet, List.append_nil, counts]
      exact ledger.told key
    · rw [counts]
      exact ledger.within key m foundM

end Ledger

/-! ### Whole runs -/

/-- **The ledger is in order throughout a run**, in the state before each visit and in the last. -/
theorem Trail.ledger {p : Plan σ} {s t : State σ} {id : String} {visits : List (Visit σ)}
    {move : Move} (keyed : p.graph.Keyed) (fresh : Ledger p s)
    (trail : Trail p s id visits t move) :
    (∀ v ∈ visits, Ledger p v.before) ∧ Ledger p t := by
  induction trail with
  | start => exact ⟨List.forall_mem_nil _, fresh⟩
  | @visit visits t here trail ih =>
      obtain ⟨earlier, now⟩ := ih
      refine ⟨List.forall_mem_append.mpr ⟨earlier, List.forall_mem_singleton.mpr now⟩, ?_⟩
      exact now.step keyed (Visit.paid_of p t here)

/-- The retries of a node that a run tells about are numbered from one on, within its budget. -/
theorem exists_retryCounts_eq {p : Plan σ} (memory : σ) (keyed : p.graph.Keyed) {id : String}
    {n : Node} (found : p.graph.node? id = some n) :
    ∃ k ≤ (Retry.budget p.graph n).toNat,
      retryCounts id (execute p memory).state.events = List.range' 1 k := by
  cases valid : p.graph.isValid with
  | false =>
      rw [(execute_of_not_isValid memory valid).1]
      exact ⟨0, Nat.zero_le _, rfl⟩
  | true =>
      obtain ⟨start, t, move, -, trail, eq⟩ := exists_trail_of_isValid memory valid
      have ledger := (trail.ledger keyed (.opening p memory)).2
      refine ⟨(t.retriesOf id).toNat, ledger.within id n found, ?_⟩
      obtain ⟨told, events, last⟩ := exists_conclude_events p t move
      have none : retryCounts id told = [] := by
        rcases last with rfl | rfl
        · rfl
        · rfl
      rw [eq, events, retryCounts_append, none, List.append_nil]
      exact ledger.told id

/-- **Retries stay within the budget of their node, over the whole run.**  A stage is tried again
exactly when it failed or asked for it and fewer retries of its node than its budget allows were
told before, on whatever visit.  Nothing but a retry of the node moves its counter, which never runs
over.  The retries of a node are told with the numbers from one on, up to its budget at most. -/
theorem retries_within_budget {p : Plan σ} (memory : σ) (keyed : p.graph.Keyed) :
    (∀ v ∈ visits p memory,
      v.before.events ++ v.events <+: (execute p memory).state.events ∧
      (∀ n outcome, p.graph.node? v.id = some n → n.IsStage → v.outcome? p = some outcome →
        (v.isRetried = true ↔ (outcome.status = .fail ∨ outcome.status = .retry) ∧
          (retryCounts n.id v.before.events).length < (Retry.budget p.graph n).toNat)) ∧
      ∀ id, (v.after.retriesOf id).toNat =
        (v.before.retriesOf id).toNat + if v.isRetried = true ∧ v.id = id then 1 else 0) ∧
    ∀ id n, p.graph.node? id = some n → ∃ k ≤ (Retry.budget p.graph n).toNat,
      retryCounts id (execute p memory).state.events = List.range' 1 k := by
  refine ⟨fun v mem => ?_, fun id n found => exists_retryCounts_eq memory keyed found⟩
  cases valid : p.graph.isValid with
  | false =>
      rw [(execute_of_not_isValid memory valid).2] at mem
      exact absurd mem List.not_mem_nil
  | true =>
      obtain ⟨start, t, move, -, trail, eq⟩ := exists_trail_of_isValid memory valid
      have paid := trail.paid_of_mem mem
      have ledger := (trail.ledger keyed (.opening p memory)).1 v mem
      refine ⟨?_, fun n outcome found stage worked => ?_, Visit.toNat_retriesOf keyed paid⟩
      · obtain ⟨told, events, -⟩ := exists_conclude_events p t move
        rw [eq, events]
        exact (trail.events_prefix mem).trans (List.prefix_append _ _)
      · rw [Visit.isRetried_iff keyed paid found stage worked, Status.wantsRetry_iff,
          ledger.length_retryCounts, UInt32.lt_iff_toNat_lt]

/-- The draft of a text is tried again once, so its budget is one at least; the review fails and is
not tried again, so it has no budget. -/
theorem reviewPlan_retries_within_budget :
    reviewPlan.graph.Keyed ∧
      (visits reviewPlan 0).map (fun v => (v.id, v.isRetried)) =
        [("start", false), ("draft", true), ("draft", false), ("review", false), ("done", false),
          ("draft", false), ("review", false), ("done", false)] ∧
      retryCounts "draft" (execute reviewPlan 0).state.events = [1] ∧
      (∃ draft, reviewPlan.graph.node? "draft" = some draft ∧
        1 ≤ (Retry.budget reviewPlan.graph draft).toNat) ∧
      ∃ review, reviewPlan.graph.node? "review" = some review ∧
        (Retry.budget reviewPlan.graph review).toNat = 0 := by
  have keyed : reviewPlan.graph.Keyed := by decide +kernel
  have once : retryCounts "draft" (execute reviewPlan 0).state.events = [1] := by decide +kernel
  have failed : (visits reviewPlan 0)[3]?.map (fun v =>
      (v.id, v.isRetried, (v.outcome? reviewPlan).map (·.status),
        retryCounts "review" v.before.events)) =
      some ("review", false, some .fail, []) := by decide +kernel
  obtain ⟨each, all⟩ := retries_within_budget 0 keyed
  obtain ⟨k, within, counts⟩ := all "draft" _ rfl
  obtain rfl : 1 = k := by
    have length := congrArg List.length (once.symm.trans counts)
    rwa [List.length_range'] at length
  obtain ⟨v, visited, seen⟩ := Option.map_eq_some_iff.mp failed
  simp only [Prod.mk.injEq, Option.map_eq_some_iff] at seen
  obtain ⟨here, kept, ⟨outcome, worked, status⟩, untold⟩ := seen
  refine ⟨keyed, by decide +kernel, once, ⟨_, rfl, within⟩, _, rfl, ?_⟩
  have retried := (each v (List.mem_of_getElem? visited)).2.1
    ⟨"review", .ofList [("shape", .text "hexagon"), ("goal_gate", .boolean true),
      ("retry_target", .text "draft")]⟩ outcome (by rw [here]; rfl) (by decide) worked
  rw [kept, untold, status] at retried
  simpa using retried

end Workflow.Run
