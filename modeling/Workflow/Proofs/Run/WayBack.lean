import Workflow.Proofs.Run.Lookup

/-!
# The way back from a gate

A run that is held at an exit goes back to the retry target of the first gate that is not
satisfied, and fails if there is none.  Validation warns about gates without a retry
target.  The warning is about nodes of the graph, and the run asks for the target of an id
that it has completed; but every id that holds a run back names a node, and that node is a
gate, so it is one of those that validation has looked at.

## Main Statements

* `Graph.exists_retryTarget` — without a warning every gate has a retry target.
* `Run.never_barred` — without a warning no run fails because of a gate.

## Design Notes

Nothing here asks nodes to be filed under their ids.  Validation visits the nodes under
their keys, and the run looks the gate up under a key as well.
-/

namespace Workflow

namespace Graph

/-- Without a warning about gates every gate has a retry target. -/
theorem exists_retryTarget {g : Graph}
    (silent : ∀ f ∈ g.findings, f.rule ≠ "goal_gate_has_retry") {key : String} {n : Node}
    (found : g.node? key = some n) (gate : n.isGate = true) :
    ∃ target, Gate.retryTarget? g (some n) = some target := by
  cases back : Gate.retryTarget? g (some n) with
  | some target => exact ⟨target, rfl⟩
  | none =>
      have listed : n ∈ g.nodeList := mem_nodeList_iff.mpr ⟨key, found⟩
      have warned : Finding.gateWithoutTarget n.id ∈ g.checkGates :=
        List.mem_map.mpr ⟨n, List.mem_filter.mpr ⟨listed, by simp [gate, back]⟩, rfl⟩
      exact absurd rfl (silent (.gateWithoutTarget n.id) (by simp [findings, warned]))

end Graph

namespace Gate

/-- What holds a run back is a gate of the graph. -/
theorem exists_gate_of_mem_unsatisfied {g : Graph} {completed : List String}
    {outcomes : Table Status} {id : String} (mem : id ∈ unsatisfied g completed outcomes) :
    ∃ n, g.node? id = some n ∧ n.isGate = true := by
  have holds := (mem_unsatisfied_iff.mp mem).2
  unfold holdsBack at holds
  cases found : g.node? id with
  | none =>
      rw [found] at holds
      cases holds
  | some n =>
      rw [found] at holds
      exact ⟨n, rfl, (Bool.and_eq_true_iff.mp holds).1⟩

/-- Without a warning about gates a run that is held back has somewhere to go back to. -/
theorem exists_retryTarget_of_unsatisfied {g : Graph}
    (silent : ∀ f ∈ g.findings, f.rule ≠ "goal_gate_has_retry") {completed : List String}
    {outcomes : Table Status} {first : String} {others : List String}
    (failed : unsatisfied g completed outcomes = first :: others) :
    ∃ target, retryTarget? g (g.node? first) = some target := by
  have mem : first ∈ unsatisfied g completed outcomes := failed ▸ List.mem_cons_self
  obtain ⟨n, found, gate⟩ := exists_gate_of_mem_unsatisfied mem
  rw [found]
  exact Graph.exists_retryTarget silent found gate

end Gate

namespace Run

variable {σ : Type} {p : Plan σ}

/-! ### Why runs fail -/

/-- A run that ends with a message has failed for the reason that is worded so. -/
theorem Ending.exists_reason_of_failure? {ending : Ending} {message : String}
    (failure : ending.failure? = some message) :
    ∃ reason, ending = .failed reason ∧ reason.message = message := by
  cases ending with
  | completed => cases failure
  | failed reason => exact ⟨reason, rfl, Option.some.inj failure⟩

/-- No other failure of a walk is worded like one because of a gate. -/
theorem Reason.exists_gates_of_wording {reason : Reason}
    (walked : reason.Underway ∨ ∃ id, reason = .nodeNotFound id)
    (worded : "Goal gate failed: ".toList <+: reason.message.toList) :
    ∃ ids, reason = .gatesUnsatisfied ids := by
  -- the first character tells the messages apart
  have front : reason.message.toList.take 1 = ['G'] := by
    obtain ⟨rest, eq⟩ := worded
    rw [← eq]
    rfl
  unfold message at front
  rcases walked with underway | ⟨id, rfl⟩
  · cases underway with
    | gatesUnsatisfied ids => exact ⟨ids, rfl⟩
    | limitReached | noHandler | deadEnd => simp [String.toList_append] at front
  · simp [String.toList_append] at front

/-- A visit stops for want of its node, or underway. -/
theorem Visit.underway_or_nodeNotFound_of_stop {v : Visit σ} (paid : v.Paid p) {reason : Reason}
    (stops : v.move = .stop (.failed reason)) :
    reason.Underway ∨ ∃ id, reason = .nodeNotFound id := by
  cases found : p.graph.node? v.id with
  | some n =>
      exact .inl (underway_of_stop paid (Graph.contains_iff_node?.mpr ⟨n, found⟩) stops)
  | none =>
      obtain ⟨id, s, t, move, told⟩ := v
      simp only [Paid] at paid stops found
      cases paid with
      | unknown => cases stops; exact .inr ⟨id, rfl⟩
      | left known | held known | barred known | unhandled known | retried known
      | followed known | redirected known | stranded known =>
          rw [found] at known
          cases known

/-! ### Visits to an exit -/

/-- Without a warning about gates an exit sends a run that it holds back to a node of the graph. -/
theorem Visit.goes_back {v : Visit σ} (paid : v.Paid p)
    (silent : ∀ f ∈ p.graph.findings, f.rule ≠ "goal_gate_has_retry") {n : Node}
    (found : p.graph.node? v.id = some n) (exit : n.work = Work.exit) {first : String}
    {others : List String}
    (failed : Gate.unsatisfied p.graph v.before.completed v.before.outcomes = first :: others) :
    ∃ target, Gate.retryTarget? p.graph (p.graph.node? first) = some target ∧
      v.move = .goto target ∧ p.graph.nodes.contains target = true := by
  obtain ⟨target, back⟩ := Gate.exists_retryTarget_of_unsatisfied silent failed
  refine ⟨target, back, ?_, Gate.contains_of_retryTarget? back⟩
  obtain ⟨id, s, t, move, told⟩ := v
  simp only [Paid] at paid found failed ⊢
  have only : ∀ {m}, p.graph.node? id = some m → m.work = Work.exit := fun known =>
    Option.some.inj (found.symm.trans known) ▸ exit
  cases paid with
  | unknown absent => exact absurd (absent.symm.trans found) (by simp)
  | left _ _ clear => exact absurd (clear.symm.trans failed) (by simp)
  | held _ _ failed' back' =>
      obtain ⟨rfl, -⟩ := List.cons.inj (failed'.symm.trans failed)
      rw [Option.some.inj (back'.symm.trans back)]
  | barred _ _ failed' nowhere =>
      obtain ⟨rfl, -⟩ := List.cons.inj (failed'.symm.trans failed)
      exact absurd (nowhere.symm.trans back) (by simp)
  | unhandled known stage => exact absurd (only known) stage.1
  | retried known stage => exact absurd (only known) stage.1
  | followed known settled | redirected known settled | stranded known settled =>
      exact absurd (only known) settled.work_ne_exit

/-- Without a warning about gates no visit stops because of one. -/
theorem Visit.not_stop_gatesUnsatisfied {v : Visit σ} (paid : v.Paid p)
    (silent : ∀ f ∈ p.graph.findings, f.rule ≠ "goal_gate_has_retry") (ids : List String) :
    v.move ≠ .stop (.failed (.gatesUnsatisfied ids)) := by
  intro stops
  obtain ⟨id, s, t, move, told⟩ := v
  simp only [Paid] at paid stops
  cases paid with
  | barred found exit failed nowhere =>
      obtain ⟨target, back⟩ := Gate.exists_retryTarget_of_unsatisfied silent failed
      rw [nowhere] at back
      cases back
  | unknown | left | held | unhandled | retried | followed | redirected | stranded => cases stops

/-! ### Whole runs -/

/-- **Without a warning about gates no run fails because of a gate.**  A run of a valid graph whose
gates all have a retry target never fails with a wording that says so, and whenever it comes to an
exit with an unsatisfied gate behind it, it goes back to the retry target of the first one, which is
a node of the graph. -/
theorem never_barred (valid : p.graph.isValid = true)
    (silent : ∀ f ∈ p.graph.findings, f.rule ≠ "goal_gate_has_retry") (memory : σ) :
    (∀ message, (execute p memory).ending.failure? = some message →
      ¬"Goal gate failed: ".toList <+: message.toList) ∧
    ∀ v ∈ visits p memory, ∀ n, p.graph.node? v.id = some n → n.work = Work.exit →
      ∀ first others,
        Gate.unsatisfied p.graph v.before.completed v.before.outcomes = first :: others →
        ∃ target, Gate.retryTarget? p.graph (p.graph.node? first) = some target ∧
          v.move = .goto target ∧ p.graph.nodes.contains target = true := by
  obtain ⟨start, t, move, -, trail, eq⟩ := exists_trail_of_isValid memory valid
  constructor
  · intro message failure worded
    obtain ⟨reason, failed, rfl⟩ := Ending.exists_reason_of_failure? failure
    rw [eq] at failed
    rcases trail.limitReached_or_stops failed with rfl | ⟨v, mem, stops⟩
    · obtain ⟨ids, gates⟩ := Reason.exists_gates_of_wording (.inl .limitReached) worded
      cases gates
    · have paid := trail.paid_of_mem mem
      obtain ⟨ids, rfl⟩ := Reason.exists_gates_of_wording
        (Visit.underway_or_nodeNotFound_of_stop paid stops) worded
      exact Visit.not_stop_gatesUnsatisfied paid silent ids stops
  · intro v mem n found exit first others failed
    exact Visit.goes_back (trail.paid_of_mem mem) silent found exit failed

/-- The exit sends the review of a text back to the draft, as the review was not passed. -/
theorem reviewPlan_goes_back :
    (reviewPlan.graph.isValid = true ∧
      ∀ f ∈ reviewPlan.graph.findings, f.rule ≠ "goal_gate_has_retry") ∧
    ∃ v ∈ visits reviewPlan 0, v.id = "done" ∧ v.move = .goto "draft" := by
  have valid : reviewPlan.graph.isValid = true := by decide +kernel
  have silent : ∀ f ∈ reviewPlan.graph.findings, f.rule ≠ "goal_gate_has_retry" := by
    decide +kernel
  have held : (visits reviewPlan 0)[4]?.map (fun v =>
      (v.id, Gate.unsatisfied reviewPlan.graph v.before.completed v.before.outcomes)) =
      some ("done", ["review"]) := by decide +kernel
  obtain ⟨v, visited, seen⟩ := Option.map_eq_some_iff.mp held
  obtain ⟨here, failed⟩ := Prod.mk.inj seen
  have mem : v ∈ visits reviewPlan 0 := List.mem_of_getElem? visited
  obtain ⟨target, back, leads, -⟩ := (never_barred valid silent 0).2 v mem
    ⟨"done", .ofList [("shape", .text "Msquare")]⟩ (by rw [here]; rfl) (by decide) "review" [] failed
  have draft : Gate.retryTarget? reviewPlan.graph (reviewPlan.graph.node? "review") =
      some "draft" := by decide +kernel
  rw [back] at draft
  exact ⟨⟨valid, silent⟩, v, mem, here, leads.trans (congrArg Move.goto (Option.some.inj draft))⟩

end Run

end Workflow
