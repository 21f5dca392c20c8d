import Workflow.Proofs.Run.Checkpoints
import Workflow.Proofs.Run.Frame
import Workflow.Proofs.Run.Lookup
import Workflow.Proofs.Run.Memory
import Workflow.Session

/-!
# What sessions ask

A session works on its nodes by asking.  To see what it asks, its responder is given a
record of the prompts, which makes no difference to the session.  The handlers of a session
leave the context to the run, so the run keeps what it filled its context with, and the
prompt for a node is the same on every visit to it.

## Main Definitions

* `Responder.recorded` — a responder with a record of all that it was asked.
* `Node.prompt?` — what a node asks, in a given context.

## Main Statements

* `Session.conduct_recorded` — the record makes no difference.
* `Session.trail_asked` — what was asked, visit by visit.
* `Session.keeps_context` — the context stays as it was filled, and nodes repeat their prompts.

## Design Notes

A prompt reads one entry of the context, the goal.  That is all that has to be known about
the context of a visit to know what is asked there.
-/

namespace Workflow

variable {σ τ : Type}

/-! ### Responders with a record -/

namespace Responder

/-- The responder, with a record of all that it was asked, oldest first. -/
def recorded (r : Responder σ) : Responder (σ × List (Node × String)) where
  answer n prompt memory :=
    ((r.answer n prompt memory.1).1, (r.answer n prompt memory.1).2, memory.2 ++ [(n, prompt)])

/-- There are handlers for tasks and for commands, and no others. -/
theorem get?_registry (r : Responder σ) (kind : String) :
    r.registry.get? kind =
      if Work.tool = kind then some r.tool else if Work.codergen = kind then some r.codergen
      else none :=
  (Table.get?_insert _ _ _ _).trans (congrArg (ite _ _) (Table.get?_insert _ _ _ _))

/-- Every handler of a responder is one of the two. -/
theorem eq_of_get?_registry {r : Responder σ} {kind : String} {h : Handler σ}
    (handled : r.registry.get? kind = some h) :
    kind = Work.tool ∧ h = r.tool ∨ kind = Work.codergen ∧ h = r.codergen := by
  rw [get?_registry] at handled
  split at handled
  · next same => exact .inl ⟨same.symm, (Option.some.inj handled).symm⟩
  · split at handled
    · next same => exact .inr ⟨same.symm, (Option.some.inj handled).symm⟩
    · cases handled

/-- The responder `q` is `r` without what `f` forgets. -/
def Forgets (f : τ → σ) (r : Responder τ) (q : Responder σ) : Prop :=
  ∀ n prompt memory, q.answer n prompt (f memory) =
    ((r.answer n prompt memory).1, f (r.answer n prompt memory).2)

namespace Forgets

variable {f : τ → σ} {r : Responder τ} {q : Responder σ} (forgets : r.Forgets f q)
include forgets

/-- Asking forgets as answering does. -/
theorem ask (n : Node) (prompt : String) (context : Context) (memory : τ) :
    q.ask n prompt context (f memory) = ((r.ask n prompt context memory).1,
      (r.ask n prompt context memory).2.1, f (r.ask n prompt context memory).2.2) := by
  unfold Responder.ask
  rw [forgets]

theorem codergen : r.codergen.Forgets f q.codergen :=
  fun _ n context memory => forgets.ask n (Prompt.ofNode n context) context memory

theorem tool : r.tool.Forgets f q.tool := by
  intro g n context memory
  unfold Responder.tool
  dsimp only
  split
  · rfl
  · exact forgets.ask n _ context memory

theorem registry : r.registry.Forgets f q.registry := by
  intro kind
  rw [get?_registry, get?_registry]
  split
  · exact .some forgets.tool
  · split
    · exact .some forgets.codergen
    · exact .none

end Forgets

theorem recorded_forgets (r : Responder σ) : r.recorded.Forgets Prod.fst r := fun _ _ _ => rfl

/-- What is made of an answer asks for no updates. -/
theorem updates_outcomeOf (answer : String) : (outcomeOf answer).updates = .empty := rfl

theorem updates_eq_of_ask {r : Responder σ} {n : Node} {prompt : String} {context : Context}
    {memory : σ} {outcome : Outcome} (answered : (r.ask n prompt context memory).1 = .ok outcome) :
    outcome.updates = .empty := by
  obtain ⟨answer, -, rfl⟩ : ∃ answer, (r.answer n prompt memory).1 = .ok answer ∧
      outcomeOf answer = outcome := by
    simp only [ask] at answered
    cases given : (r.answer n prompt memory).1 with
    | error e =>
        rw [given] at answered
        cases answered
    | ok answer =>
        rw [given] at answered
        exact ⟨answer, rfl, Except.ok.inj answered⟩
  exact updates_outcomeOf answer

theorem codergen_discreet (r : Responder σ) : r.codergen.Discreet :=
  ⟨fun _ _ _ _ => rfl, fun _ _ _ _ _ answered => updates_eq_of_ask answered⟩

theorem tool_discreet (r : Responder σ) : r.tool.Discreet where
  context_eq g n context memory := by
    unfold tool
    dsimp only
    split <;> rfl
  updates_eq g n context memory outcome answered := by
    unfold tool at answered
    dsimp only at answered
    split at answered
    · cases answered
      rfl
    · exact updates_eq_of_ask answered

/-- **Responders leave the context to the run.** -/
theorem discreet_of_get?_registry {r : Responder σ} {kind : String} {h : Handler σ}
    (handled : r.registry.get? kind = some h) : h.Discreet := by
  rcases eq_of_get?_registry handled with ⟨-, rfl⟩ | ⟨-, rfl⟩
  · exact r.tool_discreet
  · exact r.codergen_discreet

end Responder

/-! ### Prompts -/

/-- A prompt reads nothing of the context but the goal. -/
theorem Prompt.ofNode_congr (n : Node) {c d : Context}
    (goal : c.get? "graph.goal" = d.get? "graph.goal") : ofNode n c = ofNode n d := by
  have text : c.text "graph.goal" "" = d.text "graph.goal" "" := by
    rw [Context.text, Context.text, goal]
  rw [ofNode, ofNode, text]

/-- What a node asks, if its kind of work is to ask. -/
def Node.prompt? (n : Node) (context : Context) : Option String :=
  if n.work = Work.codergen then some (Prompt.ofNode n context)
  else if n.work = Work.tool ∧ n.attributes.text "tool_command" "" ≠ "" then
    some (Prompt.ofCommand (n.attributes.text "tool_command" ""))
  else none

theorem Node.prompt?_congr (n : Node) {c d : Context}
    (goal : c.get? "graph.goal" = d.get? "graph.goal") : n.prompt? c = n.prompt? d := by
  rw [prompt?, prompt?, Prompt.ofNode_congr n goal]

/-- **A handler asks what its node asks**, once. -/
theorem Responder.asked_of_perform {r : Responder σ} {n : Node}
    {h : Handler (σ × List (Node × String))} (handled : r.recorded.registry.get? n.work = some h)
    (g : Graph) (context : Context) (memory : σ × List (Node × String)) :
    (h.perform g n context memory).2.2.2 =
      memory.2 ++ ((n.prompt? context).map (n, ·)).toList := by
  rcases eq_of_get?_registry handled with ⟨kind, rfl⟩ | ⟨kind, rfl⟩
  · have noTask : n.work ≠ Work.codergen := by
      rw [kind]
      decide
    unfold Node.prompt? tool
    simp only [kind, true_and]
    rw [← kind, if_neg noTask]
    by_cases command : n.attributes.text "tool_command" "" = ""
    · rw [if_pos command, if_neg (not_not_intro command)]
      exact (List.append_nil _).symm
    · rw [if_neg command, if_pos command]
      rfl
  · rw [Node.prompt?, if_pos kind]
    rfl

namespace Session

open Run

/-! ### Sessions with a record -/

/-- The setup with a record of all that is asked. -/
def Setup.recorded (setup : Setup σ) : Setup (σ × List (Node × String)) :=
  ⟨setup.id, setup.responder.recorded, setup.limit, setup.backoff, setup.verbosity⟩

/-- All that a session asks, oldest first. -/
def asked (setup : Setup σ) (source : String) (memory : σ) : List (Node × String) :=
  (conduct setup.recorded source (memory, [])).result.state.memory.2

/-- **The record makes no difference**: without it the session is the same. -/
theorem conduct_recorded (setup : Setup σ) (source : String) (memory : σ) :
    conduct setup source memory =
      ⟨(conduct setup.recorded source (memory, [])).result.map Prod.fst,
        (conduct setup.recorded source (memory, [])).messages⟩ := by
  unfold conduct
  cases Source.parse source with
  | error e => rfl
  | ok g =>
      have same : execute (setup.plan g) memory =
          (execute (setup.recorded.plan g) (memory, [])).map Prod.fst :=
        execute_map (p := setup.recorded.plan g) setup.responder.recorded_forgets.registry
          (memory, [])
      simp only [same]
      rfl

/-- A session that cannot read its source, or must not run its graph, does nothing. -/
theorem conduct_idle (setup : Setup σ) (source : String) (memory : σ)
    (idle : ∀ g, Source.parse source = .ok g → g.isValid = false) :
    (conduct setup source memory).result.state = .initial memory := by
  unfold conduct
  cases read : Source.parse source with
  | error e => rfl
  | ok g =>
      have stopped := (execute_of_not_isValid (p := setup.plan g) memory (idle g read)).1
      simp only [stopped]

/-- A session that can read its source runs its graph. -/
theorem conduct_of_parse {source : String} {g : Graph} (read : Source.parse source = .ok g)
    (setup : Setup σ) (memory : σ) :
    (conduct setup source memory).result = execute (setup.plan g) memory := by
  unfold conduct
  rw [read]

/-- The handlers of a session leave the context to the run. -/
theorem discreet_plan (setup : Setup σ) (g : Graph) : Discreet (setup.plan g) :=
  fun _ _ handled => Responder.discreet_of_get?_registry handled

/-! ### What is asked -/

/-- What is asked at a node, whenever the run gets there. -/
def askedAt (p : Plan σ) (id : String) : Option (Node × String) :=
  (p.graph.node? id).bind fun n => (n.prompt? (seed p)).map (n, ·)

/-- Where no handler is called nothing is asked. -/
theorem askedAt_of_idle (setup : Setup σ) (g : Graph) {v : Visit σ}
    (idle : v.isHandled (setup.plan g) = false) : askedAt (setup.plan g) v.id = none := by
  unfold askedAt
  cases found : (setup.plan g).graph.node? v.id with
  | none => rfl
  | some n =>
      -- tasks and commands are stages, and they have handlers
      have handled : ∀ {h}, n.IsStage → (setup.plan g).registry.get? n.work ≠ some h := by
        intro h stage handled
        rw [Visit.isHandled_of_stage found stage handled] at idle
        cases idle
      have noTask : n.work ≠ Work.codergen := by
        intro task
        refine handled (h := setup.responder.codergen) ?_ ?_
        · rw [Node.IsStage, Node.IsPassage, task]
          decide
        · rw [task]
          exact setup.responder.get?_registry _
      have noCommand : n.work ≠ Work.tool := by
        intro command
        refine handled (h := setup.responder.tool) ?_ ?_
        · rw [Node.IsStage, Node.IsPassage, command]
          decide
        · rw [command]
          exact setup.responder.get?_registry _
      rw [Option.bind_some, Node.prompt?, if_neg noTask, if_neg fun both => noCommand both.1]
      rfl

/-- A visit asks what its node asks. -/
theorem asked_of_visit {setup : Setup σ} {g : Graph} {v : Visit (σ × List (Node × String))}
    (intact : Intact (setup.recorded.plan g) v.before) (paid : v.Paid (setup.recorded.plan g)) :
    v.after.memory.2 =
      v.before.memory.2 ++ (askedAt (setup.recorded.plan g) v.id).toList := by
  cases Visit.keeping paid with
  | nothing idle _ memory =>
      rw [memory, askedAt_of_idle setup.recorded g idle]
      exact (List.append_nil _).symm
  | @standing n t outcome told later found stage settled _ _ memory =>
      obtain ⟨-, -, h, handled, called⟩ := settled.snapshots_of_stage stage
      -- the goal stands in the context as it was filled in
      have goal : (arrive v.before v.id).context.get? "graph.goal" =
          (seed (setup.recorded.plan g)).get? "graph.goal" :=
        (intact.arrive v.id).get?_of_isSeedKey (.inr ⟨"goal", by decide⟩)
      have sent : askedAt (setup.recorded.plan g) v.id =
          (n.prompt? (arrive v.before v.id).context).map (n, ·) := by
        rw [askedAt, found, Option.bind_some, n.prompt?_congr goal]
      rw [memory, called, Responder.asked_of_perform handled, sent]
      rfl

/-- **A run asks at each visit what its node asks**, and nothing else. -/
theorem trail_asked {setup : Setup σ} {g : Graph} {s t : State (σ × List (Node × String))}
    {id : String} {visits : List (Visit (σ × List (Node × String)))} {move : Move}
    (intact : Intact (setup.recorded.plan g) s)
    (trail : Trail (setup.recorded.plan g) s id visits t move) :
    t.memory.2 = s.memory.2 ++ visits.flatMap fun v =>
      (askedAt (setup.recorded.plan g) v.id).toList := by
  induction trail with
  | start => exact (List.append_nil _).symm
  | @visit visits t here trail ih =>
      have now := (trail.intact (discreet_plan _ g) intact).2
      have one : (Visit.of (setup.recorded.plan g) t here).after.memory.2 =
          t.memory.2 ++ (askedAt (setup.recorded.plan g) here).toList :=
        asked_of_visit now (Visit.paid_of _ t here)
      rw [one, ih, List.append_assoc, List.flatMap_append, List.flatMap_singleton]
      rfl

/-- A session that does nothing asks nothing. -/
theorem asked_of_idle (setup : Setup σ) {source : String} (memory : σ)
    (idle : ∀ g, Source.parse source = .ok g → g.isValid = false) :
    asked setup source memory = [] := by
  rw [asked, conduct_idle _ _ _ idle]
  rfl

/-- All that is asked is what is asked at the node that asks. -/
theorem askedAt_of_mem_asked {setup : Setup σ} {source : String} {memory : σ}
    {request : Node × String} (mem : request ∈ asked setup source memory) :
    ∃ g, Source.parse source = .ok g ∧
      askedAt (setup.recorded.plan g) request.1.id = some request := by
  by_cases idle : ∀ g, Source.parse source = .ok g → g.isValid = false
  · rw [asked_of_idle setup memory idle] at mem
    exact absurd mem List.not_mem_nil
  · simp only [not_forall, Bool.not_eq_false] at idle
    obtain ⟨g, read, valid⟩ := idle
    have keyed : (setup.recorded.plan g).graph.Keyed := Source.keyed_of_parse read
    refine ⟨g, read, ?_⟩
    obtain ⟨start, t, move, -, trail, eq⟩ :=
      exists_trail_of_isValid (p := setup.recorded.plan g) (memory, []) valid
    rw [asked, conduct_of_parse read, eq, (conclude_snapshots _ t move).2,
      trail_asked (.opening _ _) trail] at mem
    obtain ⟨v, -, mem⟩ := List.mem_flatMap.mp mem
    have at_visit : askedAt (setup.recorded.plan g) v.id = some request :=
      Option.mem_toList.mp mem
    -- the request names its node, and the node is filed under its id
    obtain ⟨n, found, sent⟩ := Option.bind_eq_some_iff.mp at_visit
    obtain ⟨text, -, rfl⟩ := Option.map_eq_some_iff.mp sent
    rw [← keyed.id_eq found] at at_visit
    exact at_visit

/-! ### What is kept -/

/-- To conclude a run tells about no retry. -/
theorem retryCounts_conclude (p : Plan σ) (t : State σ) (move : Move) (id : String) :
    retryCounts id (conclude p t move).state.events = retryCounts id t.events := by
  obtain ⟨told, events, last⟩ := exists_conclude_events p t move
  rw [events, retryCounts_append]
  rcases last with rfl | rfl
  · exact List.append_nil _
  · exact List.append_nil _

/-- The retries of a node are counted in the context as they were told. -/
theorem get?_retryKey {p : Plan σ} {t : State σ} (intact : Intact p t) (ledger : Ledger p t)
    (id : String) :
    t.context.get? (retryKey id) =
      if retryCounts id t.events = [] then none
      else some (.ofNat (retryCounts id t.events).length) := by
  have zero : t.retriesOf id = 0 ↔ retryCounts id t.events = [] := by
    rw [← List.length_eq_zero_iff, ledger.length_retryCounts, ← UInt32.toNat_inj]
    rfl
  simp only [intact.counted, zero, ledger.length_retryCounts]

/-- **Sessions keep their context.**  A record of the prompts makes no difference to a session, and
all prompts for one node are the same.  If the source is no graph or one that must not be run, then
nothing is asked and the state is the initial one, with an empty context and log.  If it is a graph
that may be run, then what its context was filled with, the name of the run and the attributes of
the graph, stands there before and after each visit and at the end.  Besides there are only the notes
of the last visits, and a counter for each node that was tried again, which says how many retries of
it were told and how many visits ended with one.  Nothing is logged. -/
theorem keeps_context (setup : Setup σ) (source : String) (memory : σ) :
    conduct setup source memory =
      ⟨(conduct setup.recorded source (memory, [])).result.map Prod.fst,
        (conduct setup.recorded source (memory, [])).messages⟩ ∧
    (∀ a ∈ asked setup source memory, ∀ b ∈ asked setup source memory,
      a.1.id = b.1.id → a = b) ∧
    ((∀ g, Source.parse source = .ok g → g.isValid = false) →
      (conduct setup source memory).result.state = .initial memory ∧
        asked setup source memory = []) ∧
    ∀ g, Source.parse source = .ok g → g.isValid = true →
      (∀ key, IsSeedKey key →
        (∀ v ∈ visits (setup.plan g) memory,
          v.before.context.get? key = (seed (setup.plan g)).get? key ∧
          v.after.context.get? key = (seed (setup.plan g)).get? key) ∧
        (conduct setup source memory).result.state.context.get? key =
          (seed (setup.plan g)).get? key) ∧
      (∀ key, (conduct setup source memory).result.state.context.values.contains key = true →
        IsSeedKey key ∨ key ∈ noteKeys ∨ ∃ id, key = retryKey id) ∧
      (∀ id, (conduct setup source memory).result.state.context.get? (retryKey id) =
          (if retryCounts id (conduct setup source memory).result.state.events = [] then none
          else some (.ofNat
            (retryCounts id (conduct setup source memory).result.state.events).length)) ∧
        (retryCounts id (conduct setup source memory).result.state.events).length =
          (visits (setup.plan g) memory).countP fun v => v.isRetried && v.id == id) ∧
      (∀ v ∈ visits (setup.plan g) memory, v.after.context.logs = []) ∧
      (conduct setup source memory).result.state.context.logs = [] := by
  refine ⟨conduct_recorded setup source memory, fun a memA b memB same => ?_,
    fun idle => ⟨conduct_idle setup source memory idle, asked_of_idle setup memory idle⟩,
    fun g read valid => ?_⟩
  · obtain ⟨g, read, sentA⟩ := askedAt_of_mem_asked memA
    obtain ⟨g', read', sentB⟩ := askedAt_of_mem_asked memB
    obtain rfl : g = g' := Except.ok.inj (read.symm.trans read')
    rw [same, sentB] at sentA
    exact (Option.some.inj sentA).symm
  · have keyed : (setup.plan g).graph.Keyed := Source.keyed_of_parse read
    obtain ⟨start, t, move, -, trail, eq⟩ :=
      exists_trail_of_isValid (p := setup.plan g) memory valid
    obtain ⟨visited, intact⟩ := trail.intact (discreet_plan setup g) (.opening _ _)
    have ledger := (trail.ledger keyed (.opening _ _)).2
    have context : (conclude (setup.plan g) t move).state.context = t.context := by
      cases move <;> rfl
    rw [conduct_of_parse read, eq]
    refine ⟨fun key isSeed => ⟨fun v mem => ?_, ?_⟩, fun key held => ?_, fun id => ⟨?_, ?_⟩,
      fun v mem => (visited v mem).2.logs, ?_⟩
    · exact ⟨(visited v mem).1.get?_of_isSeedKey isSeed, (visited v mem).2.get?_of_isSeedKey isSeed⟩
    · rw [context]
      exact intact.get?_of_isSeedKey isSeed
    · rw [context] at held
      exact intact.key_cases held
    · rw [context, retryCounts_conclude]
      exact get?_retryKey intact ledger id
    · have counted := trail.retriesOf_eq_countP keyed id
      rw [retryCounts_conclude, ledger.length_retryCounts, counted]
      exact Nat.zero_add _
    · rw [context]
      exact intact.logs

/-- One task, which may be tried again once. -/
def shipText : String :=
  "digraph g \x7b goal=\"ship\" a [shape=Mdiamond] b [max_retries=1 prompt=\"Do $goal\"] " ++
  "d [shape=Msquare] a->b->d \x7d"

/-- Whoever answers is busy at first. -/
def busySetup : Setup Nat where
  id := "r1"
  responder :=
    ⟨fun _ _ calls => (if calls = 0 then .error (.other "busy") else .ok "done", calls + 1)⟩
  limit := 10
  backoff := .none
  verbosity := .standard

/-- The task is asked for twice in the same words, and its one retry is in the context. -/
theorem shipText_keeps_context :
    (∃ g, Source.parse shipText = .ok g ∧ g.isValid = true) ∧
    (∃ a b, asked busySetup shipText 0 = [a, b] ∧ a = b ∧ a.1.id = "b") ∧
    (conduct busySetup shipText 0).result.state.context.get? "internal.retry_count.b" =
      some (.ofNat 1) := by
  have seen : ((Source.parse shipText).toOption.map fun g =>
      (g.isValid, (asked busySetup shipText 0).map (·.1.id),
        retryCounts "b" (conduct busySetup shipText 0).result.state.events)) =
      some (true, ["b", "b"], [1]) := by decide +kernel
  obtain ⟨-, same, -, kept⟩ := keeps_context busySetup shipText 0
  cases read : Source.parse shipText with
  | error e =>
      rw [read] at seen
      cases seen
  | ok g =>
      rw [read] at seen
      obtain ⟨valid, seen⟩ := Prod.mk.inj (Option.some.inj seen)
      obtain ⟨ids, counts⟩ := Prod.mk.inj seen
      refine ⟨⟨g, rfl, valid⟩, ?_, ?_⟩
      · obtain ⟨a, others, requests, first, ids⟩ := List.map_eq_cons_iff.mp ids
        obtain ⟨b, none, rfl, second, ids⟩ := List.map_eq_cons_iff.mp ids
        obtain rfl := List.map_eq_nil_iff.mp ids
        refine ⟨a, b, requests, same a ?_ b ?_ (first.trans second.symm), first⟩
        · simp [requests]
        · simp [requests]
      · have counted := (((kept g read valid).2.2.1) "b").1
        rw [counts] at counted
        exact counted

end Session

end Workflow
