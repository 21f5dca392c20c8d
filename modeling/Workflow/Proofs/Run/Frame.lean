import Workflow.Proofs.Run.RetryBudget

/-!
# What runs write into their context

Before its first visit a run fills its context with its name and the attributes of its
graph.  Everything that is written later is written under other names: where the run is,
what the work there came to, and how often a node was tried again.  So what a handler reads
about the graph is the same on every visit, as long as no handler writes into the context
itself.

## Main Definitions

* `Context.SameBut` — two contexts agree except under some keys.
* `Handler.Discreet` — a handler that leaves the context to the run.
* `Run.IsSeedKey`, `Run.noteKeys`, `Run.retryKey` — the three kinds of keys.
* `Run.Intact` — a context holds what it was filled with, and the counters.

## Main Statements

* `Run.Intact.step` — a visit leaves the context intact.
* `Run.Trail.intact` — so does a run.
* `Run.Trail.retriesOf_eq_countP` — a counter says how many visits ended with a retry.

## Design Notes

`Intact` says nothing about the notes.  They are overwritten by every visit, and no entry
that is kept depends on them.
-/

namespace Workflow

/-! ### Frames -/

/-- The second context has the log of the first, and the same data except under `keys`. -/
structure Context.SameBut (keys : List String) (c d : Context) : Prop where
  /-- The log is the same. -/
  logs : d.logs = c.logs
  /-- Under all other keys the data are the same. -/
  get?_eq : ∀ key, key ∉ keys → d.get? key = c.get? key

namespace Context.SameBut

variable {keys : List String} {c d e : Context}

theorem refl (keys : List String) (c : Context) : SameBut keys c c := ⟨rfl, fun _ _ => rfl⟩

theorem trans (first : SameBut keys c d) (second : SameBut keys d e) : SameBut keys c e :=
  ⟨second.logs.trans first.logs,
    fun key other => (second.get?_eq key other).trans (first.get?_eq key other)⟩

/-- A write under one of the keys. -/
theorem setText (same : SameBut keys c d) {key : String} (mem : key ∈ keys) (text : String) :
    SameBut keys c (d.setText key text) where
  logs := same.logs
  get?_eq other notMem := by
    have ne : key ≠ other := fun eq => notMem (eq ▸ mem)
    exact (Table.get?_insert_of_ne _ ne _).trans (same.get?_eq other notMem)

end Context.SameBut

variable {σ : Type}

/-- A handler that leaves the context to the run: it writes nothing into it, and its outcomes ask
for no updates. -/
structure Handler.Discreet (h : Handler σ) : Prop where
  /-- The context comes back as it was given. -/
  context_eq : ∀ g n context memory, (h.perform g n context memory).2.1 = context
  /-- There is nothing to update. -/
  updates_eq : ∀ g n context memory outcome,
    (h.perform g n context memory).1 = .ok outcome → outcome.updates = .empty

namespace Run

/-! ### Keys -/

/-- The keys under which a visit writes its notes. -/
def noteKeys : List String := ["current_node", "outcome", "preferred_label"]

/-- The keys that are filled before the first visit. -/
def IsSeedKey (key : String) : Prop := key = "run_id" ∨ ∃ name, key = graphKey name

theorem retryKey_injective {a b : String} (eq : retryKey a = retryKey b) : a = b :=
  (String.append_right_inj _).mp eq

/-- A text begins with the first letter of its first part. -/
theorem head?_toList_append {a : String} {c : Char} (front : a.toList.head? = some c)
    (b : String) : (a ++ b).toList.head? = some c := by
  rw [String.toList_append, List.head?_append, front]
  rfl

theorem head?_toList_retryKey (id : String) : (retryKey id).toList.head? = some 'i' :=
  head?_toList_append (by decide) id

/-- The notes begin with other letters. -/
theorem head?_toList_of_mem_noteKeys {key : String} (mem : key ∈ noteKeys) :
    key.toList.head? = some 'c' ∨ key.toList.head? = some 'o' ∨ key.toList.head? = some 'p' := by
  revert key
  decide

theorem retryKey_not_mem_noteKeys (id : String) : retryKey id ∉ noteKeys := by
  intro mem
  have front := head?_toList_of_mem_noteKeys mem
  rw [head?_toList_retryKey] at front
  exact absurd front (by decide)

namespace IsSeedKey

variable {key : String}

theorem head?_toList (isSeed : IsSeedKey key) :
    key.toList.head? = some 'r' ∨ key.toList.head? = some 'g' := by
  rcases isSeed with rfl | ⟨name, rfl⟩
  · exact .inl (by decide)
  · exact .inr (head?_toList_append (by decide) name)

theorem not_mem_noteKeys (isSeed : IsSeedKey key) : key ∉ noteKeys := by
  intro mem
  have note := head?_toList_of_mem_noteKeys mem
  rcases isSeed.head?_toList with front | front
  all_goals
    rw [front] at note
    exact absurd note (by decide)

theorem ne_retryKey (isSeed : IsSeedKey key) (id : String) : key ≠ retryKey id := by
  rintro rfl
  have front := isSeed.head?_toList
  rw [head?_toList_retryKey] at front
  exact absurd front (by decide)

end IsSeedKey

/-- A run fills its context under no other keys, and its log is empty. -/
theorem seed_only (p : Plan σ) :
    (seed p).logs = [] ∧ ∀ key, ¬IsSeedKey key → (seed p).get? key = none := by
  -- the entries are written one by one, each under a key of the graph
  have written (f : Context → String × Value → Context)
      (step : ∀ c entry, f c entry = c.setText (graphKey entry.1) entry.2.render) :
      ∀ (entries : List (String × Value)) (c : Context),
        (c.logs = [] ∧ ∀ key, ¬IsSeedKey key → c.get? key = none) →
        ((entries.foldl f c).logs = [] ∧
          ∀ key, ¬IsSeedKey key → (entries.foldl f c).get? key = none) := by
    intro entries
    induction entries with
    | nil => exact fun c given => given
    | cons entry entries ih =>
        intro c given
        refine ih _ ⟨step c entry ▸ given.1, fun key other => ?_⟩
        have ne : graphKey entry.1 ≠ key := fun eq => other (.inr ⟨entry.1, eq.symm⟩)
        rw [step]
        exact (Table.get?_insert_of_ne _ ne _).trans (given.2 key other)
  refine written _ (fun _ _ => rfl) _ _ ⟨rfl, fun key other => ?_⟩
  have notId : "run_id" ≠ key := fun eq => other (.inl eq.symm)
  have notGoal : graphKey "goal" ≠ key := fun eq => other (.inr ⟨"goal", eq.symm⟩)
  exact (Table.get?_insert_of_ne _ notId _).trans (Table.get?_insert_of_ne _ notGoal _)

/-! ### One visit -/

/-- All handlers of a plan leave the context to the run. -/
def Discreet (p : Plan σ) : Prop := ∀ kind h, p.registry.get? kind = some h → h.Discreet

section Visit

variable {p : Plan σ} {s t : State σ} {n : Node} {outcome : Outcome} {told : List Event.Kind}

theorem context_perform {h : Handler σ} (discreet : h.Discreet) :
    (perform p h s n).1.context = s.context := discreet.context_eq _ _ _ _

theorem updates_perform {h : Handler σ} (discreet : h.Discreet) :
    (perform p h s n).2.updates = .empty := by
  unfold perform
  cases answer : (h.perform p.graph n s.context s.memory).1 with
  | ok outcome => simpa only [answer] using discreet.updates_eq _ _ _ _ _ answer
  | error e => simp only [answer]; rfl

/-- Work at a node writes notes only. -/
theorem Settled.sameBut (discreet : Discreet p) (settled : Settled p s n t outcome told) :
    s.context.SameBut noteKeys t.context := by
  cases settled with
  | passage => exact (Context.SameBut.refl _ _).setText (by decide) _
  | @stage h stage handled =>
      have kept : (perform p h (openStage p s n) n).1.context = s.context := by
        rw [context_perform (discreet _ _ handled), openStage_eq]
      have none : (perform p h (openStage p s n) n).2.updates = .empty :=
        updates_perform (discreet _ _ handled)
      have same := Context.SameBut.refl noteKeys s.context
      rw [closeStage, none]
      show s.context.SameBut noteKeys ((_ : Context).setText _ _ |>.setText _ _)
      rw [kept]
      exact (same.setText (by decide) _).setText (by decide) _

end Visit

/-- The context of a state holds what it was filled with, and the counters of the retries. -/
structure Intact (p : Plan σ) (s : State σ) : Prop where
  /-- Nothing was logged. -/
  logs : s.context.logs = []
  /-- Under all other keys stands what stood there at first. -/
  kept : ∀ key, key ∉ noteKeys → (∀ id, key ≠ retryKey id) →
    s.context.get? key = (seed p).get? key
  /-- A node that was tried again has its counter in the context, and no other node has. -/
  counted : ∀ id, s.context.get? (retryKey id) =
    if s.retriesOf id = 0 then none else some (.ofNat (s.retriesOf id).toNat)

namespace Intact

variable {p : Plan σ} {s t : State σ} {id : String} {n : Node} {outcome : Outcome}
  {told : List Event.Kind}

theorem opening (p : Plan σ) (memory : σ) : Intact p (opening p memory) where
  logs := (seed_only p).1
  kept _ _ _ := rfl
  counted id := (seed_only p).2 _ fun isSeed => isSeed.ne_retryKey id rfl

/-- Notes do no harm. -/
theorem congr (intact : Intact p s) (same : s.context.SameBut noteKeys t.context)
    (retries : t.retries = s.retries) : Intact p t where
  logs := same.logs.trans intact.logs
  kept key other noCounter := (same.get?_eq key other).trans (intact.kept key other noCounter)
  counted id := by
    rw [same.get?_eq _ (retryKey_not_mem_noteKeys id), intact.counted, State.retriesOf,
      State.retriesOf, retries]

/-- To be somewhere is a note. -/
theorem arrive (intact : Intact p s) (id : String) : Intact p (arrive s id) :=
  intact.congr ((Context.SameBut.refl _ _).setText (by decide) _) rfl

/-- Work leaves the context intact. -/
theorem settled (discreet : Discreet p) (intact : Intact p s)
    (settled : Settled p (Run.arrive s id) n t outcome told) : Intact p t :=
  (intact.arrive id).congr (settled.sameBut discreet) settled.retries_eq

/-- A retry within the budget writes the new value of the counter. -/
theorem retry (intact : Intact p s) (left : s.retriesOf n.id < Retry.budget p.graph n) :
    Intact p (Run.retry p s n).1 where
  logs := intact.logs
  kept key other noCounter := by
    have ne : retryKey n.id ≠ key := (noCounter n.id).symm
    exact (Table.get?_insert_of_ne _ ne _).trans (intact.kept key other noCounter)
  counted id := by
    have raised := toNat_add_one left
    have counts : (Run.retry p s n).1.retriesOf id =
        if n.id = id then s.retriesOf n.id + 1 else s.retriesOf id :=
      retriesOf_of_retries_eq rfl id
    have context : (Run.retry p s n).1.context =
        s.context.set (retryKey n.id) (.ofNat (s.retriesOf n.id + 1).toNat) := rfl
    rw [counts, context]
    by_cases same : n.id = id
    · -- the counter has not run over, so it is not zero
      have positive : s.retriesOf n.id + 1 ≠ 0 := by
        intro zero
        rw [zero] at raised
        exact Nat.succ_ne_zero _ raised.symm
      subst same
      rw [if_pos rfl, if_neg positive]
      exact Table.get?_insert_self _ _ _
    · have ne : retryKey n.id ≠ retryKey id := fun eq => same (retryKey_injective eq)
      rw [if_neg same]
      exact (Table.get?_insert_of_ne _ ne _).trans (intact.counted id)

/-- **A visit leaves the context intact.** -/
theorem step (discreet : Discreet p) (intact : Intact p s) {move : Move}
    (course : Course p s id t move told) : Intact p t := by
  cases course with
  | unknown => exact intact.congr (.refl _ _) rfl
  | left | held | barred | unhandled => exact (intact.arrive id).congr (.refl _ _) rfl
  | retried found stage settled again =>
      have left := of_decide_eq_true (Bool.and_eq_true_iff.mp again).2
      exact (intact.settled discreet settled).retry left
  | followed found settled =>
      refine (intact.settled discreet settled).congr ?_ (retries_follow ..)
      rw [context_follow]
      exact .refl _ _
  | redirected found settled => exact intact.settled discreet settled
  | stranded found settled => exact (intact.settled discreet settled).congr (.refl _ _) rfl

/-- Under the keys that were filled at first nothing changes. -/
theorem get?_of_isSeedKey (intact : Intact p s) {key : String} (isSeed : IsSeedKey key) :
    s.context.get? key = (seed p).get? key :=
  intact.kept key isSeed.not_mem_noteKeys isSeed.ne_retryKey

/-- There are no keys but these. -/
theorem key_cases (intact : Intact p s) {key : String}
    (held : s.context.values.contains key = true) :
    IsSeedKey key ∨ key ∈ noteKeys ∨ ∃ id, key = retryKey id := by
  by_contra other
  simp only [not_or, not_exists] at other
  obtain ⟨notSeed, notNote, noCounter⟩ := other
  have absent := (intact.kept key notNote noCounter).trans ((seed_only p).2 key notSeed)
  rw [Table.contains, show s.context.values.get? key = none from absent] at held
  cases held

end Intact

/-! ### Whole runs -/

/-- **The context stays intact throughout a run**, before and after each visit and at the end. -/
theorem Trail.intact {p : Plan σ} {s t : State σ} {id : String} {visits : List (Visit σ)}
    {move : Move} (discreet : Discreet p) (fresh : Intact p s)
    (trail : Trail p s id visits t move) :
    (∀ v ∈ visits, Intact p v.before ∧ Intact p v.after) ∧ Intact p t := by
  induction trail with
  | start => exact ⟨List.forall_mem_nil _, fresh⟩
  | @visit visits t here trail ih =>
      obtain ⟨earlier, now⟩ := ih
      have next : Intact p (Visit.of p t here).after := now.step discreet (Visit.paid_of p t here)
      exact ⟨List.forall_mem_append.mpr ⟨earlier, List.forall_mem_singleton.mpr ⟨now, next⟩⟩, next⟩

/-- As many retries of a node were told as visits to it ended with one. -/
theorem Trail.retriesOf_eq_countP {p : Plan σ} {s t : State σ} {id : String}
    {visits : List (Visit σ)} {move : Move} (keyed : p.graph.Keyed)
    (trail : Trail p s id visits t move) (key : String) :
    (t.retriesOf key).toNat =
      (s.retriesOf key).toNat + visits.countP fun v => v.isRetried && v.id == key := by
  induction trail with
  | start => rfl
  | @visit visits t here trail ih =>
      rw [Visit.toNat_retriesOf keyed (Visit.paid_of p t here), List.countP_append,
        List.countP_singleton, ← Nat.add_assoc, ← ih]
      simp only [Bool.and_eq_true, beq_iff_eq]
      rfl

end Run

end Workflow
