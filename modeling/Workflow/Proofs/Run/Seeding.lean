import Mathlib.Data.List.Nodup
import Workflow.Proofs.Attributes
import Workflow.Proofs.Run.Frame
import Workflow.Proofs.Run.Limit
import Workflow.Proofs.Tables

/-!
# The context in which runs begin

Before its first visit a run writes its name and its goal into an empty context, and then the
canonical text of every attribute of its graph.  The keys are as different as the names of the
attributes, so it makes no difference in which order they are written.  But the goal is an
attribute as well, and what is written for it last is its canonical text.  The events of the run
tell the goal only where it is a text, so the two agree where it is one or is missing, and
nowhere else.

## Main Definitions

* `Run.seedIn` — a context filled with attributes in some order.
* `Run.Seeded` — what a context holds in which a run begins.

## Main Statements

* `Run.seedIn_of_perm` — the order of the attributes makes no difference.
* `Run.seeded_seed` — the context in which a run begins.
* `Run.goal_agrees_iff` — when the context and the events tell the same goal.
* `Run.begins_seeded` — all this for the runs of valid graphs.
* `Run.goal_told_differently` — a run with two goals.
-/

namespace Workflow.Run

variable {σ : Type} {p : Plan σ}

/-! ### Filling a context -/

/-- The data that attributes are filled in as. -/
def seedPairs (attributes : List (String × Value)) : List (String × Datum) :=
  attributes.map fun (name, value) => (graphKey name, .text value.render)

/-- The context that is filled with attributes in some order. -/
def seedIn (p : Plan σ) (attributes : List (String × Value)) : Context :=
  attributes.foldl (fun context (name, value) => context.setText (graphKey name) value.render)
    ((Context.empty.setText (graphKey "goal") p.graph.goal).setText "run_id" p.id)

/-- A run writes the attributes of its graph in key order. -/
theorem seed_eq_seedIn (p : Plan σ) : seed p = seedIn p p.graph.attributes.entries := rfl

theorem foldl_setText (attributes : List (String × Value)) (c : Context) :
    attributes.foldl (fun context (name, value) => context.setText (graphKey name) value.render) c =
      ⟨c.values.insertAll (seedPairs attributes), c.logs⟩ := by
  induction attributes generalizing c with
  | nil => rfl
  | cons entry attributes ih =>
      rw [List.foldl_cons, ih]
      rfl

theorem graphKey_injective {a b : String} (eq : graphKey a = graphKey b) : a = b :=
  (String.append_right_inj _).mp eq

theorem graphKey_ne_runId (name : String) : graphKey name ≠ "run_id" := by
  intro eq
  have front : (graphKey name).toList.head? = some 'g' := head?_toList_append (by decide) name
  rw [eq] at front
  exact absurd front (by decide)

/-- Attributes with different names are written under different keys. -/
theorem nodup_seedPairs {attributes : List (String × Value)}
    (distinct : (attributes.map (·.1)).Nodup) : ((seedPairs attributes).map (·.1)).Nodup := by
  have keys : (seedPairs attributes).map (·.1) = (attributes.map (·.1)).map graphKey := by
    simp [seedPairs]
  rw [keys]
  exact List.Nodup.map (fun _ _ => graphKey_injective) distinct

/-- **The order of the attributes makes no difference.** -/
theorem seedIn_of_perm {attributes : List (String × Value)}
    (all : attributes.Perm p.graph.attributes.entries) : seedIn p attributes = seed p := by
  have distinct : (attributes.map (·.1)).Nodup :=
    (all.map _).nodup_iff.mpr p.graph.attributes.nodup_keys
  rw [seed_eq_seedIn, seedIn, seedIn, foldl_setText, foldl_setText]
  exact congrArg (Context.mk · _)
    (Table.insertAll_perm _ (nodup_seedPairs distinct) (all.map _))

/-! ### What is filled in -/

section Seed

variable {name : String} {value : Value}

theorem get?_seed (p : Plan σ) (key : String) : (seed p).get? key =
    (((Table.empty.insert (graphKey "goal") (.text p.graph.goal)).insert "run_id"
      (.text p.id)).insertAll (seedPairs p.graph.attributes.entries)).get? key := by
  rw [seed_eq_seedIn, seedIn, foldl_setText]
  rfl

/-- Of every attribute the canonical text is filled in, also of the goal. -/
theorem get?_seed_of_attribute (stated : p.graph.attributes.get? name = some value) :
    (seed p).get? (graphKey name) = some (.text value.render) := by
  rw [get?_seed, Table.get?_insertAll_eq_some_iff _ (nodup_seedPairs p.graph.attributes.nodup_keys)]
  exact .inl (List.mem_map.mpr ⟨(name, value), Table.get?_eq_some_iff.mp stated, rfl⟩)

/-- Under other keys nothing is written but the name of the run and the goal. -/
theorem get?_seed_of_unstated {key : String}
    (unstated : ∀ name, p.graph.attributes.contains name = true → key ≠ graphKey name) :
    (seed p).get? key =
      if "run_id" = key then some (.text p.id)
      else if graphKey "goal" = key then some (.text p.graph.goal) else none := by
  have absent : key ∉ (seedPairs p.graph.attributes.entries).map (·.1) := by
    intro mem
    obtain ⟨pair, listed, rfl⟩ := List.mem_map.mp mem
    obtain ⟨⟨name, value⟩, entry, rfl⟩ := List.mem_map.mp listed
    have stated : p.graph.attributes.get? name = some value := Table.get?_eq_some_iff.mpr entry
    exact unstated name (Option.isSome_iff_exists.mpr ⟨value, stated⟩) rfl
  rw [get?_seed, Table.get?_insertAll_of_notMem _ absent, Table.get?_insert, Table.get?_insert,
    Table.get?_empty]

end Seed

/-- What a context holds in which a run begins. -/
structure Seeded (p : Plan σ) (c : Context) : Prop where
  /-- The log is empty. -/
  logs : c.logs = []
  /-- There are entries for the name of the run, the goal and each attribute, and no others. -/
  keys : ∀ key, c.values.contains key = true ↔ key = "run_id" ∨ key = graphKey "goal" ∨
    ∃ name, p.graph.attributes.contains name = true ∧ key = graphKey name
  /-- The name of the run. -/
  runId : c.get? "run_id" = some (.text p.id)
  /-- The canonical text of each attribute. -/
  stated : ∀ name value, p.graph.attributes.get? name = some value →
    c.get? (graphKey name) = some (.text value.render)
  /-- A goal that is not stated is empty. -/
  goal : p.graph.attributes.get? "goal" = none → c.get? (graphKey "goal") = some (.text "")

/-- A graph has the goal that it states as a text. -/
theorem goal_eq_of_unstated {g : Graph} (unstated : g.attributes.get? "goal" = none) :
    g.goal = "" := by
  rw [Graph.goal, Attributes.text, unstated]

theorem get?_seed_runId (p : Plan σ) : (seed p).get? "run_id" = some (.text p.id) := by
  rw [get?_seed_of_unstated fun name _ eq => graphKey_ne_runId name eq.symm, if_pos rfl]

theorem get?_seed_goal_of_unstated (unstated : p.graph.attributes.get? "goal" = none) :
    (seed p).get? (graphKey "goal") = some (.text p.graph.goal) := by
  rw [get?_seed_of_unstated, if_neg (graphKey_ne_runId _).symm, if_pos rfl]
  rintro name stated eq
  obtain rfl := graphKey_injective eq
  rw [Table.contains, unstated] at stated
  cases stated

/-- **The context in which a run begins.** -/
theorem seeded_seed (p : Plan σ) : Seeded p (seed p) where
  logs := (seed_only p).1
  runId := get?_seed_runId p
  stated _ _ stated := get?_seed_of_attribute stated
  goal unstated := by rw [get?_seed_goal_of_unstated unstated, goal_eq_of_unstated unstated]
  keys key := by
    constructor
    · intro filled
      by_contra other
      simp only [not_or, not_exists, not_and] at other
      obtain ⟨notId, notGoal, unstated⟩ := other
      have absent : (seed p).get? key = none := by
        rw [get?_seed_of_unstated unstated, if_neg (Ne.symm notId), if_neg (Ne.symm notGoal)]
      rw [Table.contains, ← Context.get?, absent] at filled
      cases filled
    · have filled {key : String} {datum : Datum} (found : (seed p).get? key = some datum) :
          (seed p).values.contains key = true := Option.isSome_iff_exists.mpr ⟨datum, found⟩
      rintro (rfl | rfl | ⟨name, stated, rfl⟩)
      · exact filled (get?_seed_runId p)
      · cases stated : p.graph.attributes.get? "goal" with
        | none => exact filled (get?_seed_goal_of_unstated stated)
        | some value => exact filled (get?_seed_of_attribute stated)
      · obtain ⟨value, stated⟩ := Option.isSome_iff_exists.mp stated
        exact filled (get?_seed_of_attribute stated)

/-! ### The goal -/

/-- **When the context and the events tell the same goal**: when it is a text, or not stated. -/
theorem goal_agrees_iff (p : Plan σ) :
    (seed p).get? (graphKey "goal") = some (.text p.graph.goal) ↔
      ∀ value, p.graph.attributes.get? "goal" = some value → value.text?.isSome = true := by
  cases stated : p.graph.attributes.get? "goal" with
  | none => simp [get?_seed_goal_of_unstated stated]
  | some value =>
      rw [get?_seed_of_attribute stated, Graph.goal, Attributes.text, stated]
      cases value with
      | text s => simp [Value.render, Value.text?]
      | integer | float | boolean | duration =>
          -- the events tell no goal, and the canonical text is not empty
          refine iff_of_false (fun same => ?_) fun texts => ?_
          · simp only [Option.some.injEq, Datum.text.injEq] at same
            exact Value.render_ne_empty rfl same
          · exact absurd (texts _ rfl) (by simp [Value.text?])

/-! ### Runs -/

/-- **How runs begin.**  A run of a valid graph has told of its beginning when it goes to its first
node, and nothing else.  Its context is filled with its name and the canonical texts of the
attributes of the graph, in whatever order these are written, and it has an empty goal if the graph
states none.  The goal in the context is the one in the event if it is a text or not stated, and
only then. -/
theorem begins_seeded (memory : σ) (valid : p.graph.isValid = true) :
    ∃ start, execute p memory = walk p p.limit (opening p memory) start ∧
      (opening p memory).events = [.pipelineStarted p.graph.goal p.graph.nodes.size] ∧
      Seeded p (opening p memory).context ∧
      (∀ attributes, attributes.Perm p.graph.attributes.entries →
        seedIn p attributes = (opening p memory).context) ∧
      ((opening p memory).context.get? (graphKey "goal") = some (.text p.graph.goal) ↔
        ∀ value, p.graph.attributes.get? "goal" = some value → value.text?.isSome = true) := by
  obtain ⟨start, runs⟩ := exists_walk_of_isValid memory valid
  exact ⟨start, (runs p.limit).1, rfl, seeded_seed p, fun _ => seedIn_of_perm, goal_agrees_iff p⟩

/-- A graph with a number for a goal, and with an attribute that is named like the name of the run. -/
def numberedGraph : Graph :=
  ⟨"numbered", .ofList [("goal", .integer 5), ("run_id", .text "mine"), ("pace", .duration 5000)],
    .ofList [
      ("begin", ⟨"begin", .ofList [("shape", .text "Mdiamond")]⟩),
      ("ship", ⟨"ship", .ofList [("shape", .text "Msquare")]⟩)],
    [⟨"begin", "ship", .empty⟩]⟩

/-- A run of the numbered graph. -/
def numberedPlan : Plan Nat := ⟨"run", numberedGraph, .empty, 10, .none⟩

/-- The name of the run stays apart from the attribute, also when this is written first. -/
theorem numberedPlan_begins_seeded :
    numberedGraph.isValid = true ∧
    (opening numberedPlan 0).context.get? "run_id" = some (.text "run") ∧
    (opening numberedPlan 0).context.get? "graph.run_id" = some (.text "mine") ∧
    (opening numberedPlan 0).context.get? "graph.pace" = some (.text "5000") ∧
    seedIn numberedPlan [("run_id", .text "mine"), ("pace", .duration 5000), ("goal", .integer 5)] =
      (opening numberedPlan 0).context ∧
    (opening numberedPlan 0).context.get? "graph.goal" ≠ some (.text "") := by
  have valid : numberedGraph.isValid = true := by decide +kernel
  obtain ⟨start, -, -, seeded, orders, agrees⟩ := begins_seeded (p := numberedPlan) 0 valid
  refine ⟨valid, seeded.runId, seeded.stated "run_id" (.text "mine") rfl, ?_, orders _ ?_, ?_⟩
  · exact seeded.stated "pace" (.duration 5000) rfl
  · exact .trans (.cons _ (.swap _ _ _)) (.trans (.swap _ _ _) (.cons _ (.swap _ _ _)))
  · intro same
    exact absurd (agrees.mp same (.integer 5) rfl) (by decide)

/-- The event tells no goal, and the context holds the number as one. -/
theorem goal_told_differently :
    numberedGraph.isValid = true ∧ (opening numberedPlan 0).events = [.pipelineStarted "" 2] ∧
      (opening numberedPlan 0).context.get? "graph.goal" = some (.text "5") := by
  have number : (seed numberedPlan).get? (graphKey "goal") = some (.text (Value.integer 5).render) :=
    get?_seed_of_attribute rfl
  exact ⟨by decide +kernel, by decide +kernel, number⟩

end Workflow.Run
