import Workflow.Proofs.Validity

/-!
# Findings, rule by rule

The findings of a graph are the findings of nine rules, one behind the other.  A finding
knows its rule, and its severity hangs on the rule alone; so whoever asks for the findings
of a rule, or for the errors, asks for some of the nine parts.

## Main Definitions

* `Graph.rules` — the rules by name, each with what it finds.

## Main Statements

* `Graph.filter_findings` — to pick findings by rule is to pick rules.
* `Graph.errors_eq_nil_iff` — a graph has no errors when six rules find nothing.
* `Graph.filter_findings_reachability` — the findings about paths from the start.
-/

namespace Workflow

/-- The names of the rules whose findings are errors. -/
def Finding.errorRules : List String :=
  ["start_node", "exit_node", "start_no_incoming", "exit_no_outgoing", "edge_endpoints_exist",
    "reachability"]

/-- The severity of a finding hangs on its rule. -/
theorem Finding.severity_eq_error_iff {f : Finding} :
    f.severity = .error ↔ f.rule ∈ errorRules := by
  cases f <;> simp [severity, rule, errorRules]

namespace Graph

variable (g : Graph)

/-- The rules by name, in order, each with what it finds. -/
def rules : List (String × List Finding) :=
  [("start_node", g.checkStart), ("exit_node", g.checkExit),
    ("start_no_incoming", g.checkEdgesToStart), ("exit_no_outgoing", g.checkEdgesFromExit),
    ("edge_endpoints_exist", g.checkEndpoints), ("reachability", g.checkReachability),
    ("prompt_on_codergen", g.checkPrompts), ("goal_gate_has_retry", g.checkGates),
    ("retry_target_exists", g.checkTargets)]

theorem findings_eq_flatMap_rules : g.findings = g.rules.flatMap (·.2) := by
  simp [findings, rules]

/-! ### Every finding knows its rule -/

theorem rule_of_mem_checkStart {f : Finding} (mem : f ∈ g.checkStart) : f.rule = "start_node" := by
  unfold checkStart at mem
  split at mem
  · rw [List.mem_singleton.mp mem]; rfl
  · cases mem
  · rw [List.mem_singleton.mp mem]; rfl

theorem rule_of_mem_checkExit {f : Finding} (mem : f ∈ g.checkExit) : f.rule = "exit_node" := by
  unfold checkExit at mem
  split at mem
  · cases mem
  · rw [List.mem_singleton.mp mem]; rfl

theorem rule_of_mem_checkEndpoints {f : Finding} (mem : f ∈ g.checkEndpoints) :
    f.rule = "edge_endpoints_exist" := by
  obtain ⟨e, -, found⟩ := List.mem_flatMap.mp mem
  rcases List.mem_append.mp found with found | found
  · split at found
    · cases found
    · rw [List.mem_singleton.mp found]; rfl
  · split at found
    · cases found
    · rw [List.mem_singleton.mp found]; rfl

theorem rule_of_mem_checkReachability {f : Finding} (mem : f ∈ g.checkReachability) :
    f.rule = "reachability" := by
  unfold checkReachability at mem
  split at mem
  · obtain ⟨key, -, rfl⟩ := List.mem_map.mp mem
    rfl
  · cases mem

theorem rule_of_mem_checkTargets {f : Finding} (mem : f ∈ g.checkTargets) :
    f.rule = "retry_target_exists" := by
  obtain ⟨entry, -, found⟩ := List.mem_flatMap.mp mem
  obtain ⟨name, -, made⟩ := List.mem_filterMap.mp found
  dsimp only at made
  split at made
  · rw [← Option.some.inj made]; rfl
  · cases made

/-- A rule that makes one finding of each of some nodes. -/
theorem rule_of_mem_map (make : Node → Finding) {name : String} {nodes : List Node}
    (named : ∀ n, (make n).rule = name) {f : Finding} (mem : f ∈ nodes.map make) :
    f.rule = name := by
  obtain ⟨n, -, rfl⟩ := List.mem_map.mp mem
  exact named n

/-- What a rule finds carries the name of the rule. -/
theorem rule_of_mem_rules {r : String × List Finding} (rule : r ∈ g.rules) {f : Finding}
    (mem : f ∈ r.2) : f.rule = r.1 := by
  simp only [rules, List.mem_cons, List.not_mem_nil, or_false] at rule
  rcases rule with rfl | rfl | rfl | rfl | rfl | rfl | rfl | rfl | rfl
  · exact g.rule_of_mem_checkStart mem
  · exact g.rule_of_mem_checkExit mem
  · exact rule_of_mem_map (fun n => .edgeToStart n.id) (fun _ => rfl) mem
  · exact rule_of_mem_map (fun n => .edgeFromExit n.id) (fun _ => rfl) mem
  · exact g.rule_of_mem_checkEndpoints mem
  · exact g.rule_of_mem_checkReachability mem
  · exact rule_of_mem_map (fun n => .noPrompt n.id) (fun _ => rfl) mem
  · exact rule_of_mem_map (fun n => .gateWithoutTarget n.id) (fun _ => rfl) mem
  · exact g.rule_of_mem_checkTargets mem

/-! ### Picking findings -/

theorem filter_flatMap_of_rule {rules : List (String × List Finding)}
    (named : ∀ r ∈ rules, ∀ f ∈ r.2, f.rule = r.1) (p : String → Bool) :
    (rules.flatMap (·.2)).filter (fun f => p f.rule) =
      (rules.filter (fun r => p r.1)).flatMap (·.2) := by
  induction rules with
  | nil => rfl
  | cons r rules ih =>
      have rest := ih fun s mem => named s (List.mem_cons_of_mem r mem)
      have same : ∀ f ∈ r.2, p f.rule = p r.1 := fun f mem =>
        congrArg p (named r List.mem_cons_self f mem)
      rw [List.flatMap_cons, List.filter_append, rest, List.filter_cons]
      cases picked : p r.1 with
      | true =>
          have all : r.2.filter (fun f => p f.rule) = r.2 :=
            List.filter_eq_self.mpr fun f mem => (same f mem).trans picked
          rw [all]
          rfl
      | false =>
          have none : r.2.filter (fun f => p f.rule) = [] :=
            List.filter_eq_nil_iff.mpr fun f mem => by simp [same f mem, picked]
          rw [none]
          rfl

/-- **To pick findings by rule is to pick rules.** -/
theorem filter_findings (p : String → Bool) :
    g.findings.filter (fun f => p f.rule) = (g.rules.filter (fun r => p r.1)).flatMap (·.2) := by
  rw [findings_eq_flatMap_rules]
  exact filter_flatMap_of_rule (fun _ rule _ mem => g.rule_of_mem_rules rule mem) p

/-- The findings about paths from the start. -/
theorem filter_findings_reachability :
    g.findings.filter (·.rule == "reachability") = g.checkReachability := by
  rw [g.filter_findings (· == "reachability")]
  simp [rules]

/-- The errors are what the first six rules find. -/
theorem errors_eq : g.errors = g.checkStart ++ g.checkExit ++ g.checkEdgesToStart ++
    g.checkEdgesFromExit ++ g.checkEndpoints ++ g.checkReachability := by
  have byRule : ∀ f : Finding, decide (f.severity = .error) = Finding.errorRules.contains f.rule :=
    fun f => by rw [Bool.eq_iff_iff, decide_eq_true_iff, List.contains_iff_mem,
      Finding.severity_eq_error_iff]
  rw [errors, List.filter_congr fun f _ => byRule f,
    g.filter_findings Finding.errorRules.contains]
  simp [rules, Finding.errorRules]

/-- A graph has no errors when six rules find nothing. -/
theorem errors_eq_nil_iff : g.errors = [] ↔ g.checkStart = [] ∧ g.checkExit = [] ∧
    g.checkEdgesToStart = [] ∧ g.checkEdgesFromExit = [] ∧ g.checkEndpoints = [] ∧
    g.checkReachability = [] := by
  simp only [errors_eq, List.append_eq_nil_iff, and_assoc]

end Graph

end Workflow
