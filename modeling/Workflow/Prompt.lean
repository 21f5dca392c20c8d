import Workflow.Outcome
import Workflow.Text.Search
import Workflow.Work

/-!
# Prompts

The texts in which nodes ask for their work to be done.

## Main Definitions

* `Prompt.ofNode` — the prompt for a task.
* `Prompt.ofCommand` — the prompt for a command.
-/

namespace Workflow.Prompt

/-- A text with the goal in the place of each `$goal`. -/
def expand (goal text : String) : String :=
  String.ofList (Text.replace "$goal".toList (by decide) goal.toList text.toList)

/-- The task that a node states, with its goal filled in. -/
def task (n : Node) (goal : String) : String :=
  let stated := n.attributes.text "prompt" ""
  expand goal (if stated = "" then "Complete this task: " ++ n.label else stated)

/-- How an answer is to be marked. -/
def instructions : List String := [
  "\n---",
  "When done, end your response with `[outcome:success]` if the task succeeded or " ++
    "`[outcome:fail]` if it failed.",
  "If you recommend a specific next step, add `[preferred_label:YourChoice]`."]

/-- The prompt for the task of a node. -/
def ofNode (n : Node) (context : Context) : String :=
  let goal := context.text "graph.goal" ""
  String.intercalate "\n" <|
    ["## Pipeline Task: " ++ n.label ++ "\n"] ++
    (if goal = "" then [] else ["**Goal:** " ++ goal ++ "\n"]) ++
    [task n goal] ++ instructions

/-- The prompt for a command. -/
def ofCommand (command : String) : String :=
  "Run this command and report the result:\n```\n" ++ command ++
    "\n```\nReport the outcome with [outcome:success] or [outcome:fail]."

end Workflow.Prompt
