import Workflow.Draft
import Workflow.Lexer

/-!
# Source texts

A workflow is written as one named graph: `digraph`, a name, and a block.

## Main Definitions

* `Source.graph` — the graph that a token list spells.
* `Source.parse` — the graph that a text spells.
-/

namespace Workflow.Source

open Grammar

/-- The tokens before the first `eof`, and that `eof`. -/
def untilEnd : List Token → List Token × Option Token
  | [] => ([], none)
  | t :: ts =>
    if t.kind = .eof then ([], some t)
    else
      let (before, stop) := untilEnd ts
      (t :: before, stop)

/-- The name of the graph. -/
def graphName (stop : Token) : List Token → Except Failure (String × List Token)
  | [] => .error ⟨.graphName, stop⟩
  | t :: ts => if isName t then .ok (t.value, ts) else .error ⟨.graphName, t⟩

/-- The graph that tokens without an `eof` spell; `stop` is blamed when they run out. -/
def graphOf (stop : Token) (ts : List Token) : Except Failure Graph := do
  let (_, ts) ← expect stop .digraph ts
  let (name, ts) ← graphName stop ts
  let (_, ts) ← expect stop .lbrace ts
  let closed ← block stop (.start name) ts
  match closed.rest with
  | [] => return closed.draft.graph
  | t :: _ => throw ⟨.trailing, t⟩

/-- The graph that a token list spells.  The list must end with `eof`, and nothing behind its first
`eof` is looked at. -/
def graph (tokens : List Token) : Except Failure Graph :=
  match tokens.getLast? with
  | none => .error ⟨.expected .digraph, ⟨.eof, "", .start⟩⟩
  | some last =>
    if last.kind = .eof then
      let (before, stop) := untilEnd tokens
      graphOf (stop.getD last) before
    else .error ⟨.missingEnd, last⟩

/-- The graph that a text spells. -/
def parse (text : String) : Except Error Graph :=
  match Lexer.tokenize text with
  | .error failure => .error failure.toError
  | .ok tokens =>
    match graph tokens with
    | .error failure => .error failure.toError
    | .ok g => .ok g

end Workflow.Source
