import Workflow.Answer
import Workflow.Decimal.Integer
import Workflow.Handler
import Workflow.Prompt
import Workflow.Text.Blank

/-!
# Responders

Whoever answers prompts, and the handlers that pass work on to them.

## Main Definitions

* `Responder` — a source of answers.
* `Responder.codergen`, `Responder.tool` — handlers for tasks and commands.
* `Responder.registry` — both of them.
* `Interpreter`, `Responder.ofCommand` — whoever carries out commands, and the
  responder that answers by a command.
-/

namespace Workflow

/-- A source of answers.  An answer may depend on all that was asked before. -/
structure Responder (σ : Type) where
  /-- The answer to a prompt that a node asks. -/
  answer : Node → String → σ → Except Error String × σ

namespace Responder

variable {σ : Type}

/-- What an answer came to; the whole answer becomes the notes. -/
def outcomeOf (answer : String) : Outcome := { Answer.outcome answer with notes := answer }

/-- Ask on behalf of a node. -/
def ask (r : Responder σ) (n : Node) (prompt : String) (context : Context) (memory : σ) :
    Except Error Outcome × Context × σ :=
  let (answer, memory) := r.answer n prompt memory
  (answer.map outcomeOf, context, memory)

/-- The handler for tasks. -/
def codergen (r : Responder σ) : Handler σ where
  kind := Work.codergen
  perform _ n context memory := r.ask n (Prompt.ofNode n context) context memory

/-- The handler for commands.  A node without a command has failed. -/
def tool (r : Responder σ) : Handler σ where
  kind := Work.tool
  perform _ n context memory :=
    let command := n.attributes.text "tool_command" ""
    if command = "" then (.ok (.fail "No tool_command attribute"), context, memory)
    else r.ask n (Prompt.ofCommand command) context memory

/-- The handlers of a responder. -/
def registry (r : Responder σ) : Registry σ :=
  (Registry.register .empty r.codergen).register r.tool

/-- The responder to whom every task is a success. -/
def dry : Responder σ where
  answer _ _ memory := (.ok "[outcome:success]", memory)

end Responder

/-! ### Commands -/

/-- What became of a command. -/
structure Interpreter.Result where
  /-- The exit status. -/
  status : Nat
  /-- What was written. -/
  output : String
  /-- What was complained. -/
  complaints : String

/-- Whoever carries out commands.  What becomes of one may depend on all that were carried out
before. -/
structure Interpreter (σ : Type) where
  /-- What becomes of a command, with the values of its variables and its input. -/
  carryOut : String → Table String → String → σ → Interpreter.Result × σ

/-- The responder that answers by a command: the prompt is its input, the node id the value of a
variable, and its output the answer.  A command that fails answers nothing. -/
def Responder.ofCommand {σ : Type} (i : Interpreter σ) (command : String) : Responder σ where
  answer n prompt memory :=
    let (result, memory) := i.carryOut command (.ofList [("TRELLIS_NODE_ID", n.id)]) prompt memory
    let answer := if result.status = 0 then .ok result.output
      else
        .error (.handler "shell" n.id
          ("command exited with exit status: " ++ Decimal.showNat result.status ++ ": " ++
            String.ofList (Text.trim result.complaints.toList)))
    (answer, memory)

end Workflow
