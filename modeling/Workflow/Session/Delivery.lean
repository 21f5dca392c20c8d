import Workflow.Run.Attended
import Workflow.Session

/-!
# Delivery of messages

The messages of a session are sent while it goes on, by a sender that may fail.

## Main Definitions

* `Sender` — whoever sends messages.
* `Sender.sink` — the sink that makes messages of events and sends them.
* `Session.attend` — a whole session with a sender.

## Design Notes

The world of an attended session is a pair: the memory of the responder, and what the sender
has to do with.  The responder acts on the first and the sender on the second.
-/

namespace Workflow

variable {σ τ : Type}

/-- Whoever sends messages.  What becomes of one may depend on all that were sent before. -/
structure Sender (τ : Type) where
  /-- Send a message. -/
  send : String → τ → Except Error Unit × τ

namespace Sender

/-- Send a message.  A failure to send it is passed over. -/
def deliver (sender : Sender τ) (text : String) (mail : τ) : τ :=
  match sender.send text mail with
  | (.ok (), mail) => mail
  | (.error _, mail) => mail

/-- Send a message about an event, unless the verbosity hides it. -/
def sink (sender : Sender τ) (v : Verbosity) : Run.Sink (σ × τ) := fun e world =>
  match e.messageAt? v with
  | none => world
  | some text => (world.1, sender.deliver text world.2)

end Sender

/-- The responder in a world of which it knows the first part. -/
def Responder.beside (r : Responder σ) (τ : Type) : Responder (σ × τ) where
  answer n prompt world :=
    let (answer, memory) := r.answer n prompt world.1
    (answer, memory, world.2)

namespace Session

/-- The setup in a world with a sender. -/
def Setup.beside (setup : Setup σ) (τ : Type) : Setup (σ × τ) :=
  ⟨setup.id, setup.responder.beside τ, setup.limit, setup.backoff, setup.verbosity⟩

/-- The message about a source that cannot be read. -/
def unreadable (e : Error) : String := "[Pipeline] Failed to parse: " ++ e.message

/-- Read a source and run its graph, with messages sent on the way. -/
def attend (setup : Setup σ) (sender : Sender τ) (source : String) (memory : σ) (mail : τ) :
    Run.Result (σ × τ) :=
  match Source.parse source with
  | .error e =>
    ⟨.failed (.unreadable e),
      Run.State.initial (memory, sender.deliver (unreadable e) mail)⟩
  | .ok g =>
    Run.attend (sender.sink setup.verbosity) ((setup.beside τ).plan g) (memory, mail)

end Session

end Workflow
