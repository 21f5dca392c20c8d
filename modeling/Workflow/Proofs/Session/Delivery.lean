import Workflow.Proofs.Run.Attended
import Workflow.Proofs.Session.Prompts
import Workflow.Session.Delivery

/-!
# Delivery makes no difference

The messages of a session are sent while its run goes on, between the prompts, by a sender that
may fail in any way.  The sender and the responder share no memory, the failures are passed
over, and the verbosity is looked at by the sink alone.  So neither whether a message arrives nor
whether it is sent at all reaches the run: sessions that differ only in their senders and
verbosities end alike and ask alike, and the one with the lesser verbosity attempts some of the
messages of the other.

## Main Definitions

* `Sender.recorded` — a sender with a record of all that it was given.
* `Session.watched` — an attended session with a record of its prompts and one of its messages.

## Main Statements

* `Session.attend_map_fst` — an attended session ends as the session without a sender.
* `Session.attempted_eq` — what is attempted are the messages of that session.
* `Session.delivery_makes_no_difference` — both, for two attended sessions.
-/

namespace Workflow

variable {σ τ : Type}

/-! ### Verbosities in order -/

namespace Verbosity

/-- The verbosities in order, the least first. -/
def rank : Verbosity → Nat
  | .minimal => 0
  | .standard => 1
  | .verbose => 2

instance : LE Verbosity := ⟨fun v w => v.rank ≤ w.rank⟩

instance (v w : Verbosity) : Decidable (v ≤ w) := inferInstanceAs (Decidable (v.rank ≤ w.rank))

/-- What one verbosity shows, a greater one shows too. -/
theorem shows_mono {v w : Verbosity} (le : v ≤ w) {k : Event.Kind} (shown : v.shows k = true) :
    w.shows k = true := by
  cases v <;> cases w
  case minimal.minimal | standard.standard | verbose.verbose => exact shown
  case minimal.standard =>
    exact Bool.or_eq_true_iff.mpr (.inl shown)
  case minimal.verbose | standard.verbose => rfl
  case standard.minimal | verbose.minimal | verbose.standard => exact absurd le (by decide)

end Verbosity

/-! ### Senders with a record -/

namespace Sender

/-- The sender, with a record of all that it was given to send, oldest first. -/
def recorded (sender : Sender τ) : Sender (τ × List String) where
  send text mail :=
    ((sender.send text mail.1).1, (sender.send text mail.1).2, mail.2 ++ [text])

theorem deliver_eq (sender : Sender τ) (text : String) (mail : τ) :
    sender.deliver text mail = (sender.send text mail).2 := by
  unfold deliver
  split <;> next eq => rw [eq]

/-- A message is recorded whether it was sent or not. -/
theorem deliver_recorded (sender : Sender τ) (text : String) (mail : τ × List String) :
    sender.recorded.deliver text mail = (sender.deliver text mail.1, mail.2 ++ [text]) := by
  rw [deliver_eq, deliver_eq]
  rfl

/-- The sink does not reach the memory of the responder. -/
theorem sink_fst (sender : Sender τ) (v : Verbosity) (e : Event.Kind) (world : σ × τ) :
    (sender.sink v e world).1 = world.1 := by
  unfold sink
  split <;> rfl

/-- The sink of a recorded sender adds to the record what the verbosity shows. -/
theorem sink_recorded (sender : Sender τ) (v : Verbosity) (e : Event.Kind)
    (world : σ × τ × List String) :
    (sender.recorded.sink v e world).2.2 = world.2.2 ++ (e.messageAt? v).toList := by
  unfold sink
  cases e.messageAt? v with
  | none => exact (List.append_nil _).symm
  | some text =>
      simp only [deliver_recorded]
      rfl

/-- Without the records the sink is the one of the sender. -/
theorem recorded_forgets {ρ : Type} (sender : Sender τ) (v : Verbosity) :
    Run.Sink.Forgets (Prod.map Prod.fst Prod.fst)
      (sender.recorded.sink v : Run.Sink ((σ × ρ) × τ × List String)) (sender.sink v) := by
  intro e world
  unfold sink
  cases e.messageAt? v with
  | none => rfl
  | some text => simp only [deliver_recorded, Prod.map]

end Sender

/-! ### Responders in a larger world -/

namespace Responder

theorem beside_forgets (r : Responder σ) (τ : Type) : (r.beside τ).Forgets Prod.fst r :=
  fun _ _ _ => rfl

theorem recorded_beside_forgets (r : Responder σ) (τ : Type) :
    (r.recorded.beside (τ × List String)).Forgets (Prod.map Prod.fst Prod.fst) (r.beside τ) :=
  fun _ _ _ => rfl

/-- A responder leaves alone what is beside its memory. -/
theorem registry_beside_keeps (r : Responder σ) (τ : Type) :
    (r.beside τ).registry.Keeps Prod.snd := by
  intro kind h handled g n context world
  rcases eq_of_get?_registry handled with ⟨-, rfl⟩ | ⟨-, rfl⟩
  · unfold tool
    dsimp only
    split <;> rfl
  · rfl

end Responder

namespace Session

open Run

/-! ### One attended session -/

/-- The setup at another verbosity. -/
def Setup.telling (setup : Setup σ) (v : Verbosity) : Setup σ := { setup with verbosity := v }

/-- **An attended session ends as the session without a sender.** -/
theorem attend_map_fst (setup : Setup σ) (sender : Sender τ) (source : String) (memory : σ)
    (mail : τ) :
    (attend setup sender source memory mail).map Prod.fst =
      (conduct setup source memory).result := by
  unfold attend conduct
  cases Source.parse source with
  | error e => rfl
  | ok g =>
      exact attend_map_eq_execute (p := (setup.beside τ).plan g)
        (fun e world => sender.sink_fst setup.verbosity e world)
        (setup.responder.beside_forgets τ).registry (memory, mail)

/-- An attended session with a record of its prompts and one of its messages. -/
def watched (setup : Setup σ) (sender : Sender τ) (source : String) (memory : σ) (mail : τ) :
    Result ((σ × List (Node × String)) × τ × List String) :=
  attend setup.recorded sender.recorded source (memory, []) (mail, [])

/-- All messages that an attended session attempts to send, oldest first. -/
def attempted (setup : Setup σ) (sender : Sender τ) (source : String) (memory : σ) (mail : τ) :
    List String :=
  (watched setup sender source memory mail).state.memory.2.2

/-- All that an attended session asks, oldest first. -/
def prompted (setup : Setup σ) (sender : Sender τ) (source : String) (memory : σ) (mail : τ) :
    List (Node × String) :=
  (watched setup sender source memory mail).state.memory.1.2

/-- To watch an attended session makes no difference. -/
theorem attend_eq_watched (setup : Setup σ) (sender : Sender τ) (source : String) (memory : σ)
    (mail : τ) :
    attend setup sender source memory mail =
      (watched setup sender source memory mail).map (Prod.map Prod.fst Prod.fst) := by
  unfold watched attend
  cases Source.parse source with
  | error e => simp only [Sender.deliver_recorded]; rfl
  | ok g =>
      exact attend_map (p := (setup.recorded.beside (τ × List String)).plan g)
        (sender.recorded_forgets setup.verbosity)
        (setup.responder.recorded_beside_forgets τ).registry ((memory, []), (mail, []))

/-- An attended session asks what the session without a sender asks. -/
theorem prompted_eq (setup : Setup σ) (sender : Sender τ) (source : String) (memory : σ)
    (mail : τ) : prompted setup sender source memory mail = asked setup source memory := by
  have same := attend_map_fst setup.recorded sender.recorded source (memory, []) (mail, [])
  exact congrArg (fun r => r.state.memory.2) same

/-- The record of a sender is what the verbosity shows of the events. -/
theorem foldl_messages (v : Verbosity) (events : List Event.Kind) (sent : List String) :
    events.foldl (fun sent e => sent ++ (e.messageAt? v).toList) sent =
      sent ++ messages v events := by
  induction events generalizing sent with
  | nil => exact (List.append_nil sent).symm
  | cons e events ih =>
      rw [List.foldl_cons, ih, List.append_assoc, messages, messages, List.filterMap_cons]
      cases e.messageAt? v <;> rfl

/-- A run whose messages are recorded attempts what the verbosity shows of its events. -/
theorem attend_sent {ρ : Type} (sender : Sender τ) (v : Verbosity)
    {p : Plan (ρ × τ × List String)} (keeps : p.registry.Keeps Prod.snd)
    (world : ρ × τ × List String) :
    (Run.attend (sender.recorded.sink v) p world).state.memory.2.2 =
      world.2.2 ++ messages v (Run.attend (sender.recorded.sink v) p world).state.events := by
  have kept : p.registry.Keeps fun world => world.2.2 := fun kind h handled g n context world =>
    congrArg Prod.snd (keeps kind h handled g n context world)
  rw [← foldl_messages]
  exact attend_heard (sender.sink_recorded v) kept world

/-- **What is attempted are the messages of the session**, whatever becomes of them. -/
theorem attempted_eq (setup : Setup σ) (sender : Sender τ) (source : String) (memory : σ)
    (mail : τ) :
    attempted setup sender source memory mail = (conduct setup source memory).messages := by
  have same := attend_map_fst setup.recorded sender.recorded source (memory, []) (mail, [])
  rw [conduct_recorded]
  unfold attempted watched
  unfold attend conduct at same ⊢
  cases read : Source.parse source with
  | error e => exact congrArg Prod.snd (sender.deliver_recorded (unreadable e) (mail, []))
  | ok g =>
      simp only [read] at same ⊢
      rw [← same]
      exact attend_sent sender setup.verbosity (setup.recorded.responder.registry_beside_keeps _) _

/-- A greater verbosity tells more. -/
theorem messages_sublist {v w : Verbosity} (le : v ≤ w) (events : List Event.Kind) :
    (messages v events).Sublist (messages w events) := by
  have shown (v : Verbosity) :
      messages v events = (events.filter v.shows).filterMap fun e => some e.message :=
    List.filterMap_filter.symm
  rw [shown, shown]
  exact (List.monotone_filter_right events fun _ => Verbosity.shows_mono le).filterMap _

/-! ### Two attended sessions -/

/-- What a session ends with does not depend on its verbosity. -/
theorem conduct_telling (setup : Setup σ) (v w : Verbosity) (source : String) (memory : σ) :
    (conduct (setup.telling v) source memory).result =
      (conduct (setup.telling w) source memory).result := by
  unfold conduct
  cases Source.parse source <;> rfl

/-- The messages of a session at a lesser verbosity are some of those at a greater one. -/
theorem conduct_messages_sublist {v w : Verbosity} (le : v ≤ w) (setup : Setup σ)
    (source : String) (memory : σ) :
    ((conduct (setup.telling v) source memory).messages).Sublist
      (conduct (setup.telling w) source memory).messages := by
  unfold conduct
  cases Source.parse source with
  | error e => exact List.Sublist.refl _
  | ok g => exact messages_sublist le _

/-- **Delivery makes no difference.**  Take two attended sessions with one source, one responder
and the same rules, each with a sender of its own, which may fail in any way, and with a verbosity
of its own.  To watch one for its prompts and messages changes nothing, and it ends as the session
without a sender, whose messages it attempts.  Both end alike: in the way they end, in the nodes
passed, their statuses, the context, and all else that the run records; and both ask the same in
the same order.  If the verbosity of the first is at most that of the second, then what it attempts
to send is a part of what the second does, in the same order.  If the source cannot be read, one
message says so, nothing is asked, and the session fails without a node passed. -/
theorem delivery_makes_no_difference {υ : Type} (setup : Setup σ) (source : String) (memory : σ)
    (v w : Verbosity) (sender : Sender τ) (mail : τ) (sender' : Sender υ) (mail' : υ) :
    attend (setup.telling v) sender source memory mail =
      (watched (setup.telling v) sender source memory mail).map (Prod.map Prod.fst Prod.fst) ∧
    conduct (setup.telling v) source memory =
      ⟨(attend (setup.telling v) sender source memory mail).map Prod.fst,
        attempted (setup.telling v) sender source memory mail⟩ ∧
    (attend (setup.telling v) sender source memory mail).map Prod.fst =
      (attend (setup.telling w) sender' source memory mail').map Prod.fst ∧
    prompted (setup.telling v) sender source memory mail =
      prompted (setup.telling w) sender' source memory mail' ∧
    (v ≤ w → (attempted (setup.telling v) sender source memory mail).Sublist
      (attempted (setup.telling w) sender' source memory mail')) ∧
    ∀ e, Source.parse source = .error e →
      attempted (setup.telling v) sender source memory mail = [unreadable e] ∧
      prompted (setup.telling v) sender source memory mail = [] ∧
      (attend (setup.telling v) sender source memory mail).ending = .failed (.unreadable e) ∧
      (attend (setup.telling v) sender source memory mail).state.completed = [] := by
  refine ⟨attend_eq_watched _ _ _ _ _, ?conducted, ?ending, ?prompts, fun le => ?messages,
    fun e read => ?unread⟩
  case conducted => rw [attend_map_fst, attempted_eq]
  case ending =>
    rw [attend_map_fst, attend_map_fst]
    exact conduct_telling setup v w source memory
  case prompts =>
    rw [prompted_eq, prompted_eq]
    exact congrArg (fun r => r.state.memory.2)
      (conduct_telling setup.recorded v w source (memory, []))
  case messages =>
    rw [attempted_eq, attempted_eq]
    exact conduct_messages_sublist le setup source memory
  case unread =>
    rw [attempted_eq, prompted_eq, asked, conduct, conduct, attend, read]
    exact ⟨rfl, rfl, rfl, rfl⟩

/-- A sender that never gets through. -/
def deaf : Sender Unit := ⟨fun _ mail => (.error (.other "channel closed"), mail)⟩

/-- A sender that counts what it sends. -/
def counting : Sender Nat := ⟨fun _ sent => (.ok (), sent + 1)⟩

/-- Two sessions about one task, with little and with much told about it, and one about a text that
is no graph. -/
theorem shipText_delivered :
    (attempted (busySetup.telling .minimal) deaf shipText 0 ()).Sublist
      (attempted (busySetup.telling .verbose) counting shipText 0 0) ∧
    (attempted (busySetup.telling .minimal) deaf shipText 0 ()).length = 2 ∧
    (attempted (busySetup.telling .verbose) counting shipText 0 0).length = 7 ∧
    ∃ e, Source.parse "graph" = .error e ∧
      attempted (busySetup.telling .minimal) deaf "graph" 0 () = [unreadable e] := by
  have few : (attempted (busySetup.telling .minimal) deaf shipText 0 ()).length = 2 := by
    decide +kernel
  have many : (attempted (busySetup.telling .verbose) counting shipText 0 0).length = 7 := by
    decide +kernel
  have failed : (Source.parse "graph").toOption.isNone = true := by decide +kernel
  obtain ⟨-, -, -, -, part, -⟩ :=
    delivery_makes_no_difference busySetup shipText 0 .minimal .verbose deaf () counting 0
  obtain ⟨-, -, -, -, -, unread⟩ :=
    delivery_makes_no_difference busySetup "graph" 0 .minimal .verbose deaf () counting 0
  refine ⟨part (by decide), few, many, ?_⟩
  cases read : Source.parse "graph" with
  | ok g =>
      rw [read] at failed
      cases failed
  | error e => exact ⟨e, rfl, (unread e read).1⟩

end Session

end Workflow
