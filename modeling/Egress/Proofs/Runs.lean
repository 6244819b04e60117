import Egress.Proofs.Logged

/-!
Runs of a sender. An application calls a sender, or opens a stream, which then has the sender to itself until it
is dropped. Between two calls the carrier may work on its own, tickets may be issued and completed elsewhere, and
other senders of the session may use its pool and its turn. Every order of these events is a run.
-/
namespace Egress

/-- What happens outside the calls on a sender. -/
inductive Elsewhere where
  | work
  | issue (recipient : Recipient)
  | complete (ticket : Ticket) (outcome : Outcome)
  /-- Other senders of the session have used its pool and its turn. -/
  | share (pool : BufferPool) (turn : Turn)

/-- What an application can ask of a sender. -/
inductive Call (types : ValueTypes) where
  | frame (frame : Frame) (ticket : Ticket) (mode : BatchMode)
  | text (content : String) (ticket : Ticket)
  | binary (payload : Bytes) (ticket : Ticket)
  | fragment (kind : MessageKind) (payload : Bytes) (last : Bool) (ticket : Ticket)
  | ping (payload : Bytes)
  | pong (payload : Bytes)
  | object (object : Option types.Object) (ticket : Ticket)
  | beginFlush
  | resumeFlush (state : Sender.FlushState)
  | abandonFlush (state : Sender.FlushState)
  | beginSetBatchMode (mode : BatchMode)
  | resumeSetBatchMode (mode : BatchMode) (state : Sender.FlushState)
  | setIdleTimeout (span : Duration)

/-- What can happen while a stream is open. What is written to a text stream is the UTF-8 form of a text. -/
inductive StreamEvent where
  | write (bytes : Bytes)
  | flush
  | fail (error : SendError)
  | attach (ticket : Ticket)
  | close
  | elsewhere (event : Elsewhere)

inductive Event (types : ValueTypes) where
  | call (call : Call types)
  | openStream (kind : MessageKind) (bufferSize : Nat) (ticket : Ticket)
  | stream (event : StreamEvent)
  | dropStream
  | elsewhere (event : Elsewhere)

namespace Sender

variable {types : ValueTypes} {σ : Type} [Carrier σ]

def afterElsewhere (sender : Sender types σ) : Elsewhere → Sender types σ
  | .work => sender.letWork
  | .issue recipient => (sender.issue recipient).2
  | .complete ticket outcome => { sender with ledger := sender.ledger.complete ticket outcome }
  | .share pool turn => { sender with session.pool := pool, session.turn := turn }

def afterCall (sender : Sender types σ) : Call types → Sender types σ
  | .frame frame ticket mode => sender.sendFrame frame ticket mode
  | .text content ticket => sender.sendText content ticket
  | .binary payload ticket => sender.sendBinary payload ticket
  | .fragment kind payload last ticket => sender.sendPartial kind payload last ticket
  | .ping payload => (sender.sendPing payload).2
  | .pong payload => (sender.sendPong payload).2
  | .object object ticket => (sender.sendObject object ticket).2
  | .beginFlush => sender.beginFlush.2
  | .resumeFlush state => (sender.resumeFlush state).2
  | .abandonFlush state => sender.abandonFlush state
  | .beginSetBatchMode mode => (sender.beginSetBatchMode mode).2
  | .resumeSetBatchMode mode state => (sender.resumeSetBatchMode mode state).2
  | .setIdleTimeout span => sender.setIdleTimeout span

/-- Whether a call opens a stream of its own: it does when the object's encoder streams. -/
def opensStream (sender : Sender types σ) : Call types → Bool
  | .object (some object) _ =>
    match (sender.session.registry.lookup object).map Registration.encoder with
    | some (.textStream _) | some (.binaryStream _) => true
    | _ => false
  | _ => false

end Sender

namespace MessageStream

variable {types : ValueTypes} {σ : Type} [Carrier σ]

@[simp] theorem emit_snd (stream : MessageStream types σ) (final : Bool) :
    (stream.emit final).2 = stream.handOver final := by
  unfold emit
  simp only
  split <;> rfl

def after (stream : MessageStream types σ) : StreamEvent → MessageStream types σ
  | .write bytes => (stream.write bytes).2
  | .flush => stream.flush.2
  | .fail error => stream.fail error
  | .attach ticket => stream.setTicket ticket
  | .close => stream.close
  | .elsewhere event => { stream with sender := stream.sender.afterElsewhere event }

def afterAll (stream : MessageStream types σ) (events : List StreamEvent) : MessageStream types σ :=
  events.foldl after stream

theorem afterAll_append (stream : MessageStream types σ) (front back : List StreamEvent) :
    stream.afterAll (front ++ back) = (stream.afterAll front).afterAll back := List.foldl_append

end MessageStream

/-- What every action keeps, an encoder keeps. -/
theorem Emission.run_keeps {Action Refusal State : Type} {answer : State → Action → Except Refusal Unit × State}
    (Inv : State → Prop) (keeps : ∀ state action, Inv state → Inv (answer state action).2)
    (emission : Emission Action Refusal) {state : State} (holds : Inv state) :
    Inv (emission.run answer state).2 := by
  induction emission generalizing state with
  | done result => exact holds
  | act action next ih => exact ih _ (keeps state action holds)

/-- Who has a sender: the application, or a stream. -/
inductive Custody (types : ValueTypes) (σ : Type) where
  | free (sender : Sender types σ)
  | lent (stream : MessageStream types σ)

namespace Custody

variable {types : ValueTypes} {σ : Type} [Carrier σ]

def sender : Custody types σ → Sender types σ
  | .free sender => sender
  | .lent stream => stream.sender

/-- Who has the sender after an event. The application cannot call a sender that is lent, and there is no stream
to call while the sender is free: such events change nothing. -/
def after : Custody types σ → Event types → Custody types σ
  | .free sender, .call call => .free (sender.afterCall call)
  | .free sender, .openStream kind bufferSize ticket =>
    .lent ((MessageStream.start sender kind bufferSize).setTicket ticket)
  | .free sender, .elsewhere event => .free (sender.afterElsewhere event)
  | .lent stream, .stream event => .lent (stream.after event)
  | .lent stream, .dropStream => .free stream.finish
  | .lent stream, .elsewhere event => .lent (stream.after (.elsewhere event))
  | custody, _ => custody

end Custody

/-! ## Traces -/

/-- What is seen of a run from the carrier's side: frames that are handed over, each of them taken or refused,
and streams that are opened and dropped. -/
inductive Mark where
  | opened
  | handed (frame : Frame) (taken : Bool)
  | dropped

def Handover.mark (handover : Handover) : Mark := .handed handover.frame handover.taken

/-- A sender that started fresh, and the trace of what has happened since. -/
structure Run (types : ValueTypes) (σ : Type) where
  custody : Custody types (Logged σ)
  trace : List Mark

namespace Run

variable {types : ValueTypes} {σ : Type} [Carrier σ]

/-- Whether the application hands over an event that opens a stream, and one that drops it. -/
def bounds : Custody types (Logged σ) → Event types → List Mark × List Mark
  | .free _, .openStream _ _ _ => ([.opened], [])
  | .free sender, .call call => if sender.opensStream call then ([.opened], [.dropped]) else ([], [])
  | .lent _, .dropStream => ([], [.dropped])
  | _, _ => ([], [])

/-- The frames that were handed over in the step from one custody to the next. -/
def handed (before after : Custody types (Logged σ)) : List Mark :=
  (after.sender.log.drop before.sender.log.length).map Handover.mark

def step (run : Run types σ) (event : Event types) : Run types σ :=
  let custody := run.custody.after event
  let (front, back) := bounds run.custody event
  { custody, trace := run.trace ++ (front ++ handed run.custody custody ++ back) }

def fromStart (session : Session types) (carrier : σ) (ledger : Ledger) (events : List (Event types)) :
    Run types σ :=
  events.foldl step ⟨.free (.start session (.fresh carrier) ledger), []⟩

end Run
end Egress
