import Egress.Carrier
import Egress.Fragmentation
import Egress.Frame.Wire
import Egress.Session

/-!
The sending half of a connection. A sender checks every frame against the rules of framing before it hands the
frame to its carrier: data frames must fit the open message, and control frames must be whole and short. Every
send comes with a ticket, which a rejected or refused frame fails at once.
-/
namespace Egress

/-- A sender: its session and carrier, the ledger of outcomes, the batch mode, and the open message. -/
structure Sender (types : ValueTypes) (σ : Type) where
  session : Session types
  carrier : σ
  ledger : Ledger
  batchMode : BatchMode
  openMessage : OpenMessage

inductive Delivery where
  | accepted
  /-- It breaks the rules of framing and went nowhere. -/
  | rejected
  | refused
  deriving DecidableEq

namespace Sender

variable {types : ValueTypes} {σ : Type} [Carrier σ]

/-- A sender in the mode of its settings; its carrier learns the idle time. -/
def start (session : Session types) (carrier : σ) (ledger : Ledger) : Sender types σ where
  session
  carrier := Carrier.setIdleTimeout carrier session.settings.idleTimeout
  ledger
  batchMode := session.settings.batchMode
  openMessage := none

def fail (sender : Sender types σ) (ticket : Ticket) (error : SendError) : Sender types σ :=
  { sender with ledger := sender.ledger.fail ticket error }

def letWork (sender : Sender types σ) : Sender types σ :=
  match Carrier.work sender.carrier sender.ledger with
  | (carrier, ledger) => { sender with carrier, ledger }

def issue (sender : Sender types σ) (recipient : Recipient) : Ticket × Sender types σ :=
  match sender.ledger.issue recipient with
  | (ticket, ledger) => (ticket, { sender with ledger })

/-! ## Frames -/

/-- The control frame that may be sent in place of the given one: itself, or its front part if it is too long
and the policy allows that. -/
def checkControl (policy : ControlPolicy) (frame : Frame) : Except FramingError Frame :=
  if frame.final = false then .error (.fragmentedControl frame.opcode)
  else if frame.payload.length ≤ Frame.maxControlPayload then .ok frame
  else
    match policy with
    | .reject => .error (.controlTooLong frame.payload.length Frame.maxControlPayload)
    | .truncate => .ok ⟨frame.opcode, true, frame.payload.take Frame.maxControlPayload⟩

/-- Hands a frame to the carrier as it is, and gives the carrier's answer. -/
def submit (sender : Sender types σ) (frame : Frame) (ticket : Ticket) (mode : BatchMode) :
    Outcome × Sender types σ :=
  match Carrier.sendFrame sender.carrier sender.ledger frame ticket mode with
  | (verdict, carrier, ledger) => (verdict, { sender with carrier, ledger })

/-- Hands a frame to the carrier. If the carrier refuses it, the ticket fails. -/
def offer (sender : Sender types σ) (frame : Frame) (ticket : Ticket) (mode : BatchMode) :
    Delivery × Sender types σ :=
  match sender.submit frame ticket mode with
  | (.ok (), sender) => (.accepted, sender)
  | (.error error, sender) => (.refused, sender.fail ticket error)

def afterData (sender : Sender types σ) (frame : Frame) : Sender types σ :=
  if frame.final then { sender with openMessage := none } else sender

/-- Checks a frame and hands it to the carrier. A message ends with its last frame, whether or not the carrier
takes it. -/
def dispatch (sender : Sender types σ) (frame : Frame) (ticket : Ticket) (mode : BatchMode) :
    Delivery × Sender types σ :=
  if frame.isData then
    match sender.openMessage.advance frame.opcode with
    | .error error => (.rejected, sender.fail ticket (.framing error))
    | .ok openMessage =>
      match { sender with openMessage }.offer frame ticket mode with
      | (delivery, sender) => (delivery, sender.afterData frame)
  else
    match checkControl sender.session.settings.controlPolicy frame with
    | .error error => (.rejected, sender.fail ticket (.framing error))
    | .ok frame => sender.offer frame ticket mode

def abandonMessage (sender : Sender types σ) : Sender types σ := { sender with openMessage := none }

def sendFrame (sender : Sender types σ) (frame : Frame) (ticket : Ticket) (mode : BatchMode) : Sender types σ :=
  (sender.dispatch frame ticket mode).2

def sendText (sender : Sender types σ) (text : String) (ticket : Ticket) : Sender types σ :=
  sender.sendFrame (.text text) ticket sender.batchMode

def sendBinary (sender : Sender types σ) (payload : Bytes) (ticket : Ticket) : Sender types σ :=
  sender.sendFrame (.binary payload) ticket sender.batchMode

/-- Sends a fragment of a message: the first one names the kind, the others continue. -/
def sendPartial (sender : Sender types σ) (kind : MessageKind) (payload : Bytes) (last : Bool) (ticket : Ticket) :
    Sender types σ :=
  sender.sendFrame ⟨sender.openMessage.fragmentOpcode kind, last, payload⟩ ticket sender.batchMode

/-- Sends a control frame that nobody waits for; only a refusal is reported. -/
def sendControl (sender : Sender types σ) (frame : Frame) : Outcome × Sender types σ :=
  match checkControl sender.session.settings.controlPolicy frame with
  | .error error => (.error (.framing error), sender)
  | .ok frame =>
    match sender.issue .nobody with
    | (ticket, sender) => sender.submit frame ticket sender.batchMode

def sendPing (sender : Sender types σ) (payload : Bytes) : Outcome × Sender types σ :=
  sender.sendControl (.ping payload)

def sendPong (sender : Sender types σ) (payload : Bytes) : Outcome × Sender types σ :=
  sender.sendControl (.pong payload)

/-! ## Idle time -/

def idleTimeout (sender : Sender types σ) : Duration := Carrier.idleTimeout sender.carrier

def setIdleTimeout (sender : Sender types σ) (span : Duration) : Sender types σ :=
  { sender with carrier := Carrier.setIdleTimeout sender.carrier span }

/-! ## Flushing and batch modes -/

inductive FlushState where
  | waiting (wait : Wait)
  | done (outcome : Outcome)

/-- The number under which a sender waits for its turn. -/
def waiter : Nat := 0

def pollFlush (sender : Sender types σ) (ticket : Ticket) : FlushState × Sender types σ :=
  match Wait.poll sender.session.turn sender.ledger (Carrier.held sender.carrier) ticket with
  | (some outcome, turn) => (.done outcome, { sender with session.turn := turn })
  | (none, turn) => (.waiting (.blocking ticket), { sender with session.turn := turn })

/-- Asks the carrier to flush. A refusal is the outcome of the flush. -/
def askFlush (sender : Sender types σ) (ticket : Ticket) : FlushState × Sender types σ :=
  match Carrier.flush sender.carrier sender.ledger ticket with
  | (.ok (), carrier, ledger) => { sender with carrier, ledger }.pollFlush ticket
  | (.error error, carrier, ledger) => ({ sender with carrier, ledger }.fail ticket error).pollFlush ticket

/-- Goes on with a flush as far as it can go. -/
def goOn (sender : Sender types σ) : Wait × Turn × Ledger → FlushState × Sender types σ
  | (wait, turn, ledger) =>
    let sender := { sender with session.turn := turn, ledger }
    match wait with
    | .queued waiter => (.waiting (.queued waiter), sender)
    | .holding ticket => sender.askFlush ticket
    | .blocking ticket => sender.pollFlush ticket

def beginFlush (sender : Sender types σ) : FlushState × Sender types σ :=
  sender.goOn (Wait.start sender.session.turn sender.ledger waiter)

/-- Looks whether a flush can go on or has come to its end. -/
def resumeFlush (sender : Sender types σ) : FlushState → FlushState × Sender types σ
  | .waiting wait => sender.goOn (wait.retry sender.session.turn sender.ledger)
  | .done outcome => (.done outcome, sender)

def abandonFlush (sender : Sender types σ) : FlushState → Sender types σ
  | .waiting wait => { sender with session.turn := wait.giveUp sender.session.turn }
  | .done _ => sender

/-- Takes up the new mode once the flush before it has succeeded. -/
def takeUpMode (mode : BatchMode) : FlushState × Sender types σ → FlushState × Sender types σ
  | (.done (.ok ()), sender) => (.done (.ok ()), { sender with batchMode := mode })
  | other => other

/-- Begins to change the batch mode. Going from on to off flushes first. -/
def beginSetBatchMode (sender : Sender types σ) (mode : BatchMode) : FlushState × Sender types σ :=
  if sender.batchMode = .on ∧ mode = .off then takeUpMode mode sender.beginFlush
  else (.done (.ok ()), { sender with batchMode := mode })

def resumeSetBatchMode (sender : Sender types σ) (mode : BatchMode) (state : FlushState) :
    FlushState × Sender types σ :=
  takeUpMode mode (sender.resumeFlush state)

def FlushState.outcome? : FlushState → Option Outcome
  | .done outcome => some outcome
  | .waiting _ => none

/-- Begins a wait, lets the carrier work if that is needed, looks once more, and then gives the wait up unless
it has come to its end. -/
def await (sender : Sender types σ) (begun : Sender types σ → FlushState × Sender types σ)
    (work : Sender types σ → Sender types σ)
    (resumed : Sender types σ → FlushState → FlushState × Sender types σ) : Option Outcome × Sender types σ :=
  let (state, sender) := match begun sender with
    | (.done outcome, sender) => (FlushState.done outcome, sender)
    | (state, sender) => resumed (work sender) state
  (state.outcome?, sender.abandonFlush state)

/-- Flushes, as far as the carrier can do it by working once. -/
def flush (sender : Sender types σ) (work : Sender types σ → Sender types σ) : Option Outcome × Sender types σ :=
  sender.await beginFlush work resumeFlush

/-- Changes the batch mode, as far as the carrier can do its part by working once. -/
def setBatchMode (sender : Sender types σ) (mode : BatchMode) (work : Sender types σ → Sender types σ) :
    Option Outcome × Sender types σ :=
  sender.await (·.beginSetBatchMode mode) work (·.resumeSetBatchMode mode ·)

/-- The number under which someone else asks for the turn. -/
def borrower : Nat := 1

/-- Lets someone else have the turn. If it is taken, that one goes away at once. -/
def borrowTurn (sender : Sender types σ) : Option Wait × Sender types σ :=
  match Wait.start sender.session.turn sender.ledger borrower with
  | (.holding ticket, turn, ledger) => (some (.holding ticket), { sender with session.turn := turn, ledger })
  | (wait, turn, ledger) => (none, { sender with session.turn := wait.giveUp turn, ledger })

def returnTurn (sender : Sender types σ) (wait : Wait) : Sender types σ :=
  { sender with session.turn := wait.giveUp sender.session.turn }

def batchingAllowed (sender : Sender types σ) : Bool := sender.batchMode = .on

/-- The mode in which frames wait for a flush, or are written at once. -/
def modeFor (batching : Bool) : BatchMode := if batching then .on else .off

def describe (sender : Sender types σ) : String :=
  let kind := match sender.openMessage with
    | none => "None"
    | some kind => "Some(" ++ kind.name ++ ")"
  "RemoteEndpoint \x7b batch_mode: " ++ sender.batchMode.name ++ ", open_message_type: " ++ kind ++ " \x7d"

end Sender
end Egress
