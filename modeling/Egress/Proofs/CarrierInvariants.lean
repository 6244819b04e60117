import Egress.Proofs.Accounts
import Egress.Proofs.Filling
import Egress.Proofs.ObjectStreams

/-!
What stays with a carrier. A sender turns to its carrier in four ways: it hands frames over, asks for a flush, lets it
work, and tells it an idle time. What the first three keep, every run keeps in which no idle time is told: whatever the
application calls, whatever a stream does that has the sender, and whatever happens elsewhere.
-/
namespace Egress

/-- Frames, flushes and work keep it. -/
structure Carrier.Keeps {σ : Type} [Carrier σ] (Inv : σ → Prop) : Prop where
  sendFrame : ∀ {carrier : σ}, Inv carrier → ∀ (ledger : Ledger) (frame : Frame) (ticket : Ticket) (mode : BatchMode),
    Inv (Carrier.sendFrame carrier ledger frame ticket mode).2.1
  flush : ∀ {carrier : σ}, Inv carrier → ∀ (ledger : Ledger) (ticket : Ticket),
    Inv (Carrier.flush carrier ledger ticket).2.1
  work : ∀ {carrier : σ}, Inv carrier → ∀ ledger : Ledger, Inv (Carrier.work carrier ledger).1

/-- Whether the application tells an idle time. -/
def Event.tellsIdle {types : ValueTypes} : Event types → Bool
  | .call (.setIdleTimeout _) => true
  | _ => false

namespace Carrier.Keeps

variable {types : ValueTypes} {σ : Type} [Carrier σ] {Inv : σ → Prop} {sender : Sender types σ}
  {stream : MessageStream types σ} {custody : Custody types σ}

/-! ## Frames -/

theorem offer (keeps : Keeps Inv) (holds : Inv sender.carrier) (frame : Frame) (ticket : Ticket) (mode : BatchMode) :
    Inv (sender.offer frame ticket mode).2.carrier := by
  have sent : Inv (sender.submit frame ticket mode).2.carrier := keeps.sendFrame holds _ _ _ _
  unfold Sender.offer
  revert sent
  rcases sender.submit frame ticket mode with ⟨error | ⟨⟩, after⟩ <;> exact id

theorem dispatch (keeps : Keeps Inv) (holds : Inv sender.carrier) (frame : Frame) (ticket : Ticket) (mode : BatchMode) :
    Inv (sender.dispatch frame ticket mode).2.carrier := by
  unfold Sender.dispatch
  split
  · split
    · exact holds
    · rename_i openMessage _
      let opened : Sender types σ := { sender with openMessage }
      have still : Inv opened.carrier := holds
      have offered := keeps.offer still frame ticket mode
      show Inv ((opened.offer frame ticket mode).2.afterData frame).carrier
      unfold Sender.afterData
      split <;> exact offered
  · split
    · exact holds
    · exact keeps.offer holds _ _ _

theorem sendControl (keeps : Keeps Inv) (holds : Inv sender.carrier) (frame : Frame) :
    Inv (sender.sendControl frame).2.carrier := by
  unfold Sender.sendControl
  split
  · exact holds
  · exact keeps.sendFrame holds _ _ _ _

/-! ## Flushes -/

theorem pollFlush (holds : Inv sender.carrier) (ticket : Ticket) : Inv (sender.pollFlush ticket).2.carrier := by
  unfold Sender.pollFlush
  split <;> exact holds

theorem askFlush (keeps : Keeps Inv) (holds : Inv sender.carrier) (ticket : Ticket) :
    Inv (sender.askFlush ticket).2.carrier := by
  have asked := keeps.flush holds sender.ledger ticket
  unfold Sender.askFlush
  revert asked
  rcases Carrier.flush sender.carrier sender.ledger ticket with ⟨error | ⟨⟩, carrier, ledger⟩ <;>
    exact fun asked => pollFlush asked ticket

theorem goOn (keeps : Keeps Inv) (holds : Inv sender.carrier) (waits : Wait × Turn × Ledger) :
    Inv (sender.goOn waits).2.carrier := by
  obtain ⟨wait, turn, ledger⟩ := waits
  let turned : Sender types σ := { sender with session.turn := turn, ledger }
  have still : Inv turned.carrier := holds
  cases wait with
  | queued waiter => exact holds
  | holding ticket => exact keeps.askFlush still ticket
  | blocking ticket => exact pollFlush still ticket

theorem resumeFlush (keeps : Keeps Inv) (holds : Inv sender.carrier) (state : Sender.FlushState) :
    Inv (sender.resumeFlush state).2.carrier := by
  cases state with
  | waiting wait => exact keeps.goOn holds _
  | done outcome => exact holds

omit [Carrier σ] in
theorem takeUpMode {result : Sender.FlushState × Sender types σ} (holds : Inv result.2.carrier) (mode : BatchMode) :
    Inv (Sender.takeUpMode mode result).2.carrier := by
  unfold Sender.takeUpMode
  split <;> exact holds

/-! ## Streams -/

theorem handOver (keeps : Keeps Inv) (holds : Inv stream.sender.carrier) (final : Bool) :
    Inv (stream.handOver final).sender.carrier := by
  rw [(stream.handOver_frames final).1]
  have issued : Inv (stream.sender.issue (stream.recipient final)).2.carrier := holds
  exact keeps.dispatch issued _ _ _

theorem sendLast (keeps : Keeps Inv) (holds : Inv stream.sender.carrier) : Inv stream.sendLast.sender.carrier := by
  unfold MessageStream.sendLast
  split
  · split
    · exact holds
    · rw [MessageStream.emit_snd]
      exact keeps.handOver holds true
  · split
    · rw [MessageStream.emit_snd]
      have cleared : Inv ({ stream with buffer := stream.buffer.clear } : MessageStream types σ).sender.carrier := holds
      exact keeps.handOver cleared true
    · exact holds

theorem close (keeps : Keeps Inv) (holds : Inv stream.sender.carrier) : Inv stream.close.sender.carrier := by
  unfold MessageStream.close
  split
  · exact holds
  · have ending : Inv ({ stream with closed := true } : MessageStream types σ).sender.carrier := holds
    exact keeps.sendLast ending

theorem afterElsewhere (keeps : Keeps Inv) (holds : Inv sender.carrier) (event : Elsewhere) :
    Inv (sender.afterElsewhere event).carrier := by
  cases event with
  | work => exact keeps.work holds _
  | issue | complete | share => exact holds

theorem afterStream (keeps : Keeps Inv) (holds : Inv stream.sender.carrier) (event : StreamEvent) :
    Inv (stream.after event).sender.carrier := by
  cases event with
  | write bytes =>
    exact MessageStream.write_keeps (fun after => Inv after.sender.carrier) (fun _ holds => holds)
      (fun holds _ => keeps.handOver holds false) holds bytes
  | flush =>
    show Inv stream.flush.2.sender.carrier
    unfold MessageStream.flush
    split
    · exact holds
    · split
      · exact holds
      · rw [MessageStream.emit_snd]
        exact keeps.handOver holds false
  | close => exact keeps.close holds
  | elsewhere event => exact keeps.afterElsewhere holds event
  | fail | attach => exact holds

theorem afterEvents (keeps : Keeps Inv) (holds : Inv stream.sender.carrier) (events : List StreamEvent) :
    Inv (stream.afterAll events).sender.carrier := by
  induction events generalizing stream with
  | nil => exact holds
  | cons event events ih => exact ih (keeps.afterStream holds event)

/-! ## Runs -/

/-- An object is sent as a message of its own or as a stream, or not at all. -/
theorem sendObject (keeps : Keeps Inv) (holds : Inv sender.carrier) (object : Option types.Object) (ticket : Ticket) :
    Inv (sender.sendObject object ticket).2.carrier := by
  have encoded : Inv (sender.encodeObject object ticket).2.carrier := by
    rw [sender.encodeObject_snd]
    cases sender.rendering object ticket with
    | nothing => exact holds
    | whole message => exact keeps.dispatch holds _ _ _
    | streamed kind events =>
      have begun : Inv (sender.stream kind ticket).sender.carrier := holds
      exact keeps.close (keeps.afterEvents begun events)
  unfold Sender.sendObject
  revert encoded
  rcases sender.encodeObject object ticket with ⟨error | ⟨⟩, after⟩ <;> exact id

theorem afterCall (keeps : Keeps Inv) (holds : Inv sender.carrier) {call : Call types}
    (quiet : (Event.call call).tellsIdle = false) : Inv (sender.afterCall call).carrier := by
  cases call with
  | frame | text | binary | fragment => exact keeps.dispatch holds _ _ _
  | ping | pong => exact keeps.sendControl holds _
  | object object ticket => exact keeps.sendObject holds object ticket
  | beginFlush => exact keeps.goOn holds _
  | resumeFlush state => exact keeps.resumeFlush holds state
  | abandonFlush state => cases state <;> exact holds
  | beginSetBatchMode mode =>
    show Inv (sender.beginSetBatchMode mode).2.carrier
    unfold Sender.beginSetBatchMode
    split
    · exact takeUpMode (keeps.goOn holds _) mode
    · exact holds
  | resumeSetBatchMode mode state => exact takeUpMode (keeps.resumeFlush holds state) mode
  | setIdleTimeout => cases quiet

theorem after (keeps : Keeps Inv) (holds : Inv custody.sender.carrier) {event : Event types}
    (quiet : event.tellsIdle = false) : Inv (custody.after event).sender.carrier := by
  cases custody with
  | free sender =>
    cases event with
    | call call => exact keeps.afterCall holds quiet
    | elsewhere event => exact keeps.afterElsewhere holds event
    | openStream | stream | dropStream => exact holds
  | lent stream =>
    cases event with
    | stream event => exact keeps.afterStream holds event
    | dropStream => exact keeps.close holds
    | elsewhere event => exact keeps.afterElsewhere holds event
    | call | openStream => exact holds

/-- What the carrier keeps stays through every run in which no idle time is told. -/
theorem afterAll (keeps : Keeps Inv) (holds : Inv custody.sender.carrier) {events : List (Event types)}
    (quiet : ∀ event ∈ events, event.tellsIdle = false) : Inv (custody.afterAll events).sender.carrier := by
  induction events generalizing custody with
  | nil => exact holds
  | cons event events ih =>
    refine ih (keeps.after holds (quiet event List.mem_cons_self)) ?_
    exact fun later member => quiet later (List.mem_cons_of_mem _ member)

end Carrier.Keeps
end Egress
