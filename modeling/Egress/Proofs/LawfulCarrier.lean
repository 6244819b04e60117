import Egress.Proofs.OwnTicket
import Egress.Proofs.Runs

/-!
Carriers that keep to their tickets. A lawful carrier does nothing to the ledger but complete tickets that it has been
given: the one that comes with a frame, and those that it holds. It may refuse what it likes, and complete when it
likes. What a sender does over such a carrier comes to deeds on the ledger.
-/
namespace Egress

/-- A carrier has completed some of its own tickets, and holds no others. -/
structure Carrier.Minds {σ : Type} [Carrier σ] (own : Ticket → Prop) (ledger : Ledger) (carrier : σ) (after : Ledger) :
    Prop where
  completed : ∃ completions, after = ledger.completeEach completions ∧ ∀ completion ∈ completions, own completion.1
  held : ∀ ticket ∈ Carrier.held carrier, own ticket

/-- A carrier that completes only what it was given. -/
class LawfulCarrier (σ : Type) [Carrier σ] : Prop where
  sendFrame : ∀ (carrier : σ) (ledger : Ledger) (frame : Frame) (ticket : Ticket) (mode : BatchMode),
    Carrier.Minds (fun own => own = ticket ∨ own ∈ Carrier.held carrier) ledger
      (Carrier.sendFrame carrier ledger frame ticket mode).2.1 (Carrier.sendFrame carrier ledger frame ticket mode).2.2
  work : ∀ (carrier : σ) (ledger : Ledger),
    Carrier.Minds (· ∈ Carrier.held carrier) ledger (Carrier.work carrier ledger).1 (Carrier.work carrier ledger).2

theorem Carrier.Minds.refl {σ : Type} [Carrier σ] {own : Ticket → Prop} {carrier : σ} (ledger : Ledger)
    (held : ∀ ticket ∈ Carrier.held carrier, own ticket) : Carrier.Minds own ledger carrier ledger :=
  ⟨⟨[], rfl, nofun⟩, held⟩

theorem Carrier.Minds.extends {σ : Type} [Carrier σ] {own : Ticket → Prop} {ledger after : Ledger} {carrier : σ}
    (minds : Carrier.Minds own ledger carrier after) : ledger.Extends after := by
  obtain ⟨⟨completions, same, _⟩, _⟩ := minds
  rw [same]
  exact ledger.extends_completeEach completions

namespace ScriptedCarrier

theorem react_minds {own : Ticket → Prop} (carrier : ScriptedCarrier) (ledger : Ledger) {ticket : Ticket}
    (reaction : Reaction) (offered : own ticket) (held : ∀ ticket ∈ carrier.kept, own ticket) :
    Carrier.Minds own ledger (carrier.react ledger ticket reaction).1 (carrier.react ledger ticket reaction).2 := by
  cases reaction with
  | complete outcome =>
    refine ⟨⟨[(ticket, outcome)], rfl, ?_⟩, held⟩
    rintro completion member
    cases List.mem_singleton.mp member
    exact offered
  | keep =>
    refine ⟨⟨[], rfl, nofun⟩, ?_⟩
    intro other member
    rcases List.mem_append.mp member with member | member
    · exact held other member
    · cases List.mem_singleton.mp member
      exact offered
  | release outcome =>
    unfold react
    dsimp only
    split
    case h_1 oldest rest kept =>
      refine ⟨⟨[(oldest, outcome)], rfl, ?_⟩, fun other member => held other (kept ▸ List.mem_cons_of_mem _ member)⟩
      rintro completion member
      cases List.mem_singleton.mp member
      exact held oldest (kept ▸ List.mem_cons_self)
    case h_2 => exact .refl ledger held

theorem reactAll_minds {own : Ticket → Prop} (carrier : ScriptedCarrier) (ledger : Ledger) {ticket : Ticket}
    (reactions : List Reaction) (offered : own ticket) (held : ∀ ticket ∈ carrier.kept, own ticket) :
    Carrier.Minds own ledger (carrier.reactAll ledger ticket reactions).1
      (carrier.reactAll ledger ticket reactions).2 := by
  induction reactions generalizing carrier ledger with
  | nil => exact .refl ledger held
  | cons reaction reactions ih =>
    have first := react_minds carrier ledger reaction offered held
    obtain ⟨⟨front, before, fronts⟩, kept⟩ := first
    obtain ⟨⟨back, after, backs⟩, last⟩ := ih (carrier.react ledger ticket reaction).1
      (carrier.react ledger ticket reaction).2 kept
    refine ⟨⟨front ++ back, ?_, ?_⟩, last⟩
    · show ((carrier.react ledger ticket reaction).1.reactAll (carrier.react ledger ticket reaction).2 ticket reactions).2 = _
      rw [after, before, Ledger.completeEach, Ledger.completeEach, Ledger.completeEach, List.foldl_append]
    · intro completion member
      rcases List.mem_append.mp member with member | member
      · exact fronts completion member
      · exact backs completion member

instance : LawfulCarrier ScriptedCarrier where
  sendFrame carrier ledger frame ticket mode := by
    have held : ∀ own ∈ carrier.kept, own = ticket ∨ own ∈ carrier.kept := fun _ member => .inr member
    show Carrier.Minds _ ledger (carrier.takeFrame ledger frame ticket mode).2.1
      (carrier.takeFrame ledger frame ticket mode).2.2
    unfold takeFrame
    split
    · exact reactAll_minds _ ledger _ (.inl rfl) held
    · exact reactAll_minds _ ledger _ (.inl rfl) held
  work carrier ledger := .refl ledger fun _ member => member

end ScriptedCarrier

instance {σ : Type} [Carrier σ] [LawfulCarrier σ] : LawfulCarrier (Logged σ) where
  sendFrame logged ledger frame ticket mode := by
    obtain ⟨completed, held⟩ := LawfulCarrier.sendFrame logged.carrier ledger frame ticket mode
    exact ⟨completed, held⟩
  work logged ledger := by
    obtain ⟨completed, held⟩ := LawfulCarrier.work logged.carrier ledger
    exact ⟨completed, held⟩

/-! ## Senders over lawful carriers -/

open Ledger (Deed Evolves)

namespace Sender

variable {types : ValueTypes} {σ : Type} [Carrier σ] {May : Deed → Prop}

/-- The tickets that the carrier holds, and those that are issued from now on, may be completed. -/
structure Allows (May : Deed → Prop) (sender : Sender types σ) : Prop where
  held : ∀ ticket ∈ Carrier.held sender.carrier, ∀ outcome, May (.complete ticket outcome)
  new : ∀ ticket outcome, sender.ledger.slots.size ≤ ticket → May (.complete ticket outcome)

/-- From one moment to another a sender has done permitted deeds, and its carrier may go on. -/
structure Goes (May : Deed → Prop) (before after : Sender types σ) : Prop where
  ledger : Evolves May before.ledger after.ledger
  allows : after.Allows May

theorem Goes.trans {first second third : Sender types σ} (left : first.Goes May second) (right : second.Goes May third) :
    first.Goes May third :=
  ⟨left.ledger.trans right.ledger, right.allows⟩

theorem Allows.mono {May' : Deed → Prop} {sender : Sender types σ} (allows : sender.Allows May)
    (weaker : ∀ deed, May deed → May' deed) : sender.Allows May' :=
  ⟨fun ticket member outcome => weaker _ (allows.held ticket member outcome),
    fun ticket outcome new => weaker _ (allows.new ticket outcome new)⟩

/-- What does not touch the carrier is permitted if its deeds are. -/
theorem goes_of_evolves {sender : Sender types σ} (allows : sender.Allows May) {after : Sender types σ}
    (carrier : after.carrier = sender.carrier) (evolves : Evolves May sender.ledger after.ledger) : sender.Goes May after := by
  refine ⟨evolves, ?_, ?_⟩
  · rw [carrier]
    exact allows.held
  · intro ticket outcome new
    exact allows.new ticket outcome (Nat.le_trans evolves.extended.size_le new)

theorem goes_refl {sender : Sender types σ} (allows : sender.Allows May) : sender.Goes May sender :=
  goes_of_evolves allows rfl (.refl _)

theorem goes_of_minds {sender : Sender types σ} (allows : sender.Allows May) {own : Ticket → Prop} {carrier : σ}
    {ledger : Ledger} (minds : Carrier.Minds own sender.ledger carrier ledger)
    (may : ∀ ticket, own ticket → ∀ outcome, May (.complete ticket outcome)) :
    sender.Goes May { sender with carrier, ledger } := by
  obtain ⟨⟨completions, same, owned⟩, held⟩ := minds
  have evolves : Evolves May sender.ledger ledger := by
    rw [same]
    exact .completeEach _ completions fun completion member => may completion.1 (owned completion member) completion.2
  refine ⟨evolves, fun ticket member => may ticket (held ticket member), ?_⟩
  intro ticket outcome new
  exact allows.new ticket outcome (Nat.le_trans evolves.extended.size_le new)

theorem goes_fail {sender : Sender types σ} (allows : sender.Allows May) {ticket : Ticket} {error : SendError}
    (may : May (.complete ticket (.error error))) : sender.Goes May (sender.fail ticket error) :=
  goes_of_evolves allows rfl (.one (.complete ticket (.error error)) trivial may)

theorem goes_issue {sender : Sender types σ} (allows : sender.Allows May) {recipient : Recipient}
    (proper : sender.ledger.Proper (.issue recipient)) (may : May (.issue recipient)) :
    sender.Goes May (sender.issue recipient).2 :=
  goes_of_evolves allows rfl (.one (.issue recipient) proper may)

variable [LawfulCarrier σ]

theorem extends_afterElsewhere (sender : Sender types σ) (event : Elsewhere) :
    sender.ledger.Extends (sender.afterElsewhere event).ledger := by
  cases event with
  | work => exact (LawfulCarrier.work sender.carrier sender.ledger).extends
  | issue recipient => exact Ledger.extends_issue _ recipient
  | complete ticket outcome => exact Ledger.extends_complete _ ticket outcome
  | share pool turn => exact .refl _

theorem goes_letWork {sender : Sender types σ} (allows : sender.Allows May) : sender.Goes May sender.letWork :=
  goes_of_minds allows (LawfulCarrier.work sender.carrier sender.ledger) allows.held

theorem goes_submit {sender : Sender types σ} (allows : sender.Allows May) (frame : Frame) {ticket : Ticket}
    (mode : BatchMode) (may : ∀ outcome, May (.complete ticket outcome)) :
    sender.Goes May (sender.submit frame ticket mode).2 := by
  refine goes_of_minds allows (LawfulCarrier.sendFrame sender.carrier sender.ledger frame ticket mode) ?_
  rintro own (rfl | held)
  · exact may
  · exact allows.held own held

theorem goes_offer {sender : Sender types σ} (allows : sender.Allows May) (frame : Frame) {ticket : Ticket}
    (mode : BatchMode) (may : ∀ outcome, May (.complete ticket outcome)) :
    sender.Goes May (sender.offer frame ticket mode).2 := by
  have went := goes_submit allows frame mode may
  unfold offer
  revert went
  rcases sender.submit frame ticket mode with ⟨error | ⟨⟩, after⟩
  · intro went
    exact went.trans (goes_fail went.allows (may _))
  · exact id

theorem goes_dispatch {sender : Sender types σ} (allows : sender.Allows May) (frame : Frame) {ticket : Ticket}
    (mode : BatchMode) (may : ∀ outcome, May (.complete ticket outcome)) :
    sender.Goes May (sender.dispatch frame ticket mode).2 := by
  unfold dispatch
  split
  · split
    · exact goes_fail allows (may _)
    · rename_i openMessage _
      let opened : Sender types σ := { sender with openMessage }
      have allowed : opened.Allows May := ⟨allows.held, allows.new⟩
      have went := goes_offer allowed frame mode may
      show sender.Goes May ((opened.offer frame ticket mode).2.afterData frame)
      unfold afterData
      split <;> exact ⟨went.ledger, went.allows.held, went.allows.new⟩
  · split
    · exact goes_fail allows (may _)
    · exact goes_offer allows _ mode may

end Sender

namespace MessageStream

variable {types : ValueTypes} {σ : Type} [Carrier σ] {May : Deed → Prop}

/-- From one moment to another a stream has done permitted deeds; its message and its ticket are the same. -/
structure Goes (May : Deed → Prop) (before after : MessageStream types σ) : Prop where
  sender : before.sender.Goes May after.sender
  message : after.message = before.message
  ticket : after.ticket = before.ticket

theorem Goes.trans {first second third : MessageStream types σ} (left : first.Goes May second)
    (right : second.Goes May third) : first.Goes May third :=
  ⟨left.sender.trans right.sender, right.message.trans left.message, right.ticket.trans left.ticket⟩

theorem goes_of_sender {stream after : MessageStream types σ} (allows : stream.sender.Allows May)
    (sender : after.sender = stream.sender) (message : after.message = stream.message)
    (ticket : after.ticket = stream.ticket) : stream.Goes May after :=
  ⟨by rw [sender]; exact Sender.goes_refl allows, message, ticket⟩

theorem goes_fail {stream : MessageStream types σ} (allows : stream.sender.Allows May) {error : SendError}
    (may : May (.recordFailure stream.message error)) : stream.Goes May (stream.fail error) :=
  ⟨Sender.goes_of_evolves allows rfl (.one (.recordFailure stream.message error) trivial may), rfl, rfl⟩

variable [LawfulCarrier σ]

theorem goes_letWork {stream : MessageStream types σ} (allows : stream.sender.Allows May) : stream.Goes May stream.letWork :=
  ⟨Sender.goes_letWork allows, rfl, rfl⟩

/-- The next frame of a stream. A fragment leads nowhere; the last frame leads to the message's own ticket. -/
theorem goes_handOver {stream : MessageStream types σ} (allows : stream.sender.Allows May) (final : Bool)
    (proper : final = true → stream.ticket < stream.sender.ledger.slots.size)
    (may : May (.issue (stream.recipient final))) : stream.Goes May (stream.handOver final) := by
  have older : stream.sender.ledger.Proper (.issue (stream.recipient final)) := by
    intro target leads
    cases final with
    | false => cases leads
    | true =>
      cases leads
      exact proper rfl
  have issued := Sender.goes_issue allows older may
  have sent : stream.sender.Goes May (stream.sendNext final).2 :=
    issued.trans (Sender.goes_dispatch issued.allows (stream.nextFrame final) stream.sender.batchMode
      fun outcome => allows.new _ outcome (Nat.le_refl _))
  unfold handOver
  revert sent
  rcases stream.sendNext final with ⟨delivery, sender⟩
  intro sent
  cases delivery with
  | accepted => exact ⟨sent, rfl, rfl⟩
  | rejected => exact ⟨sent, rfl, rfl⟩
  | refused =>
    unfold afterDelivery
    dsimp only
    split
    · exact ⟨⟨sent.ledger, sent.allows.held, sent.allows.new⟩, rfl, rfl⟩
    · exact ⟨sent, rfl, rfl⟩

/-- The deeds of a stream before its last frame. -/
structure Begins (May : Deed → Prop) : Prop where
  beginMessage : May .beginMessage
  issue : ∀ recipient, recipient.next? = none → May (.issue recipient)
  recordFailure : ∀ message error, May (.recordFailure message error)

theorem goes_emit (begins : Begins May) {stream : MessageStream types σ} (allows : stream.sender.Allows May) :
    stream.Goes May (stream.emit false).2 := by
  rw [emit_snd]
  exact goes_handOver allows false nofun (begins.issue _ rfl)

theorem goes_fill (begins : Begins May) (rounds : Nat) (stream : MessageStream types σ) (data : Bytes)
    (allows : stream.sender.Allows May) : stream.Goes May (fill rounds stream data).2 := by
  fun_induction fill rounds stream data with
  | case1 => exact goes_of_sender allows rfl rfl rfl
  | case2 => exact goes_of_sender allows rfl rfl rfl
  | case3 rounds stream byte bytes data room filled full next emitted ih =>
    have sent : filled.Goes May (filled.emit false).2 := goes_emit begins allows
    rw [emitted] at sent
    exact Goes.trans ⟨sent.sender, sent.message, sent.ticket⟩ (ih sent.sender.allows)
  | case4 rounds stream byte bytes data room filled full error next emitted =>
    have sent : filled.Goes May (filled.emit false).2 := goes_emit begins allows
    rw [emitted] at sent
    exact ⟨sent.sender, sent.message, sent.ticket⟩
  | case5 rounds stream byte bytes data room filled unfilled ih =>
    have rest := ih allows
    exact ⟨rest.sender, rest.message, rest.ticket⟩

theorem goes_write (begins : Begins May) {stream : MessageStream types σ} (allows : stream.sender.Allows May)
    (data : Bytes) : stream.Goes May (stream.write data).2 := by
  unfold write
  split
  · exact goes_of_sender allows rfl rfl rfl
  · split
    · exact goes_of_sender allows rfl rfl rfl
    · exact goes_fill begins _ _ _ allows

theorem goes_flush (begins : Begins May) {stream : MessageStream types σ} (allows : stream.sender.Allows May) :
    stream.Goes May stream.flush.2 := by
  unfold flush
  split
  · exact goes_of_sender allows rfl rfl rfl
  · split
    · exact goes_of_sender allows rfl rfl rfl
    · exact goes_emit begins allows

theorem goes_writeText (begins : Begins May) {stream : MessageStream types σ} (allows : stream.sender.Allows May)
    (text : String) : stream.Goes May (stream.writeText text).2 := by
  have written := goes_write begins allows (Bytes.ofText text)
  unfold writeText
  split
  · rename_i answer
    rwa [answer] at written
  · rename_i answer
    rwa [answer] at written

theorem goes_act (begins : Begins May) {stream : MessageStream types σ} (allows : stream.sender.Allows May)
    (action : ByteAction) : stream.Goes May (stream.act action).2 := by
  cases action with
  | write bytes =>
    show stream.Goes May (stream.writeBytes bytes).2
    unfold writeBytes
    split
    · exact goes_of_sender allows rfl rfl rfl
    · exact goes_write begins allows bytes
  | call bytes => exact goes_write begins allows bytes
  | flush => exact goes_flush begins allows

/-- The last frame of a stream, or the failure of its ticket. -/
theorem goes_sendLast {stream : MessageStream types σ} (allows : stream.sender.Allows May)
    (issued : stream.ticket < stream.sender.ledger.slots.size) (may : May (.issue (.last stream.message stream.ticket)))
    (fails : ∀ error, May (.complete stream.ticket (.error error))) : stream.Goes May stream.sendLast := by
  unfold sendLast
  split
  · split
    · exact ⟨Sender.goes_fail allows (fails _), rfl, rfl⟩
    · rw [emit_snd]
      exact goes_handOver allows true (fun _ => issued) may
  · split
    · rw [emit_snd]
      let cleared : MessageStream types σ := { stream with buffer := stream.buffer.clear }
      have allowed : cleared.sender.Allows May := allows
      have went := goes_handOver allowed true (fun _ => issued) may
      exact ⟨went.sender, went.message, went.ticket⟩
    · exact ⟨Sender.goes_fail allows (fails _), rfl, rfl⟩

theorem goes_close {stream : MessageStream types σ} (allows : stream.sender.Allows May)
    (issued : stream.ticket < stream.sender.ledger.slots.size) (may : May (.issue (.last stream.message stream.ticket)))
    (fails : ∀ error, May (.complete stream.ticket (.error error))) : stream.Goes May stream.close := by
  unfold close
  split
  · exact goes_of_sender allows rfl rfl rfl
  · let closing : MessageStream types σ := { stream with closed := true }
    have allowed : closing.sender.Allows May := allows
    have went := goes_sendLast allowed issued may fails
    exact ⟨⟨went.sender.ledger, went.sender.allows.held, went.sender.allows.new⟩, went.message, went.ticket⟩

end MessageStream

namespace Sender

variable {types : ValueTypes} {σ : Type} [Carrier σ] {May : Deed → Prop}

open MessageStream (Begins)

theorem goes_start (begins : Begins May) {sender : Sender types σ} (allows : sender.Allows May) (kind : MessageKind)
    (bufferSize : Nat) : sender.Goes May (MessageStream.start sender kind bufferSize).sender := by
  refine goes_of_evolves allows rfl ?_
  have begun : Evolves May sender.ledger sender.ledger.beginMessage.2 := .one .beginMessage trivial begins.beginMessage
  exact begun.trans (.one (.issue .nobody) nofun (begins.issue _ rfl))

variable [LawfulCarrier σ]

/-- What an encoder does to the stream that it is given. -/
theorem goes_streamObject {Action Refusal : Type}
    {answer : MessageStream types σ → Action → Except Refusal Unit × MessageStream types σ}
    (goes : ∀ (stream : MessageStream types σ) action, stream.sender.Allows May → stream.Goes May (answer stream action).2)
    {stream : MessageStream types σ} (allows : stream.sender.Allows May) (emission : Emission Action Refusal) :
    stream.Goes May (streamObject answer stream emission).2 := by
  have run : stream.Goes May (emission.run (fun stream action => answer stream.letWork action) stream).2 := by
    refine emission.run_keeps (stream.Goes May) ?_ (MessageStream.goes_of_sender allows rfl rfl rfl)
    intro state action went
    have worked := MessageStream.goes_letWork went.sender.allows
    exact (went.trans worked).trans (goes state.letWork action worked.sender.allows)
  exact run.trans (MessageStream.goes_letWork run.sender.allows)

end Sender
end Egress
