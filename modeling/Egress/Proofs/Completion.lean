import Egress.Proofs.Filling
import Egress.Proofs.Framing
import Egress.Proofs.LawfulCarrier

/-!
Every send is answered once. However a frame, a message or an object is sent with a ticket, the ticket gets its outcome
at once or with a frame that the carrier has taken; so that it has an outcome as soon as the carrier has completed
what it took, and the application is told once. When an object cannot be encoded, its ticket fails.
-/
namespace Egress

open Ledger (Deed Evolves)

/-- What the application does with a stream of its own; the carrier may work in between. -/
def StreamEvent.Own : StreamEvent → Prop
  | .attach _ => False
  | .elsewhere event => event = .work
  | _ => True

/-- A frame that was taken and whose completion completes the ticket, directly or by passing on. -/
structure Handover.Answers (ledger : Ledger) (ticket : Ticket) (handover : Handover) : Prop where
  taken : handover.taken = true
  leads : ledger.LeadsTo handover.ticket ticket

namespace Sender

variable {types : ValueTypes} {σ : Type} {log : List Handover} {ticket : Ticket}

/-- Since the log was as given, the ticket has been completed, or a frame has been taken with which it will be. -/
structure Answered (log : List Handover) (ticket : Ticket) (sender : Sender types (Logged σ)) : Prop where
  longer : log <+: sender.log
  answer : (sender.ledger.outcome? ticket).isSome ∨
    ∃ handover ∈ sender.log.drop log.length, handover.Answers sender.ledger ticket

theorem Answered.later {sender after : Sender types (Logged σ)} (answered : sender.Answered log ticket)
    (more : sender.ledger.Extends after.ledger) (longer : sender.log <+: after.log) : after.Answered log ticket := by
  refine ⟨answered.longer.trans longer, ?_⟩
  rcases answered.answer with known | ⟨handover, member, taken, leads⟩
  · obtain ⟨outcome, known⟩ := Option.isSome_iff_exists.mp known
    exact .inl (by rw [more.outcome? known]; rfl)
  · refine .inr ⟨handover, ?_, taken, leads.later more⟩
    obtain ⟨back, longer⟩ := longer
    rw [← longer, List.drop_append_of_le_length answered.longer.length_le]
    exact List.mem_append_left _ member

theorem Answered.earlier {sender : Sender types (Logged σ)} {before : List Handover} (answered : sender.Answered log ticket)
    (longer : before <+: log) : sender.Answered before ticket := by
  refine ⟨longer.trans answered.longer, ?_⟩
  rcases answered.answer with known | ⟨handover, member, answers⟩
  · exact .inl known
  · exact .inr ⟨handover, List.drop_subset_drop_left _ longer.length_le member, answers⟩

theorem Answered.passed {sender : Sender types (Logged σ)} {last : Ticket} (answered : sender.Answered log last)
    (sound : sender.ledger.Sound) (leads : sender.ledger.LeadsTo last ticket) : sender.Answered log ticket := by
  refine ⟨answered.longer, ?_⟩
  rcases answered.answer with known | ⟨handover, member, taken, first⟩
  · exact .inl (sound.outcome?_isSome_of_leadsTo leads known)
  · exact .inr ⟨handover, member, taken, first.trans leads⟩

theorem answered_fail {sender : Sender types (Logged σ)} (longer : log <+: sender.log)
    (issued : ticket < sender.ledger.slots.size) (error : SendError) : (sender.fail ticket error).Answered log ticket :=
  ⟨longer, .inl (Ledger.outcome?_isSome_complete issued _)⟩

variable [Carrier σ]

theorem allows_all (sender : Sender types (Logged σ)) : sender.Allows (fun _ => True) :=
  ⟨fun _ _ _ => trivial, fun _ _ _ => trivial⟩

variable [LawfulCarrier σ]

theorem answered_offer (sender : Sender types (Logged σ)) (issued : ticket < sender.ledger.slots.size) (frame : Frame)
    (mode : BatchMode) : (sender.offer frame ticket mode).2.Answered sender.log ticket := by
  have logged := log_submit sender frame ticket mode
  have went : sender.Goes (fun _ => True) (sender.submit frame ticket mode).2 :=
    goes_submit sender.allows_all frame mode fun _ => trivial
  unfold offer
  revert logged went
  rcases sender.submit frame ticket mode with ⟨error | ⟨⟩, after⟩
  · intro logged went
    refine answered_fail ?_ (Nat.lt_of_lt_of_le issued went.ledger.extended.size_le) error
    exact ⟨_, logged.symm⟩
  · intro logged went
    refine ⟨⟨_, logged.symm⟩, .inr ⟨⟨frame, ticket, mode, .ok ()⟩, ?_, rfl, .refl ticket⟩⟩
    show _ ∈ after.log.drop sender.log.length
    change after.log = _ at logged
    rw [logged, List.drop_left]
    exact List.mem_singleton.mpr rfl

theorem answered_dispatch (sender : Sender types (Logged σ)) (issued : ticket < sender.ledger.slots.size) (frame : Frame)
    (mode : BatchMode) : (sender.dispatch frame ticket mode).2.Answered sender.log ticket := by
  unfold dispatch
  split
  · split
    · exact answered_fail (List.prefix_refl _) issued _
    · rename_i openMessage _
      have answered := answered_offer ({ sender with openMessage } : Sender types (Logged σ)) issued frame mode
      revert answered
      rcases ({ sender with openMessage } : Sender types (Logged σ)).offer frame ticket mode with ⟨delivery, after⟩
      intro answered
      show (after.afterData frame).Answered sender.log ticket
      unfold afterData
      split
      · exact ⟨answered.longer, answered.answer⟩
      · exact answered
  · split
    · exact answered_fail (List.prefix_refl _) issued _
    · exact sender.answered_offer issued _ mode

end Sender

namespace MessageStream

variable {types : ValueTypes} {σ : Type} {log : List Handover} {ticket : Ticket}

theorem Leads.log_prefix {stream after : MessageStream types (Logged σ)} (leads : stream.Leads after) :
    stream.sender.log <+: after.sender.log := by
  obtain ⟨new, same, _⟩ := leads
  exact ⟨new, same.symm⟩

/-- Since a moment before, nothing has been lost, and the stream's ticket is answered for once the stream is closed. -/
structure Awaits (before : Sender types (Logged σ)) (ticket : Ticket) (stream : MessageStream types (Logged σ)) : Prop where
  own : stream.ticket = ticket
  issued : ticket < stream.sender.ledger.slots.size
  sound : stream.sender.ledger.Sound
  extended : before.ledger.Extends stream.sender.ledger
  longer : before.log <+: stream.sender.log
  closed : stream.closed = true → stream.sender.Answered before.log ticket

variable {before : Sender types (Logged σ)}

theorem Awaits.later {May : Deed → Prop} [Carrier σ] {stream after : MessageStream types (Logged σ)}
    (awaits : stream.Awaits before ticket) (goes : stream.Goes May after) (leads : stream.Leads after)
    (closed : after.closed = stream.closed) : after.Awaits before ticket where
  own := goes.ticket.trans awaits.own
  issued := Nat.lt_of_lt_of_le awaits.issued goes.sender.ledger.extended.size_le
  sound := goes.sender.ledger.sound awaits.sound
  extended := awaits.extended.trans goes.sender.ledger.extended
  longer := awaits.longer.trans leads.log_prefix
  closed := fun shut => (awaits.closed (closed ▸ shut)).later goes.sender.ledger.extended leads.log_prefix

variable [Carrier σ]

/-- Whatever a stream does, it may be done. -/
theorem begins_all : Begins fun _ => True := ⟨trivial, fun _ _ => trivial, fun _ _ => trivial⟩

theorem Awaits.fail {stream : MessageStream types (Logged σ)} (awaits : stream.Awaits before ticket) (error : SendError) :
    (stream.fail error).Awaits before ticket :=
  awaits.later (goes_fail stream.sender.allows_all trivial) (leads_of_eq rfl rfl rfl) rfl

variable [LawfulCarrier σ]

/-- The last frame of a message answers for the message. -/
theorem answered_handOver_true {stream : MessageStream types (Logged σ)} (issued : stream.ticket < stream.sender.ledger.slots.size)
    (sound : stream.sender.ledger.Sound) : (stream.handOver true).sender.Answered stream.sender.log stream.ticket := by
  let last : Ticket := stream.sender.ledger.slots.size
  let begun : Sender types (Logged σ) := (stream.sender.issue (stream.recipient true)).2
  have slot : begun.ledger.slots[last]? = some ⟨.last stream.message stream.ticket, none⟩ := by
    show (stream.sender.ledger.issue _).2.slots[last]? = _
    rw [Ledger.slots_issue, if_pos rfl]
    rfl
  have inside : last < begun.ledger.slots.size := (Array.getElem?_eq_some_iff.mp slot).1
  have whole := (goes_handOver stream.sender.allows_all true (fun _ => issued) trivial).sender.ledger
  have sent : begun.Goes (fun _ => True) (begun.dispatch (stream.nextFrame true) last stream.sender.batchMode).2 :=
    Sender.goes_dispatch begun.allows_all _ _ fun _ => trivial
  have answered : (stream.sendNext true).2.Answered stream.sender.log last :=
    begun.answered_dispatch inside (stream.nextFrame true) stream.sender.batchMode
  rw [sender_handOver_true] at whole ⊢
  refine answered.passed (whole.sound sound) ?_
  obtain ⟨outcome, kept, _⟩ := sent.ledger.extended.slots last _ _ slot
  exact .step kept rfl (.refl _)

theorem answered_sendLast {stream : MessageStream types (Logged σ)} (issued : stream.ticket < stream.sender.ledger.slots.size)
    (sound : stream.sender.ledger.Sound) : stream.sendLast.sender.Answered stream.sender.log stream.ticket := by
  unfold sendLast
  split
  · split
    · exact Sender.answered_fail (List.prefix_refl _) issued _
    · rw [emit_snd]
      exact answered_handOver_true issued sound
  · split
    · rw [emit_snd]
      let cleared : MessageStream types (Logged σ) := { stream with buffer := stream.buffer.clear }
      have owed : cleared.ticket < cleared.sender.ledger.slots.size := issued
      exact answered_handOver_true owed sound
    · exact Sender.answered_fail (List.prefix_refl _) issued _

/-- Closing a stream answers for its ticket. -/
theorem Awaits.close {stream : MessageStream types (Logged σ)} (awaits : stream.Awaits before ticket) :
    stream.close.Awaits before ticket ∧ stream.close.sender.Answered before.log ticket := by
  have goes : stream.Goes (fun _ => True) stream.close :=
    goes_close stream.sender.allows_all (awaits.own ▸ awaits.issued) trivial fun _ => trivial
  have longer := stream.leads_close.log_prefix
  have answered : stream.close.sender.Answered before.log ticket := by
    unfold MessageStream.close at longer ⊢
    split
    case isTrue shut => exact awaits.closed shut
    case isFalse =>
      let closing : MessageStream types (Logged σ) := { stream with closed := true }
      have issued : closing.ticket < closing.sender.ledger.slots.size := awaits.own ▸ awaits.issued
      have sent := answered_sendLast issued awaits.sound
      rw [← awaits.own]
      have early := sent.earlier awaits.longer
      exact ⟨early.longer, early.answer⟩
  exact ⟨⟨goes.ticket.trans awaits.own, Nat.lt_of_lt_of_le awaits.issued goes.sender.ledger.extended.size_le,
    goes.sender.ledger.sound awaits.sound, awaits.extended.trans goes.sender.ledger.extended,
    awaits.longer.trans longer, fun _ => answered⟩, answered⟩

theorem Awaits.write {stream : MessageStream types (Logged σ)} (awaits : stream.Awaits before ticket) (data : Bytes) :
    (stream.write data).2.Awaits before ticket :=
  awaits.later (goes_write begins_all stream.sender.allows_all data) (stream.leads_write data) (stream.closed_write data)

theorem Awaits.flush {stream : MessageStream types (Logged σ)} (awaits : stream.Awaits before ticket) :
    stream.flush.2.Awaits before ticket :=
  awaits.later (goes_flush begins_all stream.sender.allows_all) stream.leads_flush stream.closed_flush

theorem Awaits.letWork {stream : MessageStream types (Logged σ)} (awaits : stream.Awaits before ticket) :
    stream.letWork.Awaits before ticket :=
  awaits.later (goes_letWork stream.sender.allows_all) (stream.leads_afterElsewhere .work) rfl

/-- Whoever streams a message may do what he likes with its stream, except that he does not change its ticket. -/
theorem Awaits.after {stream : MessageStream types (Logged σ)} (awaits : stream.Awaits before ticket) {event : StreamEvent}
    (own : event.Own) : (stream.after event).Awaits before ticket := by
  cases event with
  | write bytes => exact awaits.write bytes
  | flush => exact awaits.flush
  | fail error => exact awaits.fail error
  | close => exact awaits.close.1
  | attach ticket => exact own.elim
  | elsewhere event =>
    cases own
    exact awaits.letWork

theorem Awaits.afterAll {events : List StreamEvent} (own : ∀ event ∈ events, event.Own)
    {stream : MessageStream types (Logged σ)} (awaits : stream.Awaits before ticket) :
    (stream.afterAll events).Awaits before ticket := by
  induction events generalizing stream with
  | nil => exact awaits
  | cons event events ih =>
    exact ih (fun later member => own later (List.mem_cons_of_mem _ member))
      (awaits.after (own event List.mem_cons_self))

theorem Awaits.writeText {stream : MessageStream types (Logged σ)} (awaits : stream.Awaits before ticket) (text : String) :
    (stream.writeText text).2.Awaits before ticket := by
  have written := awaits.write (Bytes.ofText text)
  unfold MessageStream.writeText
  split
  · rename_i answer
    rwa [answer] at written
  · rename_i answer
    rwa [answer] at written

theorem Awaits.act {stream : MessageStream types (Logged σ)} (awaits : stream.Awaits before ticket) (action : ByteAction) :
    (stream.act action).2.Awaits before ticket := by
  cases action with
  | write bytes =>
    show (stream.writeBytes bytes).2.Awaits before ticket
    unfold writeBytes
    split
    · exact awaits
    · exact awaits.write bytes
  | call bytes => exact awaits.write bytes
  | flush => exact awaits.flush

omit [LawfulCarrier σ] in
/-- A message that is begun has its answer to come. -/
theorem awaits_start {sender : Sender types (Logged σ)} (issued : ticket < sender.ledger.slots.size)
    (sound : sender.ledger.Sound) (kind : MessageKind) (bufferSize : Nat) :
    ((start sender kind bufferSize).setTicket ticket).Awaits sender ticket := by
  have begun := Sender.goes_start begins_all sender.allows_all kind bufferSize
  exact ⟨rfl, Nat.lt_of_lt_of_le issued begun.ledger.extended.size_le, begun.ledger.sound sound,
    begun.ledger.extended, List.prefix_refl _, nofun⟩

end MessageStream

/-- The ways to send something with a ticket. -/
inductive Submission (types : ValueTypes) where
  | frame (frame : Frame) (mode : BatchMode)
  | text (content : String)
  | binary (payload : Bytes)
  | fragment (kind : MessageKind) (payload : Bytes) (last : Bool)
  | object (object : Option types.Object)
  /-- A message is streamed, and its stream is dropped in the end. -/
  | stream (kind : MessageKind) (bufferSize : Nat) (events : List StreamEvent)

def Submission.Own {types : ValueTypes} : Submission types → Prop
  | .stream _ _ events => ∀ event ∈ events, event.Own
  | _ => True

namespace Sender

variable {types : ValueTypes} {σ : Type} {log : List Handover} {ticket : Ticket} [Carrier σ]

def send (sender : Sender types σ) (ticket : Ticket) : Submission types → Sender types σ
  | .frame frame mode => sender.sendFrame frame ticket mode
  | .text content => sender.sendText content ticket
  | .binary payload => sender.sendBinary payload ticket
  | .fragment kind payload last => sender.sendPartial kind payload last ticket
  | .object object => (sender.sendObject object ticket).2
  | .stream kind bufferSize events =>
    (((MessageStream.start sender kind bufferSize).setTicket ticket).afterAll events).finish

/-- What a send with a ticket comes to: the ticket is answered for, and nothing is lost. -/
structure Sent (ticket : Ticket) (before after : Sender types (Logged σ)) : Prop where
  answered : after.Answered before.log ticket
  extended : before.ledger.Extends after.ledger
  sound : after.ledger.Sound

omit [Carrier σ] in
theorem Sent.fail {sender after : Sender types (Logged σ)} (sent : sender.Sent ticket after) (error : SendError) :
    sender.Sent ticket (after.fail ticket error) := by
  have more := after.ledger.extends_complete ticket (.error error)
  exact ⟨sent.answered.later more (List.prefix_refl _), sent.extended.trans more, sent.sound.complete ticket _⟩

omit [Carrier σ] in
theorem sent_fail {sender : Sender types (Logged σ)} (issued : ticket < sender.ledger.slots.size)
    (sound : sender.ledger.Sound) (error : SendError) : sender.Sent ticket (sender.fail ticket error) :=
  ⟨answered_fail (List.prefix_refl _) issued error, Ledger.extends_complete _ _ _, sound.complete ticket _⟩

variable [LawfulCarrier σ]

theorem sent_sendFrame {sender : Sender types (Logged σ)} (issued : ticket < sender.ledger.slots.size)
    (sound : sender.ledger.Sound) (frame : Frame) (mode : BatchMode) : sender.Sent ticket (sender.sendFrame frame ticket mode) := by
  have goes : sender.Goes (fun _ => True) (sender.dispatch frame ticket mode).2 :=
    goes_dispatch sender.allows_all frame mode fun _ => trivial
  exact ⟨sender.answered_dispatch issued frame mode, goes.ledger.extended, goes.ledger.sound sound⟩

theorem sent_finish {before : Sender types (Logged σ)} {stream : MessageStream types (Logged σ)}
    (awaits : stream.Awaits before ticket) : before.Sent ticket stream.finish :=
  ⟨awaits.close.2, awaits.close.1.extended, awaits.close.1.sound⟩

/-- A streamed object is answered for, whether or not its encoder faults. -/
theorem sent_endObject {Action Refusal : Type}
    {answer : MessageStream types (Logged σ) → Action → Except Refusal Unit × MessageStream types (Logged σ)}
    {before : Sender types (Logged σ)}
    (keeps : ∀ (stream : MessageStream types (Logged σ)) action, stream.Awaits before ticket →
      (answer stream action).2.Awaits before ticket)
    {stream : MessageStream types (Logged σ)} (awaits : stream.Awaits before ticket) (emission : Emission Action Refusal)
    (typeName : String) : before.Sent ticket (endObject typeName (streamObject answer stream emission)).2 := by
  have encoded : (streamObject answer stream emission).2.Awaits before ticket := by
    have run := emission.run_keeps (·.Awaits before ticket)
      (fun (state : MessageStream types (Logged σ)) action awaits => keeps state.letWork action awaits.letWork) awaits
    exact run.letWork
  revert encoded
  rcases streamObject answer stream emission with ⟨fault | ⟨⟩, after⟩
  · exact fun encoded => sent_finish (encoded.fail _)
  · exact fun encoded => sent_finish encoded

/-- An object that is not encoded changes nothing; any other is answered for. -/
theorem encodeObject_cases {sender : Sender types (Logged σ)} (issued : ticket < sender.ledger.slots.size)
    (sound : sender.ledger.Sound) (object : Option types.Object) :
    (∃ error, sender.encodeObject object ticket = (.error error, sender)) ∨
      sender.Sent ticket (sender.encodeObject object ticket).2 := by
  rcases object with _ | object
  · exact .inl ⟨_, rfl⟩
  · unfold encodeObject
    dsimp only
    rcases sender.session.registry.lookup object with _ | ⟨kind, encode | encode | encode | encode⟩
    · exact .inl ⟨_, rfl⟩
    all_goals dsimp only
    · rcases encode object with fault | text
      · exact .inl ⟨_, rfl⟩
      · exact .inr (sent_sendFrame issued sound _ _)
    · refine .inr (sent_endObject ?_ (MessageStream.awaits_start issued sound _ _) _ _)
      exact fun _ text awaits => awaits.writeText text
    · rcases encode object with fault | bytes
      · exact .inl ⟨_, rfl⟩
      · exact .inr (sent_sendFrame issued sound _ _)
    · refine .inr (sent_endObject ?_ (MessageStream.awaits_start issued sound _ _) _ _)
      exact fun _ action awaits => awaits.act action

theorem sent_sendObject {sender : Sender types (Logged σ)} (issued : ticket < sender.ledger.slots.size)
    (sound : sender.ledger.Sound) (object : Option types.Object) :
    sender.Sent ticket (sender.sendObject object ticket).2 := by
  unfold sendObject
  rcases encodeObject_cases issued sound object with ⟨error, unsent⟩ | sent
  · rw [unsent]
    exact sent_fail issued sound error
  · revert sent
    rcases sender.encodeObject object ticket with ⟨error | ⟨⟩, after⟩
    · exact fun sent => sent.fail error
    · exact id

theorem sent_send {sender : Sender types (Logged σ)} (issued : ticket < sender.ledger.slots.size)
    (sound : sender.ledger.Sound) {submission : Submission types} (own : submission.Own) :
    sender.Sent ticket (sender.send ticket submission) := by
  cases submission with
  | frame frame mode => exact sent_sendFrame issued sound frame mode
  | text content => exact sent_sendFrame issued sound _ _
  | binary payload => exact sent_sendFrame issued sound _ _
  | fragment kind payload last => exact sent_sendFrame issued sound _ _
  | object object => exact sent_sendObject issued sound object
  | stream kind bufferSize events =>
    exact sent_finish ((MessageStream.awaits_start issued sound kind bufferSize).afterAll own)

end Sender
end Egress
