import Egress.Proofs.ChunkedMessage
import Egress.Proofs.WrittenValues

/-!
Streams that an encoder writes to, over a carrier that takes everything. As long as the encoder writes, nobody knows of the
ticket of the message. At the end the full blocks have been sent, and the ticket is owed one outcome: success if the
encoder came to its end, and else the encoder's fault. After a fault only an empty frame follows, and not even that if no
frame has gone before.
-/
namespace Egress

namespace Ledger

variable {ledger : Ledger} {failure : Option SendError} {message : MessageId} {ticket other : Ticket} {outcome : Outcome}

/-- How a message ends that has failed so, or has not failed. -/
def ending : Option SendError → Outcome
  | some error => .error error
  | none => .ok ()

/-- The ticket of a message can get but the outcome that is due to it, and from the last frame only. -/
structure Owes (failure : Option SendError) (message : MessageId) (ticket : Ticket) (ledger : Ledger) : Prop where
  failed : ledger.failure message = failure
  quiet : failure = none → ledger.Quiet message
  awaited : ledger.Awaited message ticket
  unled : ∀ (own : Ticket) (slot : Slot) (target : Ticket) (led : Slot), ledger.slots[own]? = some slot →
    slot.recipient.next? = some target → ledger.slots[target]? = some led → led.recipient.next? ≠ some ticket
  kept : ∀ outcome, ledger.outcome? ticket = some outcome → outcome = ending failure

/-- A ticket of which nobody knows. -/
theorem owes_of_alone (alone : ledger.Alone ticket) (waits : ledger.outcome? ticket = none)
    (failed : ledger.failure message = failure) (quiet : failure = none → ledger.Quiet message) :
    ledger.Owes failure message ticket := by
  refine ⟨failed, quiet, fun own slot there leads => absurd leads (alone own slot there), ?_, ?_⟩
  · exact fun _ _ target led _ _ reached => alone target led reached
  · rw [waits]
    exact nofun

/-- Where a ticket leads to, when another one has been issued, was there before. -/
theorem led_of_issue {recipient : Recipient} (told : ledger.Told)
    (older : ∀ target, recipient.next? = some target → target < ledger.slots.size) {own target : Ticket} {slot led : Slot}
    (there : (ledger.issue recipient).2.slots[own]? = some slot) (leads : slot.recipient.next? = some target)
    (reached : (ledger.issue recipient).2.slots[target]? = some led) :
    ledger.slots[target]? = some led ∧ (slot.recipient = recipient ∨ ledger.slots[own]? = some slot) := by
  have before : target < ledger.slots.size := by
    rcases slot_of_issue there with ⟨_, rfl⟩ | old
    · exact older target leads
    · exact Nat.lt_trans (told.older own slot target old leads) (Array.getElem?_eq_some_iff.mp old).1
  refine ⟨(slot_of_issue reached).resolve_left fun new => Nat.ne_of_lt before new.1, ?_⟩
  exact (slot_of_issue there).imp_left fun ⟨_, same⟩ => congrArg Slot.recipient same

/-- The ticket of the last frame is issued. -/
theorem Owes.issue_last (owes : ledger.Owes failure message ticket) (told : ledger.Told) (issued : ticket < ledger.slots.size)
    (foreign : ∀ slot, ledger.slots[ticket]? = some slot → slot.recipient ≠ .fragment message) :
    (ledger.issue (.last message ticket)).2.Owes failure message ticket := by
  have older : ∀ target, (Recipient.last message ticket).next? = some target → target < ledger.slots.size := by
    rintro target ⟨⟩
    exact issued
  refine ⟨owes.failed, fun unfailed => ⟨(owes.quiet unfailed).unfailed, ?_, ?_⟩, ?_, ?_, ?_⟩
  · intro own slot target there leads
    rcases slot_of_issue there with ⟨rfl, rfl⟩ | old
    · exact older target leads
    · exact told.older own slot target old leads
  · intro own slot target led there leads reached
    obtain ⟨known, new | old⟩ := led_of_issue told older there leads reached
    · rw [new] at leads
      cases leads
      exact foreign led known
    · exact (owes.quiet unfailed).unled own slot target led old leads known
  · intro own slot there leads
    rcases slot_of_issue there with ⟨_, rfl⟩ | old
    · rfl
    · exact owes.awaited own slot old leads
  · intro own slot target led there leads reached
    obtain ⟨known, new | old⟩ := led_of_issue told older there leads reached
    · rw [new] at leads
      cases leads
      exact fun around => Nat.lt_irrefl _ (told.older ticket led ticket known around)
    · exact owes.unled own slot target led old leads known
  · exact fun outcome known => owes.kept outcome (outcome?_of_issue known)

theorem Owes.settle {recipient : Recipient} (owes : ledger.Owes failure message ticket)
    (pending : ledger.pending? other = some recipient) (own : other = ticket → outcome = ending failure)
    (harmless : failure = none → outcome = .ok () ∨ recipient ≠ .fragment message) :
    (ledger.settle other recipient outcome).Owes failure message ticket := by
  have quiet : failure = none → (ledger.settle other recipient outcome).Quiet message :=
    fun unfailed => (owes.quiet unfailed).settle pending (harmless unfailed)
  refine ⟨?_, quiet, owes.awaited.settle pending, ?_, ?_⟩
  · cases failure with
    | some error => exact failure_settle owes.failed
    | none => exact (quiet rfl).unfailed
  · intro first slot target led there leads reached
    obtain ⟨before, issued, same⟩ := slot_before_settle pending there
    obtain ⟨old, known, equal⟩ := slot_before_settle pending reached
    rw [equal]
    exact owes.unled first before target old issued (same ▸ leads) known
  · intro kept known
    rcases outcome?_settle_cases pending known with ⟨same, rfl⟩ | before
    · exact own same
    · exact owes.kept kept before

/-- Outcomes that are not the ticket's own do not change what it is owed, but before the message has failed they must be
successes: what becomes of a success on the way neither comes to a fragment nor to the last frame. -/
theorem Owes.complete (owes : ledger.Owes failure message ticket) (own : other = ticket → outcome = ending failure)
    (success : failure = none → outcome = .ok ()) : (ledger.complete other outcome).Owes failure message ticket := by
  refine completeWithin_keeps (Owes failure message ticket)
    (fun later coming outcome => (coming = ticket → outcome = ending failure) ∧
      (failure = none → outcome = .ok () ∨ ∀ slot, later.slots[coming]? = some slot →
        slot.recipient ≠ .fragment message ∧ slot.recipient.next? ≠ some ticket)) ?_ _ owes
    ⟨own, fun unfailed => .inl (success unfailed)⟩
  rintro later coming recipient outcome owes ⟨own, harmless⟩ pending
  have slot := pending?_eq_some.mp pending
  have settled := owes.settle pending own fun unfailed => (harmless unfailed).imp_right fun apart => (apart _ slot).1
  refine ⟨settled, fun target passed on => ⟨?_, fun unfailed => .inr fun led reached => ?_⟩⟩
  · rintro rfl
    have last := owes.awaited coming _ slot (passOn_eq on)
    cases last
    rw [passOn_last, verdict, settled.failed] at on
    cases failure with
    | some error =>
      cases on
      rfl
    | none =>
      cases on
      exact (harmless rfl).resolve_right fun apart => (apart _ slot).2 rfl
  · obtain ⟨old, known, equal⟩ := slot_before_settle pending reached
    rw [equal]
    exact ⟨(owes.quiet unfailed).unled coming _ target old slot (passOn_eq on) known,
      owes.unled coming _ target old slot (passOn_eq on) known⟩

theorem Owes.completeEach (owes : ledger.Owes failure message ticket) {completions : List (Ticket × Outcome)}
    (own : ∀ completion ∈ completions, completion.1 = ticket → completion.2 = ending failure)
    (successes : failure = none → ∀ completion ∈ completions, completion.2 = .ok ()) :
    (ledger.completeEach completions).Owes failure message ticket := by
  induction completions generalizing ledger with
  | nil => exact owes
  | cons completion completions ih =>
    refine ih ?_ (fun later member => own later (List.mem_cons_of_mem _ member))
      fun unfailed later member => successes unfailed later (List.mem_cons_of_mem _ member)
    exact owes.complete (own completion List.mem_cons_self) fun unfailed => successes unfailed completion List.mem_cons_self

end Ledger

namespace MessageKind

variable {kind : MessageKind} {size : Nat} {frames : List Frame} {rest : Bytes}

/-- What is sent of some data that breaks off: its full blocks and an empty last frame, or nothing if no block is full. -/
def breakOff (kind : MessageKind) (size : Nat) (data : Bytes) : List Frame :=
  if data.length < size then [] else kind.cut size (data.take (data.length / size * size))

/-- Less than a block is nothing. -/
theorem breakOff_of_short (kind : MessageKind) (short : rest.length < size) : kind.breakOff size rest = [] := if_pos short

/-- Of frames in sequence that are all full, and of what is less than a block, the frames are left. -/
theorem Sequence.eq_breakOff (sequence : kind.Sequence frames) (unended : ∀ frame ∈ frames, frame.final = false)
    (even : ∀ frame ∈ frames, frame.payload.length = size) (short : rest.length < size) (some : frames ≠ []) :
    frames ++ [⟨kind.opcodeAt frames.length, true, []⟩] = kind.breakOff size (frames.flatMap Frame.payload ++ rest) := by
  have pieces : ∀ piece ∈ frames.map Frame.payload, piece.length = size := List.forall_mem_map.mpr even
  have length : (frames.flatMap Frame.payload).length = frames.length * size := by
    rw [List.flatMap_def, Bytes.length_flatten_even pieces, List.length_map]
  have count : (frames.flatMap Frame.payload ++ rest).length / size = frames.length := by
    rw [List.flatMap_def, Bytes.div_length_flatten pieces short, List.length_map]
  have block : size ≤ frames.length * size := Nat.le_mul_of_pos_left size (List.length_pos_iff.mpr some)
  unfold breakOff
  rw [count, ← length, List.take_left, List.length_append, length, if_neg (by omega)]
  rw [sequence.eq_cut unended even (show ([] : Bytes).length < size from Nat.zero_lt_of_lt short), List.append_nil]

end MessageKind

/-- Since a moment before, frames have been handed over, and all of them were taken. -/
structure Sender.Delivers {types : ValueTypes} {σ : Type} (before after : Sender types (Logged σ)) (frames : List Frame)
    (message : List Handover) : Prop where
  log : after.log = before.log ++ message
  taken : AllTaken message
  frames : message.map Handover.frame = frames

namespace MessageStream

open Ledger (Deed)

variable {types : ValueTypes} {σ : Type} [Carrier σ] {Well : σ → Prop} {before : Sender types (Logged σ)}
  {kind : MessageKind} {size : Nat} {ticket : Ticket} {data : Bytes} {stream after : MessageStream types (Logged σ)}

/-! ## While the encoder writes -/

/-- The data has been written to a message, and nobody knows of the message's ticket. -/
structure Fed (Well : σ → Prop) (before : Sender types (Logged σ)) (kind : MessageKind) (size : Nat) (ticket : Ticket)
    (data : Bytes) (stream : MessageStream types (Logged σ)) : Prop where
  feeding : stream.Feeding Well before kind size (· = size) data
  roomy : stream.Roomy
  own : stream.ticket = ticket
  fresh : stream.sender.Fresh ticket
  sound : stream.sender.ledger.Sound
  begun : stream.message < stream.sender.ledger.failures.size
  foreign : ∀ slot, stream.sender.ledger.slots[ticket]? = some slot → slot.recipient ≠ .fragment stream.message

theorem Fed.later {more : Bytes} (fed : stream.Fed Well before kind size ticket data)
    (goes : stream.Goes (Deed.Spares ticket) after)
    (feeding : after.Feeding Well before kind size (· = size) more ∧ after.Roomy) :
    after.Fed Well before kind size ticket more := by
  obtain ⟨_, same⟩ := Ledger.slot_spared goes.sender.ledger fed.fresh.alone fed.fresh.issued
  have begun := Nat.lt_of_lt_of_le fed.begun goes.sender.ledger.extended.messages
  refine ⟨feeding.1, feeding.2, goes.ticket.trans fed.own, fed.fresh.goes goes.sender, goes.sender.ledger.sound fed.sound,
    goes.message ▸ begun, ?_⟩
  rw [same, goes.message]
  exact fed.foreign

variable [LawfulCarrier σ]

theorem Fed.letWork (fed : stream.Fed Well before kind size ticket data) (willing : Carrier.Willing Well) :
    stream.letWork.Fed Well before kind size ticket data := by
  have feeds : StreamEvent.Feeds (.elsewhere .work) := rfl
  have worked := fed.feeding.after fed.roomy willing rfl feeds nofun
  rw [show StreamEvent.written (.elsewhere .work) = [] from rfl, List.append_nil] at worked
  exact fed.later (goes_letWork fed.fresh.allows) worked

theorem Fed.write (fed : stream.Fed Well before kind size ticket data) (willing : Carrier.Willing Well) (bytes : Bytes) :
    (stream.write bytes).1 = .ok () ∧ (stream.write bytes).2.Fed Well before kind size ticket (data ++ bytes) := by
  obtain ⟨taken, written⟩ := fed.feeding.write fed.roomy willing rfl bytes
  exact ⟨taken, fed.later (goes_write (Sender.begins_spares ticket) fed.fresh.allows bytes) written⟩

theorem Fed.writeText (fed : stream.Fed Well before kind size ticket data) (willing : Carrier.Willing Well) (text : String) :
    (stream.writeText text).1 = .ok () ∧
      (stream.writeText text).2.Fed Well before kind size ticket (data ++ Bytes.ofText text) := by
  have written := fed.write willing (Bytes.ofText text)
  unfold MessageStream.writeText
  revert written
  rcases stream.write (Bytes.ofText text) with ⟨error | ⟨⟩, after⟩
  · exact fun written => nomatch written.1
  · exact fun written => ⟨rfl, written.2⟩

theorem Fed.writeBytes (fed : stream.Fed Well before kind size ticket data) (willing : Carrier.Willing Well) (bytes : Bytes) :
    (stream.act (.write bytes)).1 = .ok () ∧
      (stream.act (.write bytes)).2.Fed Well before kind size ticket (data ++ bytes) := by
  show (stream.writeBytes bytes).1 = .ok () ∧ (stream.writeBytes bytes).2.Fed Well before kind size ticket (data ++ bytes)
  unfold MessageStream.writeBytes
  by_cases none : bytes = []
  · rw [none, List.append_nil]
    exact ⟨rfl, fed⟩
  · rw [if_neg (by rwa [List.isEmpty_iff])]
    exact fed.write willing bytes

/-- The whole work of an encoder that writes its pieces one after the other. -/
theorem Fed.streamObject {Piece Action Refusal : Type} {asking : Piece → Action} {content : Piece → Bytes}
    {result : Except Fault Unit} {refused : Fault} {bytes : Bytes} {emission : Emission Action Refusal}
    {answer : MessageStream types (Logged σ) → Action → Except Refusal Unit × MessageStream types (Logged σ)}
    (willing : Carrier.Willing Well)
    (takes : ∀ data (stream : MessageStream types (Logged σ)) piece, stream.Fed Well before kind size ticket data →
      (answer stream (asking piece)).1 = .ok () ∧
        (answer stream (asking piece)).2.Fed Well before kind size ticket (data ++ content piece))
    (puts : emission.Puts asking content result refused bytes) (fed : stream.Fed Well before kind size ticket []) :
    (Sender.streamObject answer stream emission).1 = result ∧
      (Sender.streamObject answer stream emission).2.Fed Well before kind size ticket bytes := by
  obtain ⟨ended, written⟩ := puts.run (fun stream action => answer stream.letWork action)
    (fun data stream => stream.Fed Well before kind size ticket data)
    (fun data stream piece fed => takes data stream.letWork piece (fed.letWork willing)) fed
  exact ⟨ended, written.letWork willing⟩

omit [LawfulCarrier σ] in
theorem fed_start {sender : Sender types (Logged σ)} (well : Well sender.carrier.carrier) (sound : sender.ledger.Sound)
    (unheard : sender.ledger.Unheard sender.ledger.failures.size) (unopened : sender.openMessage = none)
    (fresh : sender.Fresh ticket) (kind : MessageKind) :
    (sender.stream kind ticket).Fed Well sender kind (max (sender.session.settings.bufferSize kind) 1) ticket [] := by
  let opened : MessageStream types (Logged σ) := sender.stream kind ticket
  have started : sender.Goes (Deed.Spares ticket) opened.sender :=
    Sender.goes_start (Sender.begins_spares ticket) fresh.allows kind _
  obtain ⟨_, same⟩ := Ledger.slot_spared started.ledger fresh.alone fresh.issued
  have begun : opened.message < opened.sender.ledger.failures.size := by
    simp [opened, start_eq, Sender.stream, setTicket, Ledger.beginMessage, Ledger.issue]
  refine ⟨feeding_start well sound.toTold unheard unopened kind _ ticket _, roomy_start sender kind _, rfl,
    fresh.goes started, started.ledger.sound sound, begun, ?_⟩
  rw [show (sender.stream kind ticket).sender.ledger.slots[ticket]? = sender.ledger.slots[ticket]? from same]
  exact fun slot there fragment => unheard ticket slot there (by rw [fragment]; rfl)

/-! ## The end -/

/-- With its last frame a message leaves to the carrier what is owed to its ticket. -/
theorem owes_handOver {failure : Option SendError} (willing : Carrier.Willing Well)
    (well : Well stream.sender.carrier.carrier) (fitting : stream.Fitting) (fresh : stream.sender.Fresh stream.ticket)
    (sound : stream.sender.ledger.Sound)
    (foreign : ∀ slot, stream.sender.ledger.slots[stream.ticket]? = some slot → slot.recipient ≠ .fragment stream.message)
    (failed : stream.failure = failure) (quiet : failure = none → stream.sender.ledger.Quiet stream.message) :
    (stream.handOver true).sender.ledger.Owes failure stream.message stream.ticket := by
  rw [fitting.handOver_of_taken (taken_of_willing willing well true)]
  show (stream.answer true).2.ledger.Owes failure stream.message stream.ticket
  have begun : (stream.opened true).ledger.Owes failure stream.message stream.ticket :=
    (Ledger.owes_of_alone fresh.alone fresh.outcome failed quiet).issue_last sound.toTold fresh.issued foreign
  cases failure with
  | none =>
    obtain ⟨_, completions, after, successes⟩ := willing.logged.sendFrame stream.sender.carrier well (stream.opened true).ledger
      (stream.nextFrame true) stream.sender.ledger.slots.size stream.sender.batchMode
    rw [show (stream.answer true).2.ledger = (stream.opened true).ledger.completeEach completions from after]
    exact begun.completeEach (fun completion member _ => successes completion member) fun _ => successes
  | some error =>
    -- whatever the carrier reports, it does not complete the ticket itself
    obtain ⟨⟨completions, after, owned⟩, _⟩ := LawfulCarrier.sendFrame stream.sender.carrier (stream.opened true).ledger
      (stream.nextFrame true) stream.sender.ledger.slots.size stream.sender.batchMode
    rw [show (stream.answer true).2.ledger = (stream.opened true).ledger.completeEach completions from after]
    refine begun.completeEach (fun completion member same => ?_) nofun
    rcases owned completion member with new | held
    · exact absurd (new.symm.trans same) (Nat.ne_of_gt fresh.issued)
    · exact absurd same (fresh.allows.held completion.1 held completion.2)

/-- An encoder that comes to its end has sent its data, and its message is owed success. -/
theorem Fed.finish (fed : stream.Fed Well before kind size ticket data) (willing : Carrier.Willing Well) :
    (∃ message, before.Delivers stream.finish (kind.cut size data) message) ∧
      stream.finish.ledger.Owes none stream.message ticket := by
  have ready := fed.feeding.ready
  obtain ⟨_, message, portions, log, taken, _⟩ := fed.feeding.close willing
  refine ⟨⟨_, log, taken, portions.eq_cut fed.roomy⟩, ?_⟩
  let closing : MessageStream types (Logged σ) := { stream with closed := true }
  have owes : (closing.handOver true).sender.ledger.Owes none closing.message closing.ticket :=
    owes_handOver willing ready.well ready.fitting (fed.own.symm ▸ fed.fresh) fed.sound (fed.own.symm ▸ fed.foreign)
      ready.unfailed fun _ => ready.quiet
  rw [MessageStream.finish, ready.close_eq, ← fed.own]
  exact owes

omit [LawfulCarrier σ] in
/-- A message that has failed is closed with an empty frame if a frame has gone before. -/
theorem close_of_failed {error : SendError} (failed : stream.failure = some error) (unclosed : stream.closed = false)
    (unrejected : stream.rejected = false) :
    (0 < stream.framesSent → stream.close =
      (({ stream with closed := true, buffer := stream.buffer.clear } :
        MessageStream types (Logged σ)).handOver true).returnBuffer) ∧
    (stream.framesSent = 0 → stream.close =
      ({ stream with closed := true, sender := stream.sender.fail stream.ticket error } :
        MessageStream types (Logged σ)).returnBuffer) := by
  let closing : MessageStream types (Logged σ) := { stream with closed := true }
  have still : closing.failure = some error := failed
  have same : stream.close = closing.sendLast.returnBuffer := by
    unfold MessageStream.close
    rw [unclosed, if_neg nofun]
  rw [same]
  unfold sendLast
  rw [still]
  dsimp only
  constructor
  · intro begun
    rw [if_pos ⟨unrejected, begun⟩, emit_snd]
  · intro none
    rw [if_neg fun both => Nat.ne_of_gt both.2 none]

/-- An encoder that faults has sent its full blocks, and its message is owed the fault. -/
theorem Fed.finish_fail (fed : stream.Fed Well before kind size ticket data) (willing : Carrier.Willing Well)
    (error : SendError) :
    (∃ message, before.Delivers (stream.fail error).finish (kind.breakOff size data) message) ∧
      (stream.fail error).finish.ledger.Owes (some error) stream.message ticket := by
  obtain ⟨ready, message, portions⟩ := fed.feeding
  have failed : (stream.fail error).failure = some error :=
    Ledger.failure_recordFailure_first fed.begun ready.unfailed error
  have marked : stream.Goes (Deed.Spares ticket) (stream.fail error) := goes_fail fed.fresh.allows trivial
  have fresh := fed.fresh.goes marked.sender
  have short : stream.buffer.toBytes.length < size := by
    rw [Buffer.length_toBytes, ← portions.limit]
    exact fed.roomy
  have sequence : kind.Sequence (message.map Handover.frame) := portions.opcodes
  have content := portions.content
  obtain ⟨begun, unbegun⟩ := close_of_failed failed ready.unclosed ready.unrejected
  have count : (stream.fail error).framesSent = message.length := portions.sent
  unfold MessageStream.finish
  by_cases none : message = []
  · rw [unbegun (by rw [count, none]; rfl)]
    subst none
    have frames : kind.breakOff size data = [] := by
      rw [← content]
      exact kind.breakOff_of_short short
    refine ⟨⟨[], portions.log, portions.taken, frames.symm⟩, ?_⟩
    show ((stream.fail error).sender.ledger.complete stream.ticket (.error error)).Owes (some error) stream.message ticket
    exact (Ledger.owes_of_alone fresh.alone fresh.outcome failed nofun).complete (fun _ => rfl) nofun
  · rw [begun (by rw [count]; exact List.length_pos_iff.mpr none)]
    let last : MessageStream types (Logged σ) := { stream.fail error with closed := true, buffer := stream.buffer.clear }
    have fitting : last.Fitting := ready.fitting
    have frames := sequence.eq_breakOff (List.forall_mem_map.mpr portions.unended) (List.forall_mem_map.mpr portions.lengths)
      short (by rwa [ne_eq, List.map_eq_nil_iff])
    rw [List.flatMap_map, content, List.length_map] at frames
    have well : Well last.sender.carrier.carrier := ready.well
    have taken := taken_of_willing willing well true
    have slots : last.sender.ledger.slots = stream.sender.ledger.slots := Ledger.slots_recordFailure _ _
    have foreign : ∀ slot, last.sender.ledger.slots[last.ticket]? = some slot → slot.recipient ≠ .fragment last.message := by
      rw [slots, show last.ticket = ticket from fed.own]
      exact fed.foreign
    have owes : (last.handOver true).sender.ledger.Owes (some error) last.message last.ticket :=
      owes_handOver willing well fitting (fed.own.symm ▸ fresh) (marked.sender.ledger.sound fed.sound) foreign failed nofun
    refine ⟨⟨message ++ [last.handed true], ?_, allTaken_handed portions.taken taken, ?_⟩, fed.own ▸ owes⟩
    · show (last.handOver true).sender.log = _
      rw [fitting.log_handOver, show last.sender.log = before.log ++ message from portions.log, List.append_assoc]
      rfl
    · rw [← frames, List.map_append, List.map_singleton]
      show _ ++ [(⟨stream.opcode, true, stream.buffer.clear.toBytes⟩ : Frame)] = _
      rw [opcode, portions.sent, portions.sort, Buffer.toBytes_clear]
      rfl

end MessageStream
end Egress
