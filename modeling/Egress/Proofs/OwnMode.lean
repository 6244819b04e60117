import Egress.Proofs.Filling
import Egress.Proofs.HandingOver
import Egress.Proofs.WaitingFrames

/-!
Frames in a sender's own mode. Whatever an application sends without naming a mode goes out in the mode that the sender
is in, and so does every frame of a stream. The writer takes on no other frames, and what it completes gets its outcome
with the sender.
-/
namespace Egress

open Ledger (Deed Evolves)

/-- A ticket that is issued leads to older ones. -/
def Elsewhere.proper (ledger : Ledger) : Elsewhere → Bool
  | .issue recipient => recipient.next?.all fun target => target < ledger.slots.size
  | _ => true

namespace Sender

variable {types : ValueTypes} {key : Nat → Option MaskKey}

/-- The writer was given issued tickets only, and those that it has completed have an outcome. -/
structure Served (sender : Sender types (Logged (Scheduled key))) : Prop where
  sound : sender.ledger.Sound
  numbered : sender.Numbered
  answered : ∀ completion ∈ sender.traffic.history.completed, (sender.ledger.outcome? completion.1).isSome

/-- From one moment to another the writer was handed frames in the sender's mode, and no others. -/
structure Moves (before after : Sender types (Logged (Scheduled key))) : Prop where
  mode : after.batchMode = before.batchMode
  size : before.ledger.slots.size ≤ after.ledger.slots.size
  served : before.Served → after.Served
  accepted : ∃ sent, after.accepted = before.accepted ++ sent ∧
    ∀ command ∈ sent, ∀ mode, command.mode? = some mode → mode = before.batchMode

variable {sender after : Sender types (Logged (Scheduled key))} {ticket : Ticket}

theorem Moves.trans {first second third : Sender types (Logged (Scheduled key))} (left : first.Moves second)
    (right : second.Moves third) : first.Moves third := by
  obtain ⟨front, fronts, early⟩ := left.accepted
  obtain ⟨back, backs, late⟩ := right.accepted
  refine ⟨right.mode.trans left.mode, Nat.le_trans left.size right.size, right.served ∘ left.served, front ++ back, ?_, ?_⟩
  · rw [backs, fronts, List.append_assoc]
  · intro command member mode sent
    rcases List.mem_append.mp member with member | member
    · exact early command member mode sent
    · exact (late command member mode sent).trans left.mode

/-- What the writer completes gets its outcome with the sender. -/
theorem Served.carries {sent : List Command} (served : sender.Served)
    (carries : Traffic.Carries sent sender.traffic after.traffic)
    (issued : ∀ command ∈ sent, command.ticket < sender.ledger.slots.size) : after.Served := by
  obtain ⟨completions, completed, ledger, tickets⟩ := carries.completes sender.sound_history after.sound_history
  change after.ledger = sender.ledger.completeEach completions at ledger
  have larger := sender.ledger.extends_completeEach completions
  rw [← ledger] at larger
  have inside : ∀ completion ∈ completions, completion.1 < sender.ledger.slots.size := by
    intro completion member
    have known : completion.1 ∈ completions.map Prod.fst ++ after.traffic.history.writer.tickets :=
      List.mem_append_left _ (List.mem_map_of_mem member)
    rw [tickets] at known
    rcases List.mem_append.mp known with held | came
    · exact served.numbered.held held
    · obtain ⟨command, member, same⟩ := List.mem_map.mp came
      exact same ▸ issued command member
  refine ⟨?_, ?_, ?_⟩
  · rw [ledger]
    exact (Evolves.completeEach _ completions fun _ _ => trivial : Evolves (fun _ => True) _ _).sound served.sound
  · intro command member
    rw [show after.accepted = sender.accepted ++ sent from carries.accepted] at member
    refine Nat.lt_of_lt_of_le ?_ larger.size_le
    rcases List.mem_append.mp member with old | new
    · exact served.numbered command old
    · exact issued command new
  · intro completion member
    rw [completed] at member
    rcases List.mem_append.mp member with old | new
    · obtain ⟨outcome, known⟩ := Option.isSome_iff_exists.mp (served.answered completion old)
      rw [larger.outcome? known]
      rfl
    · rw [ledger]
      exact Ledger.outcome?_isSome_completeEach new (inside completion new)

theorem moves_carries {sent : List Command} (carries : Traffic.Carries sent sender.traffic after.traffic)
    (mode : after.batchMode = sender.batchMode)
    (own : ∀ command ∈ sent, command.ticket < sender.ledger.slots.size ∧
      ∀ mode, command.mode? = some mode → mode = sender.batchMode) : sender.Moves after := by
  obtain ⟨completions, _, ledger, _⟩ := carries.completes sender.sound_history after.sound_history
  change after.ledger = sender.ledger.completeEach completions at ledger
  refine ⟨mode, ?_, fun served => served.carries carries fun command member => (own command member).1,
    sent, carries.accepted, fun command member => (own command member).2⟩
  rw [ledger]
  exact (sender.ledger.extends_completeEach completions).size_le

/-- What does not touch the carrier hands nothing over. -/
theorem moves_still (carrier : after.carrier = sender.carrier) (mode : after.batchMode = sender.batchMode)
    (evolves : Evolves (fun _ => True) sender.ledger after.ledger) : sender.Moves after := by
  have same : after.accepted = sender.accepted := accepted_of_carrier carrier
  have larger := evolves.extended
  refine ⟨mode, larger.size_le, fun served => ⟨evolves.sound served.sound, served.numbered.same same larger.size_le, ?_⟩,
    [], same.trans (List.append_nil _).symm, nofun⟩
  intro completion member
  have completed : after.traffic.history.completed = sender.traffic.history.completed :=
    congrArg (fun logged => logged.carrier.history.completed) carrier
  obtain ⟨outcome, known⟩ := Option.isSome_iff_exists.mp (served.answered completion (completed ▸ member))
  rw [larger.outcome? known]
  rfl

theorem Moves.refl (sender : Sender types (Logged (Scheduled key))) : sender.Moves sender := moves_still rfl rfl (.refl _)

theorem moves_letWork (sender : Sender types (Logged (Scheduled key))) : sender.Moves sender.letWork :=
  moves_carries sender.carries_letWork rfl (List.forall_mem_nil _)

theorem moves_fail (sender : Sender types (Logged (Scheduled key))) (ticket : Ticket) (error : SendError) :
    sender.Moves (sender.fail ticket error) :=
  moves_still rfl rfl (.one (.complete ticket (.error error)) trivial trivial)

theorem moves_issue {recipient : Recipient}
    (older : ∀ target, recipient.next? = some target → target < sender.ledger.slots.size) :
    sender.Moves (sender.issue recipient).2 :=
  moves_still rfl rfl (.one (.issue recipient) older trivial)

theorem moves_submit (issued : ticket < sender.ledger.slots.size) (frame : Frame) :
    sender.Moves (sender.submit frame ticket sender.batchMode).2 := by
  obtain ⟨sent, carries, ⟨_, rfl⟩ | ⟨_, rfl⟩⟩ := sender.carries_submit frame ticket sender.batchMode
  · refine moves_carries carries rfl fun command member => ?_
    cases List.mem_singleton.mp member
    exact ⟨issued, fun mode same => (Option.some.inj same).symm⟩
  · exact moves_carries carries rfl (List.forall_mem_nil _)

theorem moves_offer (issued : ticket < sender.ledger.slots.size) (frame : Frame) :
    sender.Moves (sender.offer frame ticket sender.batchMode).2 := by
  have moved := moves_submit issued frame
  unfold offer
  revert moved
  rcases sender.submit frame ticket sender.batchMode with ⟨error | ⟨⟩, after⟩
  · exact fun moved => moved.trans (after.moves_fail ticket error)
  · exact id

theorem moves_dispatch (issued : ticket < sender.ledger.slots.size) (frame : Frame) :
    sender.Moves (sender.dispatch frame ticket sender.batchMode).2 := by
  unfold dispatch
  split
  · split
    · exact sender.moves_fail _ _
    · rename_i openMessage _
      let opened : Sender types (Logged (Scheduled key)) := { sender with openMessage }
      have begun : sender.Moves opened := moves_still rfl rfl (.refl _)
      have same : ticket < opened.ledger.slots.size := issued
      have offered := moves_offer same frame
      show sender.Moves ((opened.offer frame ticket opened.batchMode).2.afterData frame)
      unfold afterData
      split
      · exact (begun.trans offered).trans (moves_still rfl rfl (.refl _))
      · exact begun.trans offered
  · split
    · exact sender.moves_fail _ _
    · exact moves_offer issued _

theorem moves_sendControl (sender : Sender types (Logged (Scheduled key))) (frame : Frame) :
    sender.Moves (sender.sendControl frame).2 := by
  unfold sendControl
  split
  · exact .refl sender
  · rename_i sent _
    let issued := (sender.issue .nobody).2
    have new : sender.ledger.slots.size < issued.ledger.slots.size :=
      Nat.lt_of_lt_of_eq (Nat.lt_succ_self _) (Array.size_push _).symm
    have moved : sender.Moves issued := moves_issue nofun
    exact moved.trans (moves_submit new sent)

theorem moves_setIdleTimeout (sender : Sender types (Logged (Scheduled key))) (span : Duration) :
    sender.Moves (sender.setIdleTimeout span) := by
  have carries : Traffic.Carries [] sender.traffic (sender.setIdleTimeout span).traffic :=
    ⟨(List.append_nil _).symm, [], (List.append_nil _).symm, rfl⟩
  exact moves_carries carries rfl (List.forall_mem_nil _)

theorem moves_afterElsewhere {event : Elsewhere} (proper : event.proper sender.ledger) :
    sender.Moves (sender.afterElsewhere event) := by
  cases event with
  | work => exact sender.moves_letWork
  | issue recipient =>
    refine moves_issue fun target leads => ?_
    change recipient.next?.all _ = true at proper
    rw [leads] at proper
    exact of_decide_eq_true proper
  | complete ticket outcome => exact moves_still rfl rfl (.one (.complete ticket outcome) trivial trivial)
  | share pool turn => exact moves_still rfl rfl (.refl _)

end Sender

namespace MessageStream

variable {types : ValueTypes} {key : Nat → Option MaskKey}

/-- The ticket of the message has been issued. -/
def Owned (stream : MessageStream types (Logged (Scheduled key))) : Prop := stream.ticket < stream.sender.ledger.slots.size

/-- What becomes of a stream: its sender moves, and its ticket is still an issued one. -/
structure Moves (before after : MessageStream types (Logged (Scheduled key))) : Prop where
  sender : before.sender.Moves after.sender
  owned : before.Owned → after.Owned

variable {stream after : MessageStream types (Logged (Scheduled key))}

theorem Moves.trans {first second third : MessageStream types (Logged (Scheduled key))} (left : first.Moves second)
    (right : second.Moves third) : first.Moves third :=
  ⟨left.sender.trans right.sender, right.owned ∘ left.owned⟩

theorem moves_of_sender (moves : stream.sender.Moves after.sender) (ticket : after.ticket = stream.ticket) :
    stream.Moves after := by
  refine ⟨moves, fun owned => ?_⟩
  rw [Owned, ticket]
  exact Nat.lt_of_lt_of_le owned moves.size

theorem Moves.refl (stream : MessageStream types (Logged (Scheduled key))) : stream.Moves stream := ⟨.refl _, id⟩

theorem moves_letWork (stream : MessageStream types (Logged (Scheduled key))) : stream.Moves stream.letWork :=
  moves_of_sender stream.sender.moves_letWork rfl

theorem moves_fail (stream : MessageStream types (Logged (Scheduled key))) (error : SendError) :
    stream.Moves (stream.fail error) :=
  moves_of_sender (Sender.moves_still rfl rfl (.one (.recordFailure stream.message error) trivial trivial)) rfl

theorem moves_handOver (owned : stream.Owned) (final : Bool) : stream.Moves (stream.handOver final) := by
  obtain ⟨_, ticket, _⟩ := stream.handOver_own final
  refine moves_of_sender ?_ ticket
  let issued := (stream.sender.issue (stream.recipient final)).2
  have older : ∀ target, (stream.recipient final).next? = some target → target < stream.sender.ledger.slots.size := by
    intro target leads
    cases final with
    | false => cases leads
    | true =>
      cases leads
      exact owned
  have new : stream.sender.ledger.slots.size < issued.ledger.slots.size :=
    Nat.lt_of_lt_of_eq (Nat.lt_succ_self _) (Array.size_push _).symm
  have begun : stream.sender.Moves issued := Sender.moves_issue older
  have sent : stream.sender.Moves (stream.sendNext final).2 :=
    begun.trans (Sender.moves_dispatch new (stream.nextFrame final))
  unfold handOver
  revert sent
  rcases stream.sendNext final with ⟨delivery, sender⟩
  intro sent
  cases delivery with
  | accepted | rejected => exact sent
  | refused =>
    unfold afterDelivery
    dsimp only
    split
    · exact sent.trans (Sender.moves_still rfl rfl (.refl _))
    · exact sent

theorem moves_write (owned : stream.Owned) (data : Bytes) : stream.Moves (stream.write data).2 := by
  refine write_keeps stream.Moves (fun _ moves => ⟨moves.sender, moves.owned⟩) (fun moves _ => ?_) (.refl stream) data
  exact moves.trans (moves_handOver (moves.owned owned) false)

theorem moves_flush (owned : stream.Owned) : stream.Moves stream.flush.2 := by
  unfold flush
  split
  · exact .refl stream
  · split
    · exact .refl stream
    · rw [emit_snd]
      exact moves_handOver owned false

theorem moves_writeText (owned : stream.Owned) (text : String) : stream.Moves (stream.writeText text).2 := by
  have written := moves_write owned (Bytes.ofText text)
  unfold writeText
  split
  · rename_i answer
    rwa [answer] at written
  · rename_i answer
    rwa [answer] at written

theorem moves_act (owned : stream.Owned) (action : ByteAction) : stream.Moves (stream.act action).2 := by
  cases action with
  | write bytes =>
    show stream.Moves (stream.writeBytes bytes).2
    unfold writeBytes
    split
    · exact .refl stream
    · exact moves_write owned bytes
  | call bytes => exact moves_write owned bytes
  | flush => exact moves_flush owned

theorem moves_sendLast (owned : stream.Owned) : stream.Moves stream.sendLast := by
  unfold sendLast
  split
  · split
    · exact moves_of_sender (stream.sender.moves_fail _ _) rfl
    · rw [emit_snd]
      exact moves_handOver owned true
  · split
    · rw [emit_snd]
      let cleared : MessageStream types (Logged (Scheduled key)) := { stream with buffer := stream.buffer.clear }
      have same : cleared.Owned := owned
      have moved := moves_handOver same true
      exact ⟨moved.sender, moved.owned⟩
    · exact moves_of_sender (stream.sender.moves_fail _ _) rfl

theorem moves_close (owned : stream.Owned) : stream.Moves stream.close := by
  unfold close
  split
  · exact .refl stream
  · let closing : MessageStream types (Logged (Scheduled key)) := { stream with closed := true }
    have same : closing.Owned := owned
    have moved := moves_sendLast same
    exact ⟨moved.sender.trans (Sender.moves_still rfl rfl (.refl _)), moved.owned⟩

/-- What may happen to a stream. -/
def permits (stream : MessageStream types (Logged (Scheduled key))) : StreamEvent → Bool
  | .attach ticket => ticket < stream.sender.ledger.slots.size
  | .elsewhere event => event.proper stream.sender.ledger
  | _ => true

theorem moves_after (owned : stream.Owned) {event : StreamEvent} (permitted : stream.permits event) :
    stream.Moves (stream.after event) := by
  cases event with
  | write bytes => exact moves_write owned bytes
  | flush => exact moves_flush owned
  | fail error => exact stream.moves_fail error
  | attach ticket =>
    have issued : ticket < stream.sender.ledger.slots.size := of_decide_eq_true permitted
    exact ⟨.refl _, fun _ => issued⟩
  | close => exact moves_close owned
  | elsewhere event => exact moves_of_sender (Sender.moves_afterElsewhere permitted) rfl

end MessageStream

namespace Sender

variable {types : ValueTypes} {key : Nat → Option MaskKey} {sender : Sender types (Logged (Scheduled key))} {ticket : Ticket}

theorem moves_start (sender : Sender types (Logged (Scheduled key))) (kind : MessageKind) (bufferSize : Nat) :
    sender.Moves (MessageStream.start sender kind bufferSize).sender := by
  refine moves_still rfl rfl ?_
  have begun : Evolves (fun _ => True) sender.ledger sender.ledger.beginMessage.2 := .one .beginMessage trivial trivial
  exact begun.trans (.one (.issue .nobody) nofun trivial)

/-- A message is begun with a ticket that was issued. -/
theorem owned_start (issued : ticket < sender.ledger.slots.size) (kind : MessageKind) (bufferSize : Nat) :
    ((MessageStream.start sender kind bufferSize).setTicket ticket).Owned :=
  Nat.lt_of_lt_of_le issued (sender.moves_start kind bufferSize).size

/-- An object that is streamed is sent in the sender's mode, whatever its encoder does. -/
theorem moves_endObject {Action Refusal : Type}
    {answer : MessageStream types (Logged (Scheduled key)) → Action →
      Except Refusal Unit × MessageStream types (Logged (Scheduled key))}
    (moves : ∀ {stream : MessageStream types (Logged (Scheduled key))}, stream.Owned → ∀ action,
      stream.Moves (answer stream action).2)
    (issued : ticket < sender.ledger.slots.size) (kind : MessageKind) (emission : Emission Action Refusal)
    (typeName : String) :
    sender.Moves (endObject typeName (streamObject answer (sender.stream kind ticket) emission)).2 := by
  let begun := sender.stream kind ticket
  have owned : begun.Owned := owned_start issued kind _
  have started : sender.Moves begun.sender := sender.moves_start kind _
  have encoded : begun.Moves (streamObject answer begun emission).2 := by
    have run := emission.run_keeps begun.Moves (fun (state : MessageStream types (Logged (Scheduled key))) action moved => by
      have worked := moved.trans state.moves_letWork
      exact worked.trans (moves (worked.owned owned) action)) (.refl begun)
    exact run.trans (MessageStream.moves_letWork _)
  revert encoded
  rcases streamObject answer begun emission with ⟨fault | ⟨⟩, after⟩
  · intro encoded
    have failed := encoded.trans (after.moves_fail (fault.toSendError typeName))
    exact started.trans (failed.trans (MessageStream.moves_close (failed.owned owned))).sender
  · exact fun encoded => started.trans (encoded.trans (MessageStream.moves_close (encoded.owned owned))).sender

theorem moves_encodeObject (issued : ticket < sender.ledger.slots.size) (object : Option types.Object) :
    sender.Moves (sender.encodeObject object ticket).2 := by
  rcases object with _ | object
  · exact .refl sender
  · unfold encodeObject
    dsimp only
    rcases sender.session.registry.lookup object with _ | ⟨kind, encode | encode | encode | encode⟩
    · exact .refl sender
    all_goals dsimp only
    · rcases encode object with fault | text
      · exact .refl sender
      · exact moves_dispatch issued _
    · exact moves_endObject MessageStream.moves_writeText issued _ _ _
    · rcases encode object with fault | bytes
      · exact .refl sender
      · exact moves_dispatch issued _
    · exact moves_endObject MessageStream.moves_act issued _ _ _

theorem moves_sendObject (issued : ticket < sender.ledger.slots.size) (object : Option types.Object) :
    sender.Moves (sender.sendObject object ticket).2 := by
  have encoded := moves_encodeObject issued object
  unfold sendObject
  revert encoded
  rcases sender.encodeObject object ticket with ⟨error | ⟨⟩, after⟩
  · exact fun encoded => encoded.trans (after.moves_fail ticket error)
  · exact id

end Sender

namespace Custody

variable {types : ValueTypes} {key : Nat → Option MaskKey}

/-- What may happen while no flush is waited for: frames are sent in the sender's own mode, and with issued tickets. -/
def permits (custody : Custody types (Logged (Scheduled key))) : Event types → Bool
  | .call (.frame _ ticket mode) => ticket < custody.sender.ledger.slots.size ∧ mode = custody.sender.batchMode
  | .call (.text _ ticket) | .call (.binary _ ticket) | .call (.fragment _ _ _ ticket) | .call (.object _ ticket)
  | .openStream _ _ ticket => ticket < custody.sender.ledger.slots.size
  | .call (.ping _) | .call (.pong _) | .call (.setIdleTimeout _) | .dropStream => true
  | .call _ => false
  | .stream event =>
    match custody with
    | .free _ => true
    | .lent stream => stream.permits event
  | .elsewhere event => event.proper custody.sender.ledger

/-- The ticket of a stream has been issued. -/
def Owned : Custody types (Logged (Scheduled key)) → Prop
  | .free _ => True
  | .lent stream => stream.Owned

/-- What is permitted hands over frames in the sender's own mode, and no others. -/
theorem moves_after {custody : Custody types (Logged (Scheduled key))} (owned : custody.Owned) {event : Event types}
    (permitted : custody.permits event) :
    custody.sender.Moves (custody.after event).sender ∧ (custody.after event).Owned := by
  cases custody with
  | free sender =>
    have sends : ∀ {ticket : Ticket} (frame : Frame), ticket < sender.ledger.slots.size →
        sender.Moves (sender.sendFrame frame ticket sender.batchMode) :=
      fun frame issued => Sender.moves_dispatch issued frame
    cases event with
    | call call =>
      refine ⟨?_, trivial⟩
      show sender.Moves (sender.afterCall call)
      cases call with
      | frame frame ticket mode =>
        obtain ⟨issued, rfl⟩ := of_decide_eq_true permitted
        exact sends frame issued
      | text content ticket => exact sends _ (of_decide_eq_true permitted)
      | binary payload ticket => exact sends _ (of_decide_eq_true permitted)
      | fragment kind payload last ticket => exact sends _ (of_decide_eq_true permitted)
      | ping payload => exact sender.moves_sendControl _
      | pong payload => exact sender.moves_sendControl _
      | object object ticket => exact Sender.moves_sendObject (of_decide_eq_true permitted) object
      | setIdleTimeout span => exact sender.moves_setIdleTimeout span
      | _ => cases permitted
    | openStream kind bufferSize ticket =>
      exact ⟨sender.moves_start kind bufferSize, Sender.owned_start (of_decide_eq_true permitted) kind bufferSize⟩
    | elsewhere event => exact ⟨Sender.moves_afterElsewhere permitted, trivial⟩
    | stream event | dropStream => exact ⟨.refl sender, trivial⟩
  | lent stream =>
    cases event with
    | stream event =>
      have moved := MessageStream.moves_after owned permitted
      exact ⟨moved.sender, moved.owned owned⟩
    | dropStream => exact ⟨(MessageStream.moves_close owned).sender, trivial⟩
    | elsewhere event =>
      have same : stream.permits (.elsewhere event) := permitted
      have moved := MessageStream.moves_after owned same
      exact ⟨moved.sender, moved.owned owned⟩
    | call call | openStream kind bufferSize ticket => exact ⟨.refl stream.sender, owned⟩

end Custody
end Egress
