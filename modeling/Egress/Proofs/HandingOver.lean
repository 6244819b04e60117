import Egress.Proofs.AnsweredOnce
import Egress.Proofs.Filling
import Egress.Proofs.Traffic

/-!
How a stream hands a frame to a writer. The writer takes the frame on, and then its command is the last one accepted;
or it refuses the frame, and then the frame's ticket fails.
-/
namespace Egress

open Ledger (Deed Evolves)

/-- The command with which a frame was handed over. -/
def Handover.command (handover : Handover) : Command := .frame handover.frame handover.ticket handover.mode

variable {types : ValueTypes} {key : Nat → Option MaskKey}

/-- The writer and the ledger of a sender. -/
def Sender.traffic (sender : Sender types (Logged (Scheduled key))) : Traffic :=
  ⟨sender.carrier.carrier.history, sender.ledger⟩

/-- The commands that the writer of a sender has taken on. -/
def Sender.accepted (sender : Sender types (Logged (Scheduled key))) : List Command := sender.traffic.history.accepted

namespace Sender

theorem sound_history (sender : Sender types (Logged (Scheduled key))) : sender.traffic.history.Sound key :=
  sender.carrier.carrier.arises.sound

theorem carries_letWork (sender : Sender types (Logged (Scheduled key))) :
    Traffic.Carries [] sender.traffic sender.letWork.traffic :=
  sender.carrier.carrier.carries_turn sender.ledger

/-- A frame that is handed to the writer is taken on or refused. -/
theorem carries_submit (sender : Sender types (Logged (Scheduled key))) (frame : Frame) (own : Ticket) (mode : BatchMode) :
    ∃ sent, Traffic.Carries sent sender.traffic (sender.submit frame own mode).2.traffic ∧
      ((sender.submit frame own mode).1 = .ok () ∧ sent = [.frame frame own mode] ∨
        (∃ error, (sender.submit frame own mode).1 = .error error) ∧ sent = []) :=
  sender.carrier.carrier.carries_send sender.ledger (.frame frame own mode)

/-- A ticket that the writer does not hold, and that no other leads to, is left alone while nothing is handed over. -/
theorem slot_of_carries {sender after : Sender types (Logged (Scheduled key))} {own : Ticket}
    (carries : Traffic.Carries [] sender.traffic after.traffic) (alone : sender.ledger.Alone own)
    (inside : own < sender.ledger.slots.size) (apart : ∀ held ∈ sender.traffic.history.writer.tickets, held ≠ own) :
    after.ledger.slots[own]? = sender.ledger.slots[own]? := by
  have evolves : Evolves (Deed.Spares own) sender.ledger after.ledger := by
    refine carries.evolves sender.sound_history after.sound_history fun completion _ held => ?_
    rw [List.map_nil, List.append_nil] at held
    exact apart completion.1 held
  exact (Ledger.slot_spared evolves alone inside).2

/-- The commands that were accepted had been issued tickets. -/
def Numbered (sender : Sender types (Logged (Scheduled key))) : Prop :=
  ∀ command ∈ sender.accepted, command.ticket < sender.ledger.slots.size

/-- The writer takes a frame on. -/
structure Takes (next : Handover) (before after : Sender types (Logged (Scheduled key))) : Prop where
  taken : next.taken = true
  log : after.log = before.log ++ [next]
  accepted : after.accepted = before.accepted ++ [next.command]
  new : next.ticket = before.ledger.slots.size
  issued : next.ticket < after.ledger.slots.size

/-- Since a moment before, the frames of a message were handed over, and all of them taken. -/
structure Conveyed (before : Sender types (Logged (Scheduled key))) (message : List Handover)
    (after : Sender types (Logged (Scheduled key))) : Prop where
  log : after.log = before.log ++ message
  accepted : after.accepted = before.accepted ++ message.map Handover.command
  taken : ∀ handover ∈ message, handover.taken = true

variable {sender after : Sender types (Logged (Scheduled key))} {next : Handover}

theorem Conveyed.append {before : Sender types (Logged (Scheduled key))} {message : List Handover}
    (conveyed : before.Conveyed message sender) (takes : sender.Takes next after) :
    before.Conveyed (message ++ [next]) after := by
  refine ⟨by simp [takes.log, conveyed.log], by simp [takes.accepted, conveyed.accepted], ?_⟩
  intro handover member
  rcases List.mem_append.mp member with old | new
  · exact conveyed.taken handover old
  · cases List.mem_singleton.mp new
    exact takes.taken

theorem accepted_of_carrier (same : after.carrier = sender.carrier) : after.accepted = sender.accepted :=
  congrArg (fun logged => logged.carrier.history.accepted) same

theorem Conveyed.of_carrier {before : Sender types (Logged (Scheduled key))} {message : List Handover}
    (conveyed : before.Conveyed message sender) (same : after.carrier = sender.carrier) : before.Conveyed message after :=
  ⟨(congrArg Logged.log same).trans conveyed.log, (accepted_of_carrier same).trans conveyed.accepted, conveyed.taken⟩

theorem Numbered.same (numbered : sender.Numbered) (accepted : after.accepted = sender.accepted)
    (larger : sender.ledger.slots.size ≤ after.ledger.slots.size) : after.Numbered := by
  intro command member
  rw [accepted] at member
  exact Nat.lt_of_lt_of_le (numbered command member) larger

theorem Numbered.takes (numbered : sender.Numbered) (takes : sender.Takes next after) : after.Numbered := by
  intro command member
  rw [takes.accepted] at member
  rcases List.mem_append.mp member with old | new
  · exact Nat.lt_trans (takes.new ▸ numbered command old) takes.issued
  · cases List.mem_singleton.mp new
    exact takes.issued

theorem Numbered.held (numbered : sender.Numbered) {own : Ticket} (held : own ∈ sender.traffic.history.writer.tickets) :
    own < sender.ledger.slots.size := by
  obtain ⟨command, member, rfl⟩ := sender.sound_history.accepted_of_held held
  exact numbered command member

end Sender

namespace MessageStream

/-! ## Handing frames over -/

section Handing

variable {σ : Type} [Carrier σ]

/-- The open message is that of the stream, if it has begun. -/
def Fitting (stream : MessageStream types σ) : Prop :=
  stream.sender.openMessage = if stream.framesSent = 0 then none else some stream.kind

/-- The sender as it hands the next frame over. -/
def opened (stream : MessageStream types σ) (final : Bool) : Sender types σ :=
  { (stream.sender.issue (stream.recipient final)).2 with openMessage := some stream.kind }

/-- The carrier's answer to the next frame. -/
def answer (stream : MessageStream types σ) (final : Bool) : Outcome × Sender types σ :=
  (stream.opened final).submit (stream.nextFrame final) stream.sender.ledger.slots.size stream.sender.batchMode

theorem Fitting.sendNext {stream : MessageStream types σ} (fitting : stream.Fitting) (final : Bool) :
    stream.sendNext final =
      match (stream.opened final).offer (stream.nextFrame final) stream.sender.ledger.slots.size
        stream.sender.batchMode with
      | (delivery, sender) => (delivery, sender.afterData (stream.nextFrame final)) := by
  have data : (stream.nextFrame final).isData = true := stream.isData_opcode
  have advanced : stream.sender.openMessage.advance (stream.nextFrame final).opcode = .ok (some stream.kind) := by
    show stream.sender.openMessage.advance stream.opcode = _
    rw [fitting, MessageStream.opcode]
    by_cases first : stream.framesSent = 0
    · rw [if_pos first, if_pos first]
      cases stream.kind <;> rfl
    · rw [if_neg first, if_neg first]
      rfl
  unfold MessageStream.sendNext Sender.dispatch
  dsimp only [Sender.issue, Ledger.issue]
  rw [if_pos data, advanced]
  rfl

theorem Fitting.handOver_eq {stream : MessageStream types σ} (fitting : stream.Fitting) (final : Bool) :
    stream.handOver final =
      match stream.answer final with
      | (.ok (), sender) =>
        { stream with sender := sender.afterData (stream.nextFrame final), buffer := stream.buffer.drained,
                      framesSent := stream.framesSent + 1 }
      | (.error error, sender) =>
        ({ stream with sender := (sender.fail stream.sender.ledger.slots.size error).afterData (stream.nextFrame final),
                       buffer := stream.buffer.drained } : MessageStream types σ).afterDelivery final .refused := by
  have same : (stream.opened final).submit (stream.nextFrame final) stream.sender.ledger.slots.size
      stream.sender.batchMode = stream.answer final := rfl
  unfold handOver
  rw [fitting.sendNext]
  unfold Sender.offer
  rw [same]
  rcases stream.answer final with ⟨error | ⟨⟩, sender⟩ <;> rfl

theorem Fitting.handOver_of_taken {stream : MessageStream types σ} (fitting : stream.Fitting) {final : Bool}
    (taken : (stream.answer final).1 = .ok ()) :
    stream.handOver final =
      { stream with sender := (stream.answer final).2.afterData (stream.nextFrame final), buffer := stream.buffer.drained,
                    framesSent := stream.framesSent + 1 } := by
  rw [fitting.handOver_eq]
  revert taken
  rcases stream.answer final with ⟨error | ⟨⟩, sender⟩
  · exact fun taken => nomatch taken
  · exact fun _ => rfl

/-- After a frame was refused its ticket has failed, and the stream can go on unless it was the last frame. -/
theorem Fitting.handOver_of_refused {stream : MessageStream types σ} (fitting : stream.Fitting) {final : Bool}
    {error : SendError} (refused : (stream.answer final).1 = .error error) :
    (stream.handOver final).sender.ledger = (stream.answer final).2.ledger.fail stream.sender.ledger.slots.size error ∧
    (stream.handOver final).sender.carrier = (stream.answer final).2.carrier ∧
    (stream.handOver final).rejected = stream.rejected ∧ (final = false → (stream.handOver final).Fitting) := by
  have opened : (stream.answer final).2.openMessage = some stream.kind := rfl
  rw [fitting.handOver_eq]
  revert refused opened
  rcases stream.answer final with ⟨error | ⟨⟩, sender⟩
  · rintro ⟨⟩ opened
    dsimp only at opened ⊢
    unfold afterDelivery
    dsimp only
    cases final with
    | true =>
      rw [if_neg nofun]
      exact ⟨rfl, rfl, rfl, nofun⟩
    | false =>
      by_cases first : stream.framesSent = 0
      · rw [if_pos ⟨rfl, first⟩]
        exact ⟨rfl, rfl, rfl, fun _ => (if_pos first).symm⟩
      · rw [if_neg fun unbegun => first unbegun.2]
        exact ⟨rfl, rfl, rfl, fun _ => opened.trans (if_neg first).symm⟩
  · exact fun refused => nomatch refused

theorem sendLast_of_unfailed {stream : MessageStream types σ} (unfailed : stream.failure = none)
    (unrejected : stream.rejected = false) : stream.sendLast = stream.handOver true := by
  unfold sendLast
  rw [unfailed]
  dsimp only
  rw [unrejected]
  exact emit_snd stream true

end Handing

variable {stream : MessageStream types (Logged (Scheduled key))}

/-- The writer takes the next frame on; or it refuses it, and its ticket is still pending then. -/
theorem answer_cases (sound : stream.sender.ledger.Sound) (numbered : stream.sender.Numbered) {final : Bool}
    (older : (stream.recipient final).next? ≠ some stream.sender.ledger.slots.size) :
    let own := stream.sender.ledger.slots.size
    let next : Handover := ⟨stream.nextFrame final, own, stream.sender.batchMode, .ok ()⟩
    ((stream.answer final).1 = .ok () ∧ stream.sender.Takes next (stream.answer final).2) ∨
      ((∃ error, (stream.answer final).1 = .error error) ∧ (stream.answer final).2.accepted = stream.sender.accepted ∧
        stream.sender.ledger.failures.size ≤ (stream.answer final).2.ledger.failures.size ∧
        (stream.answer final).2.ledger.pending? own = some (stream.recipient final)) := by
  intro own next
  have goes : (stream.opened final).Goes (fun _ => True) (stream.answer final).2 :=
    Sender.goes_submit (stream.opened final).allows_all _ _ fun _ => trivial
  have inside : own < (stream.opened final).ledger.slots.size := by
    show own < (stream.sender.ledger.slots.push _).size
    simp [own]
  obtain ⟨sent, carries, cases⟩ := (stream.opened final).carries_submit next.frame own stream.sender.batchMode
  have logged := (stream.opened final).log_submit next.frame own stream.sender.batchMode
  rcases cases with ⟨taken, rfl⟩ | ⟨refused, rfl⟩
  · rw [taken] at logged
    exact .inl ⟨taken, rfl, logged, carries.accepted, rfl, Nat.lt_of_lt_of_le inside goes.ledger.extended.size_le⟩
  · refine .inr ⟨refused, carries.accepted.trans (List.append_nil _), goes.ledger.extended.messages, ?_⟩
    -- before the refusal only older tickets are completed
    have alone : (stream.opened final).ledger.Alone own := (sound.toTold.alone_of_new (Nat.le_refl _)).issue older
    have kept : (stream.answer final).2.ledger.slots[own]? = (stream.opened final).ledger.slots[own]? :=
      Sender.slot_of_carries carries alone inside fun _ held => Nat.ne_of_lt (numbered.held held)
    rw [Ledger.pending?_eq_some, kept]
    show (stream.sender.ledger.issue _).2.slots[own]? = _
    rw [Ledger.slots_issue, if_pos rfl]

end MessageStream
end Egress
