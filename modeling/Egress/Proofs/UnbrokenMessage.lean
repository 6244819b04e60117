import Egress.Proofs.CompletedMessages

/-!
A streamed message has no hole. Whatever is done to a stream, in whatever order, also after its message has failed and
after it has been closed, the frames that were taken of the message hold the beginning of what was written to it, and none
but the last of them is final.
-/
namespace Egress

/-- No frame but the last is final. -/
def EndsOnce (message : List Handover) : Prop := ∀ handover ∈ message.dropLast, handover.frame.final = false

theorem endsOnce_of_unended {message : List Handover} (unended : ∀ handover ∈ message, handover.frame.final = false) :
    EndsOnce message :=
  fun handover member => unended handover (List.dropLast_subset _ member)

theorem endsOnce_concat {message : List Handover} (unended : ∀ handover ∈ message, handover.frame.final = false)
    (last : Handover) : EndsOnce (message ++ [last]) := by
  intro handover member
  rw [List.dropLast_concat] at member
  exact unended handover member

/-- Some of the frames of a message, in their order. -/
theorem EndsOnce.filter {message : List Handover} (ends : EndsOnce message) (chosen : Handover → Bool) :
    EndsOnce (message.filter chosen) := by
  rcases List.eq_nil_or_concat message with rfl | ⟨front, last, rfl⟩
  · exact ends
  · rw [List.concat_eq_append] at ends ⊢
    have unended : ∀ handover ∈ front.filter chosen, handover.frame.final = false := by
      intro handover member
      refine ends handover ?_
      rw [List.dropLast_concat]
      exact List.mem_of_mem_filter member
    rw [List.filter_append]
    cases kept : chosen last with
    | true =>
      rw [List.filter_cons_of_pos kept, List.filter_nil]
      exact endsOnce_concat unended last
    | false =>
      rw [List.filter_cons_of_neg (by simp [kept]), List.filter_nil, List.append_nil]
      exact endsOnce_of_unended unended

namespace Sender

variable {types : ValueTypes} {σ : Type} {log message : List Handover} {data : Bytes}

/-- Since the log was as given, the frames of one message have been handed over. Of those that were taken only the last may
be final, and what they hold is the beginning of the data, unless the carrier has hidden a refusal. -/
def Unbroken (log : List Handover) (data : Bytes) (sender : Sender types (Logged σ)) : Prop :=
  ∃ message, sender.log = log ++ message ∧ EndsOnce (message.filter Handover.taken) ∧
    (¬ sender.ledger.Misled message → takenBytes message <+: data)

theorem Transmits.unbroken {sender : Sender types (Logged σ)} {unfailed : Prop}
    (transmits : sender.Transmits log data unfailed) (sent : sender.log = log ++ message) (ends : EndsOnce message) :
    sender.Unbroken log data := by
  obtain ⟨other, same, arrived⟩ := transmits
  obtain rfl : other = message := List.append_cancel_left (same.symm.trans sent)
  exact ⟨other, sent, ends.filter _, fun honest => (arrived honest).start⟩

/-- Nothing more is handed over, whatever more is written. -/
theorem Unbroken.later {sender after : Sender types (Logged σ)} (unbroken : sender.Unbroken log data)
    (same : after.log = sender.log) (more : sender.ledger.Extends after.ledger) (rest : Bytes) :
    after.Unbroken log (data ++ rest) := by
  obtain ⟨message, sent, ends, start⟩ := unbroken
  refine ⟨message, same.trans sent, ends, fun honest => ?_⟩
  exact (start fun misled => honest (misled.later more)).trans (List.prefix_append _ _)

end Sender

namespace MessageStream

variable {types : ValueTypes} {σ : Type} [Carrier σ] {stream : MessageStream types (Logged σ)} {log : List Handover}
  {data : Bytes}

theorem extends_of_closed [LawfulCarrier σ] (closed : stream.closed = true) (event : StreamEvent) :
    stream.sender.ledger.Extends (stream.after event).sender.ledger := by
  have unchanged {after : MessageStream types (Logged σ)} (same : after = stream) :
      stream.sender.ledger.Extends after.sender.ledger := same ▸ .refl _
  cases event with
  | write bytes => exact unchanged (stream.write_unchanged (.inl closed) bytes)
  | flush => exact unchanged (by simp [after, flush, closed])
  | close => exact unchanged (by simp [after, close, closed])
  | fail error => exact Ledger.extends_after _ (.recordFailure _ error)
  | attach ticket => exact .refl _
  | elsewhere event => exact stream.extends_elsewhere event

variable [LawfulCarrier σ]

/-- Closing hands over one frame at most. -/
theorem log_sendLast (stream : MessageStream types (Logged σ)) :
    stream.sendLast.sender.log = stream.sender.log ∨ ∃ last, stream.sendLast.sender.log = stream.sender.log ++ [last] := by
  have sent (stream : MessageStream types (Logged σ)) : (stream.emit true).2.sender.log = stream.sender.log ∨
      ∃ last, (stream.emit true).2.sender.log = stream.sender.log ++ [last] := by
    rw [emit_snd]
    rcases stream.hands_handOver true with ⟨same, _⟩ | ⟨last, _, _, handed⟩
    · exact .inl same
    · exact .inr ⟨last, handed.log⟩
  unfold sendLast
  split
  · split
    · exact .inl rfl
    · exact sent stream
  · split
    · exact sent { stream with buffer := stream.buffer.clear }
    · exact .inl rfl

omit [Carrier σ] [LawfulCarrier σ] in
/-- What was handed over of a message is unbroken while its stream is open. -/
theorem Writing.unbroken (writing : stream.Writing log data) : stream.sender.Unbroken log data := by
  obtain ⟨message, relayed⟩ := writing.relayed
  exact (relayed.transmits rfl (.refl _) True).unbroken relayed.sent (endsOnce_of_unended relayed.unended)

/-- What was handed over of a message is unbroken when its stream has been closed. -/
theorem Writing.unbroken_close (writing : stream.Writing log data) : stream.close.sender.Unbroken log data := by
  obtain ⟨message, relayed⟩ := writing.relayed
  let closing : MessageStream types (Logged σ) := { stream with closed := true }
  have ended : stream.close.sender.log = closing.sendLast.sender.log := by
    unfold close
    rw [if_neg (by simp [writing.unclosed])]
    rfl
  have transmits : stream.close.sender.Transmits log data (stream.failure = none) := writing.finish
  rcases closing.log_sendLast with same | ⟨last, more⟩
  · exact transmits.unbroken ((ended.trans same).trans relayed.sent) (endsOnce_of_unended relayed.unended)
  · have sent : stream.close.sender.log = log ++ (message ++ [last]) := by
      rw [ended, more, ← List.append_assoc, ← relayed.sent]
    exact transmits.unbroken sent (endsOnce_concat relayed.unended last)

/-- A stream at any time: it is open and has relayed what was written to it, or it has been closed. -/
def Unbroken (log : List Handover) (data : Bytes) (stream : MessageStream types (Logged σ)) : Prop :=
  stream.Writing log data ∧ stream.Roomy ∨ stream.closed = true ∧ stream.sender.Unbroken log data

omit [Carrier σ] [LawfulCarrier σ] in
theorem Unbroken.sender (unbroken : stream.Unbroken log data) : stream.sender.Unbroken log data := by
  rcases unbroken with ⟨writing, _⟩ | ⟨_, kept⟩
  · exact writing.unbroken
  · exact kept

theorem Unbroken.close (unbroken : stream.Unbroken log data) : stream.close.Unbroken log data := by
  rcases unbroken with ⟨writing, _⟩ | ⟨closed, kept⟩
  · refine .inr ⟨?_, writing.unbroken_close⟩
    unfold MessageStream.close
    rw [if_neg (by simp [writing.unclosed])]
    exact (sendLast_message _).2
  · have same : stream.close = stream := by
      unfold MessageStream.close
      rw [if_pos closed]
    rw [same]
    exact .inr ⟨closed, kept⟩

/-- Whatever happens to a stream keeps its message unbroken. -/
theorem Unbroken.after (unbroken : stream.Unbroken log data) (event : StreamEvent) :
    (stream.after event).Unbroken log (data ++ event.written) := by
  by_cases closing : event = .close
  · subst closing
    show stream.close.Unbroken log (data ++ [])
    rw [List.append_nil]
    exact unbroken.close
  · rcases unbroken with ⟨writing, roomy⟩ | ⟨closed, kept⟩
    · exact .inl (endures_writing.after writing roomy closing)
    · obtain ⟨still, _, same⟩ := stream.after_of_closed closed event
      exact .inr ⟨still, kept.later same (extends_of_closed closed event) _⟩

theorem Unbroken.afterAll (unbroken : stream.Unbroken log data) (events : List StreamEvent) :
    (stream.afterAll events).Unbroken log (data ++ events.flatMap StreamEvent.written) := by
  induction events generalizing stream data with
  | nil => simpa [MessageStream.afterAll] using unbroken
  | cons event events ih =>
    have rest := ih (unbroken.after event)
    rwa [List.append_assoc, ← List.flatMap_cons] at rest

/-- The beginning of a message is taken, and nothing from beyond a gap. A stream is opened on any sender, over any carrier;
whatever happens to it then, writes after a failed write and calls after closing included, and whether it is still open or
has been dropped: of the frames taken only the last may be final, and what they hold is the beginning of all that was
passed to writes, as long as the carrier has not completed with success what it refuses. -/
theorem taken_without_hole (sender : Sender types (Logged σ)) (kind : MessageKind) (bufferSize : Nat) (ticket : Ticket)
    (events : List StreamEvent) :
    let stream := ((start sender kind bufferSize).setTicket ticket).afterAll events
    let data := events.flatMap StreamEvent.written
    stream.sender.Unbroken sender.log data ∧ stream.finish.Unbroken sender.log data := by
  intro stream data
  have begun : ((start sender kind bufferSize).setTicket ticket).Unbroken sender.log [] :=
    .inl ⟨endures_writing.attaches ticket (writing_start sender kind bufferSize), roomy_start sender kind bufferSize⟩
  have run : stream.Unbroken sender.log data := begun.afterAll events
  exact ⟨run.sender, run.close.sender⟩

/-- The second frame is refused and more is written all the same; then the stream is closed, written to and closed again. -/
def heedlessEvents : List StreamEvent :=
  [.write [97, 98, 99, 100, 101, 102], .write [103, 104], .flush, .close, .write [105], .close]

theorem taken_without_hole_heedless :
    let sender := Sender.replying [.accept, .refuse .backpressure, .accept]
    let after := (((start sender .binary 2).setTicket 0).afterAll heedlessEvents).finish
    after.log.map (·.frame) = [⟨.binary, false, [97, 98]⟩, ⟨.continuation, false, [99, 100]⟩, ⟨.continuation, true, []⟩] ∧
    EndsOnce (after.log.filter Handover.taken) ∧ ¬ after.ledger.Misled after.log ∧
    takenBytes after.log <+: [97, 98, 99, 100, 101, 102, 103, 104, 105] := by
  intro sender after
  obtain ⟨_, message, sent, ends, start⟩ := taken_without_hole sender .binary 2 0 heedlessEvents
  obtain rfl : after.log = message := sent
  have honest : ¬ after.ledger.Misled after.log := by decide +kernel
  exact ⟨by decide +kernel, ends, honest, start honest⟩

end MessageStream
end Egress
