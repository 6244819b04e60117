import Egress.Proofs.MessageReleased

/-!
Putting messages together again. A strict receiver takes in a text or binary frame only when no message has begun, and a
continuation only when one has. What it makes of the frames of a stream is the data that was written to the stream, or a
beginning of it if the message has failed.
-/
namespace Egress

/-- What a receiver has: the messages that are complete, in order, and the one that has begun. -/
structure Inbox where
  complete : List Message
  begun : Option Message
  deriving DecidableEq

namespace Inbox

def empty : Inbox := ⟨[], none⟩

/-- The inbox when the message begun is as given, or complete with that. -/
def put (inbox : Inbox) (message : Message) (final : Bool) : Inbox :=
  if final then ⟨inbox.complete ++ [message], none⟩ else { inbox with begun := some message }

/-- Takes in a frame, if it may come. A control frame may come at any time, if it is whole and short. -/
def read? (inbox : Inbox) (frame : Frame) : Option Inbox :=
  if frame.isData then
    match inbox.begun, frame.opcode.kind? with
    | none, some kind => some (inbox.put ⟨kind, frame.payload⟩ frame.final)
    | some message, none => some (inbox.put { message with content := message.content ++ frame.payload } frame.final)
    | _, _ => none
  else if frame.final ∧ frame.payload.length ≤ Frame.maxControlPayload then some inbox
  else none

/-- Takes in frames, one after the other, if each of them may come. -/
def readAll? (inbox : Inbox) (frames : List Frame) : Option Inbox := frames.foldlM read? inbox

theorem readAll?_concat {inbox between after : Inbox} {frames : List Frame} {frame : Frame}
    (read : inbox.readAll? frames = some between) (next : between.read? frame = some after) :
    inbox.readAll? (frames ++ [frame]) = some after := by
  unfold readAll? at read ⊢
  rw [List.foldlM_append, read]
  simpa using next

theorem read?_first (complete : List Message) (kind : MessageKind) (final : Bool) (payload : Bytes) :
    (⟨complete, none⟩ : Inbox).read? ⟨kind.opcode, final, payload⟩ = some (put ⟨complete, none⟩ ⟨kind, payload⟩ final) := by
  cases kind <;> rfl

theorem read?_continuation (complete : List Message) (message : Message) (final : Bool) (payload : Bytes) :
    (⟨complete, some message⟩ : Inbox).read? ⟨.continuation, final, payload⟩ =
      some (put ⟨complete, some message⟩ { message with content := message.content ++ payload } final) := rfl

theorem read?_control (inbox : Inbox) {frame : Frame} (control : frame.isData = false)
    (short : Monitor.ShortControl frame) : inbox.read? frame = some inbox := by
  have allowed : frame.final = true ∧ frame.payload.length ≤ Frame.maxControlPayload := short
  unfold read?
  rw [if_neg (by simp [control]), if_pos allowed]

end Inbox

/-- What a receiver makes of the frames that were handed over. -/
def Reads (log : List Handover) (inbox : Inbox) : Prop := Inbox.empty.readAll? (log.map Handover.frame) = some inbox

instance (log : List Handover) (inbox : Inbox) : Decidable (Reads log inbox) := inferInstanceAs (Decidable (_ = _))

theorem Reads.concat {log : List Handover} {inbox after : Inbox} (reads : Reads log inbox) {handover : Handover}
    (next : inbox.read? handover.frame = some after) : Reads (log ++ [handover]) after := by
  unfold Reads
  rw [List.map_append]
  exact Inbox.readAll?_concat reads next

/-- No frame was refused. -/
def AllTaken (log : List Handover) : Prop := ∀ handover ∈ log, handover.taken = true

instance (log : List Handover) : Decidable (AllTaken log) :=
  inferInstanceAs (Decidable (∀ handover ∈ log, handover.taken = true))

theorem AllTaken.of_prefix {front log : List Handover} (taken : AllTaken log) (first : front <+: log) : AllTaken front :=
  fun handover member => taken handover (first.subset member)

theorem AllTaken.last {log : List Handover} {handover : Handover} (taken : AllTaken (log ++ [handover])) :
    handover.taken = true := taken handover (List.mem_append_right _ List.mem_cons_self)

namespace MessageStream

variable {types : ValueTypes} {σ : Type} [Carrier σ] {stream : MessageStream types (Logged σ)}

/-- A frame that fits is handed over, and the carrier's answer is noted. -/
theorem Fitting.log_handOver (fitting : stream.Fitting) (final : Bool) :
    (stream.handOver final).sender.log = stream.sender.log ++
      [⟨stream.nextFrame final, stream.sender.ledger.slots.size, stream.sender.batchMode, (stream.answer final).1⟩] := by
  have logged : (stream.answer final).2.log = stream.sender.log ++
      [⟨stream.nextFrame final, stream.sender.ledger.slots.size, stream.sender.batchMode, (stream.answer final).1⟩] :=
    (stream.opened final).log_submit _ _ _
  rw [← logged]
  rcases verdict : (stream.answer final).1 with error | ⟨⟩
  · exact congrArg Logged.log (fitting.handOver_of_refused verdict).2.1
  · rw [fitting.handOver_of_taken verdict]
    show ((stream.answer final).2.afterData _).log = _
    unfold Sender.afterData
    split <;> rfl

/-- A carrier that refuses nothing takes every frame that fits. -/
theorem Fitting.answer_of_taken (fitting : stream.Fitting) {final : Bool} (taken : AllTaken (stream.handOver final).sender.log) :
    (stream.answer final).1 = .ok () := by
  rw [fitting.log_handOver] at taken
  have last := taken.last
  revert last
  unfold Handover.taken
  dsimp only
  rcases (stream.answer final).1 with error | ⟨⟩
  · exact nofun
  · exact fun _ => rfl

omit [Carrier σ] in
/-- What has come of the message when its frames so far hold some bytes. -/
def partly (stream : MessageStream types (Logged σ)) (sent : Bytes) : Option Message :=
  if stream.framesSent = 0 then none else some ⟨stream.kind, sent⟩

omit [Carrier σ] in
/-- A receiver can take in the next frame, which adds what is in the buffer. -/
theorem read?_nextFrame {sent : Bytes} (unbegun : stream.framesSent = 0 → sent = []) (complete : List Message)
    (final : Bool) :
    (⟨complete, stream.partly sent⟩ : Inbox).read? (stream.nextFrame final) =
      some (Inbox.put ⟨complete, stream.partly sent⟩ ⟨stream.kind, sent ++ stream.buffer.toBytes⟩ final) := by
  unfold nextFrame opcode partly
  by_cases first : stream.framesSent = 0
  · rw [if_pos first, if_pos first, unbegun first]
    exact Inbox.read?_first complete stream.kind final _
  · rw [if_neg first, if_neg first]
    exact Inbox.read?_continuation complete ⟨stream.kind, sent⟩ final _

omit [Carrier σ] in
/-- A receiver has some messages and what the frames of the stream hold. With what is in the buffer this is a beginning of
the data, and all of it unless the message has failed. -/
structure Received (complete : List Message) (data : Bytes) (stream : MessageStream types (Logged σ)) (sent : Bytes) :
    Prop where
  reads : Reads stream.sender.log ⟨complete, stream.partly sent⟩
  unbegun : stream.framesSent = 0 → sent = []
  start : sent ++ stream.buffer.toBytes <+: data
  whole : stream.failure = none → sent ++ stream.buffer.toBytes = data

omit [Carrier σ] in
/-- A stream that is not closed and whose frames all fit. What a receiver makes of them has been written. -/
structure Carries (complete : List Message) (data : Bytes) (stream : MessageStream types (Logged σ)) : Prop where
  unclosed : stream.closed = false
  fitting : stream.Fitting
  unrejected : stream.rejected = false
  received : AllTaken stream.sender.log → ∃ sent, stream.Received complete data sent

variable {complete : List Message} {data : Bytes}

omit [Carrier σ] in
theorem carries_start {sender : Sender types (Logged σ)} (unopened : sender.openMessage = none)
    (reads : AllTaken sender.log → Reads sender.log ⟨complete, none⟩) (kind : MessageKind) (bufferSize : Nat)
    (ticket : Ticket) : ((start sender kind bufferSize).setTicket ticket).Carries complete [] := by
  rw [start_eq]
  have empty : (sender.session.pool.acquire (max bufferSize 1)).1.toBytes = [] := BufferPool.toBytes_acquire _ _
  refine ⟨rfl, unopened, rfl, fun taken => ⟨[], reads taken, fun _ => rfl, ?_, fun _ => empty⟩⟩
  show (sender.session.pool.acquire (max bufferSize 1)).1.toBytes <+: []
  exact empty ▸ List.prefix_rfl

omit [Carrier σ] in
/-- What does not touch the frames, the buffer or the guard. -/
theorem Carries.later {after : MessageStream types (Logged σ)} (carries : stream.Carries complete data)
    (more : stream.sender.ledger.Extends after.sender.ledger) (own : after.message = stream.message ∧ after.kind = stream.kind)
    (guard : after.sender.openMessage = stream.sender.openMessage ∧ after.framesSent = stream.framesSent ∧
      after.rejected = stream.rejected ∧ after.closed = stream.closed)
    (log : after.sender.log = stream.sender.log) (buffer : after.buffer = stream.buffer) : after.Carries complete data := by
  obtain ⟨message, kind⟩ := own
  obtain ⟨openMessage, framesSent, rejected, closed⟩ := guard
  refine ⟨closed.trans carries.unclosed, ?_, rejected.trans carries.unrejected, fun taken => ?_⟩
  · rw [Fitting, openMessage, framesSent, kind]
    exact carries.fitting
  · rw [log] at taken
    obtain ⟨sent, received⟩ := carries.received taken
    refine ⟨sent, ?_, ?_, ?_, ?_⟩
    · rw [partly, log, framesSent, kind]
      exact received.reads
    · rw [framesSent]
      exact received.unbegun
    · rw [buffer]
      exact received.start
    · rw [buffer]
      exact fun unfailed => received.whole (failure_none_of_extends more message unfailed)

section Open

variable [LawfulCarrier σ]

theorem extends_elsewhere (stream : MessageStream types (Logged σ)) (event : Elsewhere) :
    stream.sender.ledger.Extends (stream.after (.elsewhere event)).sender.ledger :=
  stream.sender.extends_afterElsewhere event

theorem Carries.elsewhere (carries : stream.Carries complete data) (event : Elsewhere) :
    (stream.after (.elsewhere event)).Carries complete data := by
  have more := stream.extends_elsewhere event
  cases event <;> exact carries.later more ⟨rfl, rfl⟩ ⟨rfl, rfl, rfl, rfl⟩ rfl rfl

/-- A fragment adds what was in the buffer to what has been received. -/
theorem Carries.handOver (carries : stream.Carries complete data) : (stream.handOver false).Carries complete data := by
  obtain ⟨fitting, rejected⟩ := carries.fitting.handOver
  obtain ⟨message, _, closed⟩ := stream.handOver_own false
  refine ⟨closed.trans carries.unclosed, fitting, rejected.trans carries.unrejected, fun taken => ?_⟩
  have more := stream.extends_handOver false
  have accepted := carries.fitting.answer_of_taken taken
  have log := carries.fitting.log_handOver false
  rw [log] at taken
  obtain ⟨sent, received⟩ := carries.received (taken.of_prefix (List.prefix_append _ _))
  obtain ⟨kind, _, buffer⟩ := stream.handOver_keeps false
  have framesSent : (stream.handOver false).framesSent = stream.framesSent + 1 := by
    rw [carries.fitting.handOver_of_taken accepted]
  have emptied : sent ++ stream.buffer.toBytes ++ (stream.handOver false).buffer.toBytes = sent ++ stream.buffer.toBytes := by
    rw [buffer, Buffer.toBytes_drained, List.append_nil]
  refine ⟨sent ++ stream.buffer.toBytes, ?_, ?_, ?_, ?_⟩
  · have next := stream.read?_nextFrame received.unbegun complete false
    rw [log, partly, framesSent, if_neg (Nat.succ_ne_zero _), kind]
    exact received.reads.concat next
  · intro none
    rw [framesSent] at none
    cases none
  · rw [emptied]
    exact received.start
  · rw [emptied]
    exact fun unfailed => received.whole (failure_none_of_extends more message unfailed)

/-- What is received stays the beginning of what is written. -/
theorem endures_carries (complete : List Message) :
    Endures (· ≠ .close) fun data (stream : MessageStream types (Logged σ)) => stream.Carries complete data where
  joins := by
    intro data stream bytes carries unfailed
    refine ⟨carries.unclosed, carries.fitting, carries.unrejected, fun taken => ?_⟩
    obtain ⟨sent, received⟩ := carries.received taken
    have all : sent ++ (stream.buffer.write bytes).toBytes = data ++ bytes := by
      rw [Buffer.toBytes_write, ← List.append_assoc, received.whole unfailed]
    exact ⟨sent, received.reads, received.unbegun, all ▸ List.prefix_rfl, fun _ => all⟩
  sends := Carries.handOver
  stops := by
    intro data stream more carries failed
    refine ⟨carries.unclosed, carries.fitting, carries.unrejected, fun taken => ?_⟩
    obtain ⟨sent, received⟩ := carries.received taken
    exact ⟨sent, received.reads, received.unbegun, received.start.trans (List.prefix_append _ _),
      fun unfailed => absurd unfailed failed⟩
  unclosing closing := closing rfl
  unclosed := Carries.unclosed
  fails error carries :=
    carries.later (Ledger.extends_after _ (.recordFailure _ error)) ⟨rfl, rfl⟩ ⟨rfl, rfl, rfl, rfl⟩ rfl rfl
  attaches _ carries := carries.later (.refl _) ⟨rfl, rfl⟩ ⟨rfl, rfl, rfl, rfl⟩ rfl rfl
  elsewhere _ carries := carries.elsewhere _

end Open

/-! ## The end -/

omit [Carrier σ] in
theorem Received.clear {sent : Bytes} (received : stream.Received complete data sent) (failed : stream.failure ≠ none) :
    Received complete data { stream with buffer := stream.buffer.clear } sent := by
  refine ⟨received.reads, received.unbegun, ?_, fun unfailed => absurd unfailed failed⟩
  show sent ++ stream.buffer.clear.toBytes <+: data
  rw [Buffer.toBytes_clear, List.append_nil]
  exact (List.prefix_append _ _).trans received.start

/-- With the last frame the message is complete. -/
theorem Fitting.reads_handOver (fitting : stream.Fitting)
    (received : AllTaken stream.sender.log → ∃ sent, stream.Received complete data sent)
    (taken : AllTaken (stream.handOver true).sender.log) :
    ∃ sent, stream.Received complete data sent ∧
      Reads (stream.handOver true).sender.log ⟨complete ++ [⟨stream.kind, sent ++ stream.buffer.toBytes⟩], none⟩ := by
  rw [fitting.log_handOver] at taken ⊢
  obtain ⟨sent, before⟩ := received (taken.of_prefix (List.prefix_append _ _))
  exact ⟨sent, before, before.reads.concat (stream.read?_nextFrame before.unbegun complete true)⟩

/-- What becomes of a message when its stream is closed: it is complete if it has not failed, and cut short if it has;
if it has failed before it was begun, there is nothing of it. -/
inductive Closes (complete : List Message) (data : Bytes) (stream : MessageStream types (Logged σ)) (log : List Handover) :
    Prop where
  | whole (unfailed : stream.failure = none) (reads : Reads log ⟨complete ++ [⟨stream.kind, data⟩], none⟩)
  | cut (failed : stream.failure ≠ none) (begun : 0 < stream.framesSent) (content : Bytes) (start : content <+: data)
    (reads : Reads log ⟨complete ++ [⟨stream.kind, content⟩], none⟩)
  | nothing (failed : stream.failure ≠ none) (unbegun : stream.framesSent = 0) (reads : Reads log ⟨complete, none⟩)

theorem Fitting.closes_sendLast (fitting : stream.Fitting) (unrejected : stream.rejected = false)
    (received : AllTaken stream.sender.log → ∃ sent, stream.Received complete data sent)
    (taken : AllTaken stream.sendLast.sender.log) : stream.Closes complete data stream.sendLast.sender.log := by
  cases failed : stream.failure with
  | none =>
    rw [sendLast_of_unfailed failed unrejected] at taken ⊢
    obtain ⟨sent, before, reads⟩ := fitting.reads_handOver received taken
    rw [before.whole failed] at reads
    exact .whole failed reads
  | some error =>
    have some : stream.failure ≠ none := by simp [failed]
    unfold sendLast at taken ⊢
    rw [failed] at taken ⊢
    by_cases begun : stream.rejected = false ∧ 0 < stream.framesSent
    · dsimp only at taken ⊢
      rw [if_pos begun, emit_snd] at taken ⊢
      let cleared : MessageStream types (Logged σ) := { stream with buffer := stream.buffer.clear }
      have still : cleared.Fitting := fitting
      obtain ⟨sent, before, reads⟩ :=
        still.reads_handOver (fun taken => (received taken).imp fun _ before => before.clear some) taken
      exact .cut some begun.2 _ before.start reads
    · dsimp only at taken ⊢
      rw [if_neg begun] at taken ⊢
      -- no frame was taken, so no message was begun
      have unbegun : stream.framesSent = 0 := Nat.eq_zero_of_not_pos fun sent => begun ⟨unrejected, sent⟩
      obtain ⟨sent, before⟩ := received taken
      have reads := before.reads
      rw [partly, if_pos unbegun] at reads
      exact .nothing some unbegun reads

theorem Carries.close (carries : stream.Carries complete data) (taken : AllTaken stream.close.sender.log) :
    stream.Closes complete data stream.close.sender.log := by
  let closing : MessageStream types (Logged σ) := { stream with closed := true }
  have closed : stream.close = closing.sendLast.returnBuffer := by
    unfold MessageStream.close
    rw [if_neg (by simp [carries.unclosed])]
  have fitting : closing.Fitting := carries.fitting
  have received : AllTaken closing.sender.log → ∃ sent, closing.Received complete data sent := by
    intro taken
    obtain ⟨sent, received⟩ := carries.received taken
    exact ⟨sent, received.reads, received.unbegun, received.start, received.whole⟩
  rw [closed] at taken ⊢
  rcases fitting.closes_sendLast carries.unrejected received taken with
    ⟨unfailed, reads⟩ | ⟨failed, begun, content, start, reads⟩ | ⟨failed, unbegun, reads⟩
  · exact .whole unfailed reads
  · exact .cut failed begun content start reads
  · exact .nothing failed unbegun reads

end MessageStream
end Egress
