import Egress.Proofs.Runs

/-!
How a stream fills its buffer. What is written joins the buffer piece by piece, and each time the buffer is full it is
sent; a message that fails meanwhile takes no more. What these three moves keep, a write keeps, and so does whatever
happens to the stream until it is closed.
-/
namespace Egress

/-- What the event writes to the message. -/
def StreamEvent.written : StreamEvent → Bytes
  | .write bytes => bytes
  | _ => []

namespace MessageStream

variable {types : ValueTypes} {σ : Type} [Carrier σ] {stream : MessageStream types σ} {data : Bytes}

omit [Carrier σ] in
/-- There is room in the buffer. -/
def Roomy (stream : MessageStream types σ) : Prop := stream.buffer.size < stream.bufferSize

omit [Carrier σ] in
theorem Roomy.room_pos (roomy : stream.Roomy) : 0 < stream.bufferSize - stream.buffer.size := Nat.sub_pos_of_lt roomy

theorem handOver_keeps (stream : MessageStream types σ) (final : Bool) :
    (stream.handOver final).kind = stream.kind ∧ (stream.handOver final).bufferSize = stream.bufferSize ∧
      (stream.handOver final).buffer = stream.buffer.drained := by
  unfold handOver
  rcases stream.sendNext final with ⟨delivery, sender⟩
  cases delivery with
  | refused =>
    unfold afterDelivery
    dsimp only
    split <;> exact ⟨rfl, rfl, rfl⟩
  | _ => exact ⟨rfl, rfl, rfl⟩

theorem handOver_own (stream : MessageStream types σ) (final : Bool) :
    (stream.handOver final).message = stream.message ∧ (stream.handOver final).ticket = stream.ticket ∧
      (stream.handOver final).closed = stream.closed := by
  unfold handOver
  rcases stream.sendNext final with ⟨delivery, sender⟩
  cases delivery with
  | refused =>
    unfold afterDelivery
    dsimp only
    split <;> exact ⟨rfl, rfl, rfl⟩
  | _ => exact ⟨rfl, rfl, rfl⟩

/-- How far a frame got matters neither to the carrier nor to the ledger. -/
theorem handOver_frames (stream : MessageStream types σ) (final : Bool) :
    (stream.handOver final).sender.carrier = (stream.sendNext final).2.carrier ∧
      (stream.handOver final).sender.ledger = (stream.sendNext final).2.ledger := by
  unfold handOver
  rcases stream.sendNext final with ⟨delivery, sender⟩
  cases delivery with
  | refused =>
    unfold afterDelivery
    dsimp only
    split <;> exact ⟨rfl, rfl⟩
  | _ => exact ⟨rfl, rfl⟩

/-- Sending a fragment makes room. -/
theorem roomy_emit (some : 0 < stream.bufferSize) : (stream.emit false).2.Roomy := by
  obtain ⟨_, size, buffer⟩ := stream.handOver_keeps false
  rw [emit_snd]
  simpa [Roomy, buffer, size] using some

/-- Sending a fragment reports the failure of the message, and nothing else. -/
theorem emit_ok_iff (stream : MessageStream types σ) :
    (stream.emit false).1 = .ok () ↔ (stream.emit false).2.failure = none := by
  rw [emit_snd]
  unfold emit
  dsimp only
  cases (stream.handOver false).failure <;> simp

/-- A write only hands over while the message has not failed. -/
theorem fill_keeps (Inv : MessageStream types σ → Prop)
    (joins : ∀ {stream} (bytes : Bytes), Inv stream → Inv { stream with buffer := stream.buffer.write bytes })
    (sends : ∀ {stream}, Inv stream → stream.failure = none → Inv (stream.handOver false))
    (rounds : Nat) (stream : MessageStream types σ) (data : Bytes) (holds : Inv stream) (unfailed : stream.failure = none) :
    Inv (fill rounds stream data).2 := by
  fun_induction fill rounds stream data with
  | case1 => exact holds
  | case2 => exact holds
  | case3 rounds stream byte bytes data room filled full next emitted ih =>
    have sent : Inv (filled.emit false).2 := filled.emit_snd false ▸ sends (joins _ holds) unfailed
    have reported := filled.emit_ok_iff
    rw [emitted] at sent reported
    exact ih sent (reported.mp rfl)
  | case4 rounds stream byte bytes data room filled full error next emitted =>
    have sent : Inv (filled.emit false).2 := filled.emit_snd false ▸ sends (joins _ holds) unfailed
    rwa [emitted] at sent
  | case5 rounds stream byte bytes data room filled unfilled ih => exact ih (joins _ holds) unfailed

theorem write_keeps (Inv : MessageStream types σ → Prop)
    (joins : ∀ {stream} (bytes : Bytes), Inv stream → Inv { stream with buffer := stream.buffer.write bytes })
    (sends : ∀ {stream}, Inv stream → stream.failure = none → Inv (stream.handOver false))
    {stream : MessageStream types σ} (holds : Inv stream) (data : Bytes) : Inv (stream.write data).2 := by
  unfold write
  split
  · exact holds
  · split
    · exact holds
    · exact fill_keeps Inv joins sends _ _ _ holds ‹_›

theorem closed_handOver (stream : MessageStream types σ) (final : Bool) :
    (stream.handOver final).closed = stream.closed := (stream.handOver_own final).2.2

theorem closed_write (stream : MessageStream types σ) (data : Bytes) : (stream.write data).2.closed = stream.closed :=
  write_keeps (fun after => after.closed = stream.closed) (fun _ same => same)
    (fun {after} same _ => (after.closed_handOver false).trans same) rfl data

theorem closed_flush (stream : MessageStream types σ) : stream.flush.2.closed = stream.closed := by
  unfold flush
  split
  · rfl
  · split
    · rfl
    · rw [emit_snd]
      exact stream.closed_handOver false

/-! ## The end -/

/-- A stream has the sender that its last frame left. -/
theorem sender_handOver_true (stream : MessageStream types σ) :
    (stream.handOver true).sender = (stream.sendNext true).2 := by
  unfold handOver
  rcases stream.sendNext true with ⟨delivery, sender⟩
  cases delivery with
  | refused =>
    unfold afterDelivery
    dsimp only
    rw [if_neg nofun]
  | _ => rfl

theorem sendLast_message (stream : MessageStream types σ) :
    stream.sendLast.message = stream.message ∧ stream.sendLast.closed = stream.closed := by
  unfold sendLast
  split
  · split
    · exact ⟨rfl, rfl⟩
    · rw [emit_snd]
      exact ⟨(stream.handOver_own true).1, (stream.handOver_own true).2.2⟩
  · split
    · rw [emit_snd]
      have kept := ({ stream with buffer := stream.buffer.clear } : MessageStream types σ).handOver_own true
      exact ⟨kept.1, kept.2.2⟩
    · exact ⟨rfl, rfl⟩

theorem closed_close (stream : MessageStream types σ) : stream.close.closed = true := by
  unfold close
  split
  · assumption
  · exact (sendLast_message { stream with closed := true }).2

/-! ## Writing -/

/-- What holds of a stream and the data written to it, whatever a write does. -/
structure Fills (Inv : Bytes → MessageStream types σ → Prop) : Prop where
  joins : ∀ {data stream} (bytes : Bytes), Inv data stream → stream.failure = none →
    Inv (data ++ bytes) { stream with buffer := stream.buffer.write bytes }
  sends : ∀ {data stream}, Inv data stream → Inv data (stream.handOver false)
  stops : ∀ {data stream} (more : Bytes), Inv data stream → stream.failure ≠ none → Inv (data ++ more) stream

namespace Fills

variable {Inv : Bytes → MessageStream types σ → Prop}

theorem emit (fills : Fills Inv) (holds : Inv data stream) : Inv data (stream.emit false).2 := by
  rw [emit_snd]
  exact fills.sends holds

theorem fill (fills : Fills Inv) (rounds : Nat) (stream : MessageStream types σ) (bytes : Bytes) :
    ∀ data, Inv data stream → stream.Roomy → stream.failure = none → bytes.length ≤ rounds →
      Inv (data ++ bytes) (fill rounds stream bytes).2 ∧ (MessageStream.fill rounds stream bytes).2.Roomy := by
  fun_induction MessageStream.fill rounds stream bytes with
  | case1 stream bytes =>
    intro data holds roomy _ enough
    have none : bytes = [] := List.eq_nil_of_length_eq_zero (Nat.le_zero.mp enough)
    simpa [none] using ⟨holds, roomy⟩
  | case2 =>
    intro data holds roomy _ _
    simpa using ⟨holds, roomy⟩
  | case3 rounds stream byte bytes all room filled full next emitted ih =>
    intro data holds roomy unfailed enough
    have joined : Inv (data ++ all.take room) filled := fills.joins _ holds unfailed
    have sent := fills.emit joined
    have emptied := filled.roomy_emit (Nat.zero_lt_of_lt roomy)
    have reported := filled.emit_ok_iff
    rw [emitted] at sent emptied reported
    have fewer : (all.drop room).length ≤ rounds := by
      have := roomy.room_pos
      simp only [List.length_drop, all, room, List.length_cons] at enough ⊢
      omega
    have rest := ih _ sent emptied (reported.mp rfl) fewer
    rwa [List.append_assoc, List.take_append_drop] at rest
  | case4 rounds stream byte bytes all room filled full error next emitted =>
    intro data holds roomy unfailed _
    have joined : Inv (data ++ all.take room) filled := fills.joins _ holds unfailed
    have sent := fills.emit joined
    have emptied := filled.roomy_emit (Nat.zero_lt_of_lt roomy)
    have reported := filled.emit_ok_iff
    rw [emitted] at sent emptied reported
    have stopped := fills.stops (all.drop room) sent fun none => nomatch reported.mpr none
    rw [List.append_assoc, List.take_append_drop] at stopped
    exact ⟨stopped, emptied⟩
  | case5 rounds stream byte bytes all room filled unfilled ih =>
    intro data holds roomy unfailed enough
    have fewer : (all.drop room).length ≤ rounds := by
      have := roomy.room_pos
      simp only [List.length_drop, all, room, List.length_cons] at enough ⊢
      omega
    have rest := ih _ (fills.joins (all.take room) holds unfailed) (Nat.lt_of_not_le unfilled) unfailed fewer
    rwa [List.append_assoc, List.take_append_drop] at rest

theorem write (fills : Fills Inv) (holds : Inv data stream) (roomy : stream.Roomy) (unclosed : stream.closed = false)
    (bytes : Bytes) : Inv (data ++ bytes) (stream.write bytes).2 ∧ (stream.write bytes).2.Roomy := by
  unfold MessageStream.write
  rw [unclosed]
  simp only [Bool.false_eq_true, if_false]
  split
  case h_1 error failed => exact ⟨fills.stops _ holds (by simp [failed]), roomy⟩
  case h_2 unfailed => exact fills.fill _ _ _ _ holds roomy unfailed (Nat.le_refl _)

theorem flush (fills : Fills Inv) (holds : Inv data stream) (roomy : stream.Roomy) (unclosed : stream.closed = false) :
    Inv data stream.flush.2 ∧ stream.flush.2.Roomy := by
  unfold MessageStream.flush
  rw [unclosed]
  simp only [Bool.false_eq_true, if_false]
  split
  · exact ⟨holds, roomy⟩
  · exact ⟨fills.emit holds, stream.roomy_emit (Nat.zero_lt_of_lt roomy)⟩

end Fills

/-- What holds of a stream and the data written to it, whatever happens before it is closed. -/
structure Endures (May : StreamEvent → Prop) (Inv : Bytes → MessageStream types σ → Prop) : Prop extends Fills Inv where
  unclosing : ¬ May .close
  unclosed : ∀ {data stream}, Inv data stream → stream.closed = false
  fails : ∀ {data stream} (error : SendError), Inv data stream → Inv data (stream.fail error)
  attaches : ∀ {data stream} (ticket : Ticket), Inv data stream → Inv data (stream.setTicket ticket)
  elsewhere : ∀ {data stream} {event : Elsewhere}, May (.elsewhere event) → Inv data stream →
    Inv data (stream.after (.elsewhere event))

namespace Endures

variable {May : StreamEvent → Prop} {Inv : Bytes → MessageStream types σ → Prop}

/-- What happens to a message before it is closed adds what is written to what was written. -/
theorem after (endures : Endures May Inv) (holds : Inv data stream) (roomy : stream.Roomy) {event : StreamEvent}
    (may : May event) : Inv (data ++ event.written) (stream.after event) ∧ (stream.after event).Roomy := by
  have silent : ∀ {after : MessageStream types σ}, Inv data after → Inv (data ++ []) after := by
    intro after holds
    rwa [List.append_nil]
  cases event with
  | write bytes => exact endures.write holds roomy (endures.unclosed holds) bytes
  | flush =>
    obtain ⟨flushed, room⟩ := endures.flush holds roomy (endures.unclosed holds)
    exact ⟨silent flushed, room⟩
  | fail error => exact ⟨silent (endures.fails error holds), roomy⟩
  | attach ticket => exact ⟨silent (endures.attaches ticket holds), roomy⟩
  | close => exact absurd may endures.unclosing
  | elsewhere event => exact ⟨silent (endures.elsewhere may holds), roomy⟩

theorem afterAll (endures : Endures May Inv) {events : List StreamEvent} (may : ∀ event ∈ events, May event)
    (holds : Inv data stream) (roomy : stream.Roomy) :
    Inv (data ++ events.flatMap StreamEvent.written) (stream.afterAll events) := by
  induction events generalizing stream data with
  | nil => simpa [MessageStream.afterAll] using holds
  | cons event events ih =>
    obtain ⟨next, room⟩ := endures.after holds roomy (may event List.mem_cons_self)
    have rest := ih (fun later member => may later (List.mem_cons_of_mem _ member)) next room
    rwa [List.append_assoc, ← List.flatMap_cons] at rest

end Endures

/-! ## The beginning -/

omit [Carrier σ] in
theorem start_eq (sender : Sender types σ) (kind : MessageKind) (bufferSize : Nat) :
    start sender kind bufferSize =
      { sender := { sender with
          session.pool := (sender.session.pool.acquire (max bufferSize 1)).2
          ledger := (sender.ledger.beginMessage.2.issue .nobody).2 }
        kind
        buffer := (sender.session.pool.acquire (max bufferSize 1)).1
        bufferSize := max bufferSize 1
        ticket := sender.ledger.slots.size
        message := sender.ledger.failures.size
        framesSent := 0
        rejected := false
        closed := false } := rfl

omit [Carrier σ] in
theorem roomy_start (sender : Sender types σ) (kind : MessageKind) (bufferSize : Nat) :
    (start sender kind bufferSize).Roomy := by
  have empty := congrArg List.length (BufferPool.toBytes_acquire sender.session.pool (max bufferSize 1))
  rw [Buffer.length_toBytes] at empty
  show (sender.session.pool.acquire (max bufferSize 1)).1.size < max bufferSize 1
  rw [empty, List.length_nil]
  omega

end MessageStream
end Egress
