import Egress.Proofs.WillingCarrier

/-!
Where a message is cut. Over a carrier that takes everything, the frames of a stream that is never flushed are determined by
the data alone: a frame for each full block of the buffer's size, and a last frame with the rest. It does not matter in what
pieces the data was written. A flush cuts the data where it comes, but sends no frame without data.
-/
namespace Egress

namespace MessageKind

/-- The opcode of a frame of a message, by the number of frames before it. -/
def opcodeAt (kind : MessageKind) (n : Nat) : Opcode := if n = 0 then kind.opcode else .continuation

/-- The blocks of a given size that some data begins with, in a frame each, and the rest in a last frame. -/
def cut (kind : MessageKind) (size : Nat) (data : Bytes) : List Frame :=
  (List.range (data.length / size)).map (fun n => ⟨kind.opcodeAt n, false, (data.drop (n * size)).take size⟩) ++
    [⟨kind.opcodeAt (data.length / size), true, data.drop (data.length / size * size)⟩]

/-- One message with the data, in frames of at most the size. Only the last frame may be empty. -/
structure Chunks (kind : MessageKind) (size : Nat) (data : Bytes) (frames : List Frame) : Prop where
  whole : kind.Whole frames
  content : frames.flatMap Frame.payload = data
  bounded : ∀ frame ∈ frames, frame.payload.length ≤ size
  nonempty : ∀ frame ∈ frames, frame.final = false → frame.payload ≠ []

end MessageKind

namespace Bytes

variable {size : Nat} {data rest : Bytes} {pieces : List Bytes}

/-- What a frame before the last is to hold is a full block. -/
theorem length_block {n : Nat} (inside : n < data.length / size) : ((data.drop (n * size)).take size).length = size := by
  have full : (n + 1) * size ≤ data.length :=
    Nat.le_trans (Nat.mul_le_mul_right size inside) (Nat.div_mul_le_self data.length size)
  rw [List.length_take, List.length_drop, Nat.min_eq_left]
  rw [Nat.succ_mul] at full
  omega

theorem length_rest (data : Bytes) (size : Nat) : (data.drop (data.length / size * size)).length = data.length % size := by
  have split := Nat.div_add_mod' data.length size
  rw [List.length_drop]
  omega

/-- Pieces of one size are the blocks of what they come to. -/
theorem block_flatten (even : ∀ piece ∈ pieces, piece.length = size) {n : Nat} (inside : n < pieces.length) :
    ((pieces.flatten ++ rest).drop (n * size)).take size = pieces[n] := by
  induction pieces generalizing n with
  | nil => exact absurd inside (Nat.not_lt_zero n)
  | cons piece pieces ih =>
    have long : piece.length = size := even piece List.mem_cons_self
    rw [List.flatten_cons, List.append_assoc]
    cases n with
    | zero =>
      rw [Nat.zero_mul, List.drop_zero, List.take_left' long]
      rfl
    | succ n =>
      rw [Nat.succ_mul, Nat.add_comm, ← List.drop_drop, List.drop_left' long]
      exact ih (fun later member => even later (List.mem_cons_of_mem _ member)) (Nat.lt_of_succ_lt_succ inside)

theorem length_flatten_even (even : ∀ piece ∈ pieces, piece.length = size) : pieces.flatten.length = pieces.length * size := by
  induction pieces with
  | nil => simp
  | cons piece pieces ih =>
    rw [List.flatten_cons, List.length_append, even piece List.mem_cons_self, List.length_cons, Nat.succ_mul,
      ih fun later member => even later (List.mem_cons_of_mem _ member), Nat.add_comm]

/-- There are as many full blocks as pieces, if less than a block is left. -/
theorem div_length_flatten (even : ∀ piece ∈ pieces, piece.length = size) (short : rest.length < size) :
    (pieces.flatten ++ rest).length / size = pieces.length := by
  rw [List.length_append, length_flatten_even even, Nat.mul_comm, Nat.mul_add_div (Nat.zero_lt_of_lt short),
    Nat.div_eq_of_lt short, Nat.add_zero]

end Bytes

namespace MessageKind

variable {kind : MessageKind} {size : Nat} {frames : List Frame} {rest : Bytes}

/-- Frames in sequence that are all full, and a shorter last one, are what their data is cut into. -/
theorem Sequence.eq_cut (sequence : kind.Sequence frames) (unended : ∀ frame ∈ frames, frame.final = false)
    (even : ∀ frame ∈ frames, frame.payload.length = size) (short : rest.length < size) :
    frames ++ [⟨kind.opcodeAt frames.length, true, rest⟩] = kind.cut size (frames.flatMap Frame.payload ++ rest) := by
  have pieces : ∀ piece ∈ frames.map Frame.payload, piece.length = size := by
    intro piece member
    obtain ⟨frame, inside, rfl⟩ := List.mem_map.mp member
    exact even frame inside
  have count : (frames.flatMap Frame.payload ++ rest).length / size = frames.length := by
    rw [List.flatMap_def, Bytes.div_length_flatten pieces short, List.length_map]
  have left : (frames.flatMap Frame.payload ++ rest).drop (frames.length * size) = rest := by
    refine List.drop_left' ?_
    rw [List.flatMap_def, Bytes.length_flatten_even pieces, List.length_map]
  unfold cut
  rw [count, left]
  congr 1
  refine List.ext_getElem (by simp) fun n inside _ => ?_
  have known : frames[n]? = some frames[n] := List.getElem?_eq_getElem inside
  have within : n < (frames.map Frame.payload).length := by simpa using inside
  have block : (((frames.map Frame.payload).flatten ++ rest).drop (n * size)).take size = (frames.map Frame.payload)[n] :=
    Bytes.block_flatten pieces within
  rw [← List.flatMap_def, List.getElem_map] at block
  rw [List.getElem_map, List.getElem_range, block]
  have opcode : frames[n].opcode = kind.opcodeAt n := sequence n frames[n] known
  have final : frames[n].final = false := unended frames[n] (List.getElem_mem inside)
  rw [← opcode, ← final]

theorem flatten_blocks (data : Bytes) (size count : Nat) :
    (List.range count).flatMap (fun n => (data.drop (n * size)).take size) = data.take (count * size) := by
  induction count with
  | zero => simp
  | succ count ih => rw [List.range_succ, List.flatMap_append, ih, List.flatMap_singleton, Nat.succ_mul, List.take_add]

/-- What some data is cut into is one message with the data, and its last frame is short. -/
theorem chunks_cut (kind : MessageKind) (data : Bytes) (some : 0 < size) : kind.Chunks size data (kind.cut size data) := by
  let front : List Frame :=
    (List.range (data.length / size)).map fun n => ⟨kind.opcodeAt n, false, (data.drop (n * size)).take size⟩
  let last : Frame := ⟨kind.opcodeAt (data.length / size), true, data.drop (data.length / size * size)⟩
  have same : kind.cut size data = front ++ [last] := rfl
  have full : ∀ frame ∈ front, frame.final = false ∧ frame.payload.length = size := by
    intro frame member
    obtain ⟨n, inside, rfl⟩ := List.mem_map.mp member
    exact ⟨rfl, Bytes.length_block (List.mem_range.mp inside)⟩
  have count : front.length = data.length / size := by simp [front]
  rw [same]
  refine ⟨⟨?_, front, last, rfl, rfl, fun frame member => (full frame member).1⟩, ?_, ?_, ?_⟩
  · refine Sequence.append (fun n frame there => ?_) (by rw [count]; rfl)
    obtain ⟨inside, rfl⟩ := List.getElem?_eq_some_iff.mp there
    simp [front, opcodeAt]
  · rw [List.flatMap_append, List.flatMap_map, flatten_blocks, List.flatMap_singleton, List.take_append_drop]
  · intro frame member
    rcases List.mem_append.mp member with early | late
    · exact Nat.le_of_eq (full frame early).2
    · cases List.mem_singleton.mp late
      rw [Bytes.length_rest]
      exact Nat.le_of_lt (Nat.mod_lt _ some)
  · intro frame member unended
    rcases List.mem_append.mp member with early | late
    · exact List.ne_nil_of_length_pos ((full frame early).2 ▸ some)
    · cases List.mem_singleton.mp late
      cases unended

end MessageKind

/-- What an application does to a stream when it only writes and flushes. Meanwhile the carrier may work. -/
def StreamEvent.Feeds : StreamEvent → Prop
  | .write _ | .flush => True
  | .elsewhere event => event = .work
  | _ => False

namespace MessageStream

variable {types : ValueTypes} {σ : Type} [Carrier σ] {Well : σ → Prop} {stream : MessageStream types (Logged σ)}

/-! ## A stream that does not fail -/

/-- A stream that goes on over a willing carrier. -/
structure Ready (Well : σ → Prop) (stream : MessageStream types (Logged σ)) : Prop where
  unclosed : stream.closed = false
  unrejected : stream.rejected = false
  fitting : stream.Fitting
  well : Well stream.sender.carrier.carrier
  quiet : stream.sender.ledger.Quiet stream.message

omit [Carrier σ] in
theorem Ready.unfailed (ready : stream.Ready Well) : stream.failure = none := ready.quiet.unfailed

theorem taken_of_willing (willing : Carrier.Willing Well) (well : Well stream.sender.carrier.carrier) (final : Bool) :
    (stream.answer final).1 = .ok () :=
  willing.logged.accepts stream.sender.carrier well (stream.opened final).ledger (stream.nextFrame final)
    stream.sender.ledger.slots.size stream.sender.batchMode

theorem Ready.taken (ready : stream.Ready Well) (willing : Carrier.Willing Well) (final : Bool) :
    (stream.answer final).1 = .ok () := taken_of_willing willing ready.well final

/-- A frame before the last is taken, and the stream goes on. -/
theorem Ready.handOver (ready : stream.Ready Well) (willing : Carrier.Willing Well) : (stream.handOver false).Ready Well := by
  obtain ⟨fitting, rejected⟩ := ready.fitting.handOver
  obtain ⟨message, _, closed⟩ := stream.handOver_own false
  obtain ⟨well, completions, after, successes⟩ := willing.logged.sendFrame stream.sender.carrier ready.well
    (stream.opened false).ledger (stream.nextFrame false) stream.sender.ledger.slots.size stream.sender.batchMode
  have handed := ready.fitting.handOver_of_taken (ready.taken willing false)
  refine ⟨closed.trans ready.unclosed, rejected.trans ready.unrejected, fitting, ?_, ?_⟩
  · rw [handed]
    exact well
  · rw [message, handed]
    show (stream.answer false).2.ledger.Quiet stream.message
    have ledger : (stream.answer false).2.ledger = (stream.opened false).ledger.completeEach completions := after
    have issued : (stream.opened false).ledger.Quiet stream.message := ready.quiet.issue rfl
    rw [ledger]
    exact issued.completeEach successes

theorem Ready.letWork (ready : stream.Ready Well) (willing : Carrier.Willing Well) : stream.letWork.Ready Well := by
  obtain ⟨well, completions, after, successes⟩ := willing.logged.work stream.sender.carrier ready.well stream.sender.ledger
  have ledger : stream.letWork.sender.ledger = stream.sender.ledger.completeEach completions := after
  refine ⟨ready.unclosed, ready.unrejected, ready.fitting, well, ?_⟩
  rw [ledger]
  exact ready.quiet.completeEach successes

omit [Carrier σ] in
theorem ready_start {sender : Sender types (Logged σ)} (well : Well sender.carrier.carrier) (told : sender.ledger.Told)
    (unheard : sender.ledger.Unheard sender.ledger.failures.size) (unopened : sender.openMessage = none)
    (kind : MessageKind) (bufferSize : Nat) (ticket : Ticket) :
    ((start sender kind bufferSize).setTicket ticket).Ready Well := by
  rw [start_eq]
  exact ⟨rfl, rfl, unopened, well, (Ledger.quiet_beginMessage told unheard).issue rfl⟩

/-! ## What it sends -/

omit [Carrier σ] in
/-- The frames sent since a moment before, each of an allowed length, hold together with the buffer what was written. -/
structure Portions (before : Sender types (Logged σ)) (kind : MessageKind) (size : Nat) (Allowed : Nat → Prop) (data : Bytes)
    (stream : MessageStream types (Logged σ)) (message : List Handover) : Prop where
  sort : stream.kind = kind
  limit : stream.bufferSize = size
  log : stream.sender.log = before.log ++ message
  sent : stream.framesSent = message.length
  taken : AllTaken message
  opcodes : kind.Sequence (message.map Handover.frame)
  unended : ∀ handover ∈ message, handover.frame.final = false
  lengths : ∀ handover ∈ message, Allowed handover.frame.payload.length
  content : message.flatMap (·.frame.payload) ++ stream.buffer.toBytes = data

omit [Carrier σ] in
/-- A stream that goes on, and has sent or holds what was written. -/
structure Feeding (Well : σ → Prop) (before : Sender types (Logged σ)) (kind : MessageKind) (size : Nat)
    (Allowed : Nat → Prop) (data : Bytes) (stream : MessageStream types (Logged σ)) : Prop where
  ready : stream.Ready Well
  portions : ∃ message, stream.Portions before kind size Allowed data message

variable {before : Sender types (Logged σ)} {kind : MessageKind} {size : Nat} {Allowed : Nat → Prop} {data : Bytes}

omit [Carrier σ] in
theorem Feeding.limit (feeding : stream.Feeding Well before kind size Allowed data) : stream.bufferSize = size := by
  obtain ⟨message, portions⟩ := feeding.portions
  exact portions.limit

omit [Carrier σ] in
theorem Feeding.filled (feeding : stream.Feeding Well before kind size Allowed data) (bytes : Bytes) :
    ({ stream with buffer := stream.buffer.write bytes } : MessageStream types (Logged σ)).Feeding Well before kind size Allowed
      (data ++ bytes) := by
  obtain ⟨ready, message, portions⟩ := feeding
  refine ⟨⟨ready.unclosed, ready.unrejected, ready.fitting, ready.well, ready.quiet⟩, message, { portions with content := ?_ }⟩
  rw [Buffer.toBytes_write, ← List.append_assoc, portions.content]

/-- The next frame, as it is handed over and taken. -/
def handed (stream : MessageStream types (Logged σ)) (final : Bool) : Handover :=
  ⟨stream.nextFrame final, stream.sender.ledger.slots.size, stream.sender.batchMode, (stream.answer final).1⟩

theorem Portions.opcodes_handOver {message : List Handover} (portions : stream.Portions before kind size Allowed data message)
    (final : Bool) : kind.Sequence ((message ++ [stream.handed final]).map Handover.frame) := by
  rw [List.map_append]
  refine portions.opcodes.append ?_
  show stream.opcode = _
  rw [opcode, List.length_map, ← portions.sent, portions.sort]

/-- A frame that is taken is one more. -/
theorem allTaken_handed {message : List Handover} (all : AllTaken message) {final : Bool}
    (taken : (stream.answer final).1 = .ok ()) : AllTaken (message ++ [stream.handed final]) := by
  intro handover member
  rcases List.mem_append.mp member with early | late
  · exact all handover early
  · cases List.mem_singleton.mp late
    unfold Handover.taken handed
    rw [taken]

theorem Portions.log_handOver {message : List Handover} (portions : stream.Portions before kind size Allowed data message)
    (fitting : stream.Fitting) (final : Bool) :
    (stream.handOver final).sender.log = before.log ++ (message ++ [stream.handed final]) := by
  rw [fitting.log_handOver, portions.log, List.append_assoc]
  rfl

/-- A frame before the last, if its length is allowed. -/
theorem Feeding.handOver (feeding : stream.Feeding Well before kind size Allowed data) (willing : Carrier.Willing Well)
    (allowed : Allowed stream.buffer.size) : (stream.handOver false).Feeding Well before kind size Allowed data := by
  obtain ⟨ready, message, portions⟩ := feeding
  have taken := ready.taken willing false
  obtain ⟨same, limit, buffer⟩ := stream.handOver_keeps false
  refine ⟨ready.handOver willing, message ++ [stream.handed false], ?_⟩
  refine ⟨same.trans portions.sort, limit.trans portions.limit, portions.log_handOver ready.fitting false, ?_,
    allTaken_handed portions.taken taken, portions.opcodes_handOver false, ?_, ?_, ?_⟩
  · rw [ready.fitting.handOver_of_taken taken]
    simp [portions.sent]
  · intro handover member
    rcases List.mem_append.mp member with early | late
    · exact portions.unended handover early
    · cases List.mem_singleton.mp late
      rfl
  · intro handover member
    rcases List.mem_append.mp member with early | late
    · exact portions.lengths handover early
    · cases List.mem_singleton.mp late
      rw [← stream.buffer.length_toBytes] at allowed
      exact allowed
  · rw [buffer, Buffer.toBytes_drained, List.append_nil, List.flatMap_append, List.flatMap_singleton]
    exact portions.content

omit [Carrier σ] in
/-- Every round of a write takes in a byte, since there is room. -/
theorem Roomy.length_drop_le (roomy : stream.Roomy) {byte : UInt8} {bytes : Bytes} {rounds : Nat}
    (enough : (byte :: bytes).length ≤ rounds + 1) :
    ((byte :: bytes).drop (stream.bufferSize - stream.buffer.size)).length ≤ rounds := by
  have some := roomy.room_pos
  rw [List.length_drop]
  omega

omit [Carrier σ] in
/-- No more is taken in than there is room for. -/
theorem Roomy.size_of_full (roomy : stream.Roomy) {bytes : Bytes}
    (full : stream.bufferSize ≤ (stream.buffer.write (bytes.take (stream.bufferSize - stream.buffer.size))).size) :
    (stream.buffer.write (bytes.take (stream.bufferSize - stream.buffer.size))).size = stream.bufferSize := by
  have roomy : stream.buffer.size < stream.bufferSize := roomy
  have most := List.length_take_le (stream.bufferSize - stream.buffer.size) bytes
  rw [Buffer.size_write] at full ⊢
  omega

/-- A write sends full buffers only. -/
theorem Feeding.fill (willing : Carrier.Willing Well) (full : Allowed size) (rounds : Nat)
    (stream : MessageStream types (Logged σ)) (bytes : Bytes) :
    ∀ data, stream.Feeding Well before kind size Allowed data → stream.Roomy → bytes.length ≤ rounds →
      (fill rounds stream bytes).1 = .ok () ∧
      (fill rounds stream bytes).2.Feeding Well before kind size Allowed (data ++ bytes) ∧ (fill rounds stream bytes).2.Roomy := by
  have emits : ∀ filled : MessageStream types (Logged σ), ∀ data, filled.Feeding Well before kind size Allowed data →
      filled.buffer.size = filled.bufferSize → 0 < filled.bufferSize →
      (filled.emit false).1 = .ok () ∧ (filled.emit false).2.Feeding Well before kind size Allowed data ∧
        (filled.emit false).2.Roomy := by
    intro filled data feeding exactly some
    have sent := feeding.handOver willing (by rw [exactly, feeding.limit]; exact full)
    rw [emit_ok_iff, emit_snd]
    exact ⟨sent.ready.unfailed, sent, filled.emit_snd false ▸ filled.roomy_emit some⟩
  fun_induction MessageStream.fill rounds stream bytes with
  | case1 stream bytes =>
    intro data feeding roomy enough
    have none : bytes = [] := List.eq_nil_of_length_eq_zero (Nat.le_zero.mp enough)
    rw [none, List.append_nil]
    exact ⟨rfl, feeding, roomy⟩
  | case2 =>
    intro data feeding roomy _
    rw [List.append_nil]
    exact ⟨rfl, feeding, roomy⟩
  | case3 rounds stream byte bytes all room filled isFull next emitted ih =>
    intro data feeding roomy enough
    obtain ⟨_, sent, emptied⟩ := emits filled _ (feeding.filled (all.take room)) (roomy.size_of_full isFull)
      (Nat.zero_lt_of_lt roomy)
    rw [emitted] at sent emptied
    obtain ⟨answered, fed, again⟩ := ih _ sent emptied (roomy.length_drop_le enough)
    rw [List.append_assoc, List.take_append_drop] at fed
    exact ⟨answered, fed, again⟩
  | case4 rounds stream byte bytes all room filled isFull error next emitted =>
    intro data feeding roomy enough
    obtain ⟨taken, _⟩ := emits filled _ (feeding.filled (all.take room)) (roomy.size_of_full isFull)
      (Nat.zero_lt_of_lt roomy)
    rw [emitted] at taken
    cases taken
  | case5 rounds stream byte bytes all room filled unfilled ih =>
    intro data feeding roomy enough
    obtain ⟨answered, fed, again⟩ := ih _ (feeding.filled (all.take room)) (Nat.lt_of_not_le unfilled)
      (roomy.length_drop_le enough)
    rw [List.append_assoc, List.take_append_drop] at fed
    exact ⟨answered, fed, again⟩

theorem Feeding.write (feeding : stream.Feeding Well before kind size Allowed data) (roomy : stream.Roomy)
    (willing : Carrier.Willing Well) (full : Allowed size) (bytes : Bytes) :
    (stream.write bytes).1 = .ok () ∧ (stream.write bytes).2.Feeding Well before kind size Allowed (data ++ bytes) ∧
      (stream.write bytes).2.Roomy := by
  have unfailed := feeding.ready.unfailed
  unfold MessageStream.write
  rw [feeding.ready.unclosed, if_neg nofun, unfailed]
  exact feeding.fill willing full bytes.length stream bytes data roomy (Nat.le_refl _)

/-- A flush sends the buffer unless it is empty. -/
theorem Feeding.flush (feeding : stream.Feeding Well before kind size Allowed data) (roomy : stream.Roomy)
    (willing : Carrier.Willing Well) (partly : ∀ n, 0 < n → n < size → Allowed n) :
    stream.flush.1 = .ok () ∧ stream.flush.2.Feeding Well before kind size Allowed data ∧ stream.flush.2.Roomy := by
  unfold MessageStream.flush
  rw [feeding.ready.unclosed, if_neg nofun]
  by_cases empty : stream.buffer.isEmpty
  · rw [if_pos empty]
    exact ⟨rfl, feeding, roomy⟩
  · rw [if_neg empty]
    have some : 0 < stream.buffer.size := Array.size_pos_iff.mpr fun none => empty (by simp [Buffer.isEmpty, none])
    have sent := feeding.handOver willing (partly _ some (feeding.limit ▸ roomy))
    rw [emit_ok_iff, emit_snd]
    exact ⟨sent.ready.unfailed, sent, stream.emit_snd false ▸ stream.roomy_emit (Nat.zero_lt_of_lt roomy)⟩

theorem Feeding.after (feeding : stream.Feeding Well before kind size Allowed data) (roomy : stream.Roomy)
    (willing : Carrier.Willing Well) (full : Allowed size) {event : StreamEvent} (feeds : event.Feeds)
    (flushes : event = .flush → ∀ n, 0 < n → n < size → Allowed n) :
    (stream.after event).Feeding Well before kind size Allowed (data ++ event.written) ∧ (stream.after event).Roomy := by
  cases event with
  | write bytes =>
    obtain ⟨_, written, room⟩ := feeding.write roomy willing full bytes
    exact ⟨written, room⟩
  | flush =>
    obtain ⟨_, flushed, room⟩ := feeding.flush roomy willing (flushes rfl)
    rw [show StreamEvent.written .flush = [] from rfl, List.append_nil]
    exact ⟨flushed, room⟩
  | elsewhere event =>
    obtain rfl : event = .work := feeds
    rw [show StreamEvent.written (.elsewhere .work) = [] from rfl, List.append_nil]
    obtain ⟨ready, message, portions⟩ := feeding
    exact ⟨⟨ready.letWork willing, message, portions.sort, portions.limit, portions.log, portions.sent, portions.taken,
      portions.opcodes, portions.unended, portions.lengths, portions.content⟩, roomy⟩
  | fail error => exact feeds.elim
  | attach ticket => exact feeds.elim
  | close => exact feeds.elim

theorem Feeding.afterAll (feeding : stream.Feeding Well before kind size Allowed data) (roomy : stream.Roomy)
    (willing : Carrier.Willing Well) (full : Allowed size) {events : List StreamEvent} (feeds : ∀ event ∈ events, event.Feeds)
    (flushes : .flush ∈ events → ∀ n, 0 < n → n < size → Allowed n) :
    (stream.afterAll events).Feeding Well before kind size Allowed (data ++ events.flatMap StreamEvent.written) ∧
      (stream.afterAll events).Roomy := by
  induction events generalizing stream data with
  | nil =>
    rw [List.flatMap_nil, List.append_nil]
    exact ⟨feeding, roomy⟩
  | cons event events ih =>
    obtain ⟨next, room⟩ := feeding.after roomy willing full (feeds event List.mem_cons_self)
      fun same => flushes (same ▸ List.mem_cons_self)
    have rest := ih next room (fun later member => feeds later (List.mem_cons_of_mem _ member))
      fun member => flushes (List.mem_cons_of_mem _ member)
    rwa [List.append_assoc, ← List.flatMap_cons] at rest

omit [Carrier σ] in
theorem feeding_start {sender : Sender types (Logged σ)} (well : Well sender.carrier.carrier) (told : sender.ledger.Told)
    (unheard : sender.ledger.Unheard sender.ledger.failures.size) (unopened : sender.openMessage = none)
    (kind : MessageKind) (bufferSize : Nat) (ticket : Ticket) (Allowed : Nat → Prop) :
    ((start sender kind bufferSize).setTicket ticket).Feeding Well sender kind (max bufferSize 1) Allowed [] := by
  have empty : (sender.session.pool.acquire (max bufferSize 1)).1.toBytes = [] := BufferPool.toBytes_acquire _ _
  refine ⟨ready_start well told unheard unopened kind bufferSize ticket, [], ?_⟩
  rw [start_eq]
  exact ⟨rfl, rfl, (List.append_nil sender.log).symm, rfl, List.forall_mem_nil _, by simp [MessageKind.Sequence],
    List.forall_mem_nil _, List.forall_mem_nil _, empty⟩

/-! ## The end -/

/-- A stream that goes on is closed with its last frame. -/
theorem Ready.close_eq (ready : stream.Ready Well) :
    stream.close = (({ stream with closed := true } : MessageStream types (Logged σ)).handOver true).returnBuffer := by
  let closing : MessageStream types (Logged σ) := { stream with closed := true }
  show _ = (closing.handOver true).returnBuffer
  rw [← closing.sendLast_of_unfailed ready.unfailed ready.unrejected]
  unfold MessageStream.close
  rw [ready.unclosed, if_neg nofun]

/-- With the last frame, which is taken too, the stream has sent all that it held. -/
theorem Feeding.close (feeding : stream.Feeding Well before kind size Allowed data) (willing : Carrier.Willing Well) :
    stream.close.closed = true ∧ ∃ message, stream.Portions before kind size Allowed data message ∧
      stream.finish.log = before.log ++ (message ++ [stream.handed true]) ∧ AllTaken (message ++ [stream.handed true]) ∧
      stream.close.framesSent = message.length + 1 := by
  obtain ⟨ready, message, portions⟩ := feeding
  let closing : MessageStream types (Logged σ) := { stream with closed := true }
  have same : stream.close = (closing.handOver true).returnBuffer := ready.close_eq
  have taken := ready.taken willing true
  have fitting : closing.Fitting := ready.fitting
  have handed := fitting.handOver_of_taken (show (closing.answer true).1 = .ok () from taken)
  refine ⟨?_, message, portions, ?_, allTaken_handed portions.taken taken, ?_⟩
  · rw [same, handed]
    rfl
  · have log := fitting.log_handOver true
    rw [finish, same]
    show (closing.handOver true).sender.log = _
    rw [log, show closing.sender.log = before.log ++ message from portions.log, List.append_assoc]
    rfl
  · rw [same, handed]
    show closing.framesSent + 1 = _
    rw [show closing.framesSent = message.length from portions.sent]

theorem Portions.map_frame {message : List Handover} (portions : stream.Portions before kind size Allowed data message) :
    (message ++ [stream.handed true]).map Handover.frame =
      message.map Handover.frame ++ [⟨kind.opcodeAt (message.map Handover.frame).length, true, stream.buffer.toBytes⟩] := by
  rw [List.map_append, List.length_map]
  show message.map Handover.frame ++ [⟨stream.opcode, true, stream.buffer.toBytes⟩] = _
  rw [opcode, portions.sent, portions.sort]
  rfl

/-- Full frames and the rest are what the data is cut into. -/
theorem Portions.eq_cut {message : List Handover} (portions : stream.Portions before kind size (· = size) data message)
    (roomy : stream.Roomy) : (message ++ [stream.handed true]).map Handover.frame = kind.cut size data := by
  have short : stream.buffer.toBytes.length < size := by
    rw [Buffer.length_toBytes, ← portions.limit]
    exact roomy
  have sequence : kind.Sequence (message.map Handover.frame) := portions.opcodes
  rw [portions.map_frame, sequence.eq_cut (List.forall_mem_map.mpr portions.unended) (List.forall_mem_map.mpr portions.lengths)
    short, List.flatMap_map, portions.content]

/-- Whatever their lengths, they are a message with the data. -/
theorem Portions.chunks {message : List Handover}
    (portions : stream.Portions before kind size (fun n => 0 < n ∧ n ≤ size) data message) (roomy : stream.Roomy) :
    kind.Chunks size data ((message ++ [stream.handed true]).map Handover.frame) := by
  have short : stream.buffer.toBytes.length ≤ size := by
    rw [Buffer.length_toBytes, ← portions.limit]
    exact Nat.le_of_lt roomy
  refine ⟨⟨portions.opcodes_handOver true, _, _, portions.map_frame, rfl, List.forall_mem_map.mpr portions.unended⟩, ?_, ?_, ?_⟩
  · rw [portions.map_frame, List.flatMap_append, List.flatMap_map, List.flatMap_singleton]
    exact portions.content
  · intro frame member
    rw [portions.map_frame] at member
    rcases List.mem_append.mp member with early | late
    · obtain ⟨handover, inside, rfl⟩ := List.mem_map.mp early
      exact (portions.lengths handover inside).2
    · cases List.mem_singleton.mp late
      exact short
  · intro frame member unended
    rw [portions.map_frame] at member
    rcases List.mem_append.mp member with early | late
    · obtain ⟨handover, inside, rfl⟩ := List.mem_map.mp early
      exact List.ne_nil_of_length_pos (portions.lengths handover inside).1
    · cases List.mem_singleton.mp late
      cases unended

/-- A stream that is closed refuses writes and flushes, and does nothing more. -/
structure Over (stream : MessageStream types (Logged σ)) : Prop where
  write : ∀ bytes, stream.write bytes = (.error closedError, stream)
  flush : stream.flush = (.error closedError, stream)
  close : stream.close = stream
  finish : stream.finish = stream.sender

theorem over_of_closed (closed : stream.closed = true) : stream.Over := by
  have same : stream.close = stream := by
    unfold MessageStream.close
    rw [if_pos closed]
  refine ⟨fun bytes => ?_, ?_, same, congrArg sender same⟩
  · unfold MessageStream.write
    rw [if_pos closed]
  · unfold MessageStream.flush
    rw [if_pos closed]

theorem framesSent_of_closed (closed : stream.closed = true) (event : StreamEvent) :
    (stream.after event).framesSent = stream.framesSent := by
  have ended := over_of_closed closed
  cases event with
  | write bytes => exact congrArg (fun answer => answer.2.framesSent) (ended.write bytes)
  | flush => exact congrArg (fun answer => answer.2.framesSent) ended.flush
  | close => exact congrArg framesSent ended.close
  | elsewhere event => cases event <;> rfl
  | _ => rfl

/-- Whatever happens to a stream after it has been closed, no frame is handed over. -/
theorem afterAll_of_closed (closed : stream.closed = true) (late : List StreamEvent) :
    (stream.afterAll late).closed = true ∧ (stream.afterAll late).sender.log = stream.sender.log ∧
      (stream.afterAll late).framesSent = stream.framesSent := by
  induction late generalizing stream with
  | nil => exact ⟨closed, rfl, rfl⟩
  | cons event late ih =>
    obtain ⟨still, _, log⟩ := stream.after_of_closed closed event
    obtain ⟨last, logs, frames⟩ := ih still
    exact ⟨last, logs.trans log, frames.trans (framesSent_of_closed closed event)⟩

/-- Canonical chunks. A stream is opened while no message is open, over a carrier that takes every frame and reports no
failure. All writes and flushes succeed, and as many frames are handed over as the stream counts. If the stream is not
flushed, its frames are the full blocks of the data and the rest, in whatever pieces it was written; if it is, they still
have the data, and none but the last is empty. Once the stream is closed, it takes and does nothing more. -/
theorem canonical_chunks (willing : Carrier.Willing Well) {sender : Sender types (Logged σ)}
    (well : Well sender.carrier.carrier) (reached : sender.ledger.Reached)
    (unheard : sender.ledger.Unheard sender.ledger.failures.size) (unopened : sender.openMessage = none)
    (kind : MessageKind) (bufferSize : Nat) (ticket : Ticket) {events : List StreamEvent}
    (feeds : ∀ event ∈ events, event.Feeds) :
    let size := max bufferSize 1
    let data := events.flatMap StreamEvent.written
    let stream := ((start sender kind bufferSize).setTicket ticket).afterAll events
    (∀ bytes, (stream.write bytes).1 = .ok ()) ∧ stream.flush.1 = .ok () ∧
    stream.sender.log.length = sender.log.length + stream.framesSent ∧
    ∃ message, stream.finish.log = sender.log ++ message ∧ AllTaken message ∧
      (.flush ∉ events → message.map Handover.frame = kind.cut size data) ∧
      kind.Chunks size data (message.map Handover.frame) ∧
      ∀ late : List StreamEvent,
        let closed := stream.close.afterAll late
        closed.sender.log = sender.log ++ message ∧ closed.framesSent = message.length ∧ closed.Over := by
  intro size data stream
  have some : 0 < size := Nat.lt_of_lt_of_le Nat.zero_lt_one (Nat.le_max_right bufferSize 1)
  have fed : ∀ Allowed : Nat → Prop, Allowed size → (.flush ∈ events → ∀ n, 0 < n → n < size → Allowed n) →
      stream.Feeding Well sender kind size Allowed data ∧ stream.Roomy := by
    intro Allowed full flushes
    have begun := feeding_start well reached.sound.toTold unheard unopened kind bufferSize ticket Allowed
    exact begun.afterAll (roomy_start sender kind bufferSize) willing full feeds flushes
  have partly : ∀ n, 0 < n → n < size → 0 < n ∧ n ≤ size := fun n low high => ⟨low, Nat.le_of_lt high⟩
  obtain ⟨feeding, roomy⟩ := fed (fun n => 0 < n ∧ n ≤ size) ⟨some, Nat.le_refl _⟩ fun _ => partly
  obtain ⟨closed, message, portions, log, taken, count⟩ := feeding.close willing
  refine ⟨fun bytes => (feeding.write roomy willing ⟨some, Nat.le_refl _⟩ bytes).1, (feeding.flush roomy willing partly).1, ?_,
    message ++ [stream.handed true], log, taken, ?_, portions.chunks roomy, ?_⟩
  · rw [portions.log, List.length_append, portions.sent]
  · intro unflushed
    obtain ⟨even, _⟩ := fed (· = size) rfl fun flushed => absurd flushed unflushed
    obtain ⟨_, message', portions', log', _⟩ := even.close willing
    have same := List.append_cancel_left (log.symm.trans log')
    rw [same]
    exact portions'.eq_cut roomy
  · intro late
    obtain ⟨last, logs, frames⟩ := afterAll_of_closed closed late
    refine ⟨logs.trans log, ?_, over_of_closed last⟩
    rw [frames, count, List.length_append]
    rfl

/-- Five bytes in frames of two: however they are written, the frames are the same unless the stream is flushed. -/
theorem canonical_chunks_five :
    let sender := Sender.replying []
    let frames := fun (events : List StreamEvent) =>
      ((((start sender .binary 2).setTicket 0).afterAll events).finish.log.map Handover.frame)
    let pieces : List StreamEvent := [.write [1], .elsewhere .work, .write [], .write [2, 3, 4, 5]]
    let flushed : List StreamEvent := [.write [1], .flush, .flush, .write [2, 3, 4, 5]]
    sender.carrier.carrier.Agrees ∧ sender.ledger.Reached ∧ sender.ledger.Unheard sender.ledger.failures.size ∧
    sender.openMessage = none ∧
    frames pieces = [⟨.binary, false, [1, 2]⟩, ⟨.continuation, false, [3, 4]⟩, ⟨.continuation, true, [5]⟩] ∧
    frames [.write [1, 2, 3, 4, 5]] = frames pieces ∧
    MessageKind.binary.Chunks 2 [1, 2, 3, 4, 5] (frames flushed) := by
  intro sender frames pieces flushed
  have agrees : sender.carrier.carrier.Agrees := ⟨rfl, rfl, List.forall_mem_singleton.mpr rfl⟩
  have reached : sender.ledger.Reached := .refl _
  have unheard : sender.ledger.Unheard sender.ledger.failures.size := nofun
  have cut : ∀ events : List StreamEvent, (∀ event ∈ events, event.Feeds) →
      (.flush ∉ events → frames events = MessageKind.binary.cut 2 (events.flatMap StreamEvent.written)) ∧
        MessageKind.binary.Chunks 2 (events.flatMap StreamEvent.written) (frames events) := by
    intro events feeds
    obtain ⟨_, _, _, message, log, _, same, chunks, _⟩ :=
      canonical_chunks ScriptedCarrier.willing agrees reached unheard rfl .binary 2 0 feeds
    rw [show frames events = message.map Handover.frame from congrArg (List.map Handover.frame) log]
    exact ⟨same, chunks⟩
  have first := (cut pieces (by simp [pieces, StreamEvent.Feeds])).1 (by simp [pieces])
  have second := (cut [.write [1, 2, 3, 4, 5]] (by simp [StreamEvent.Feeds])).1 (by simp)
  have third := (cut flushed (by simp [flushed, StreamEvent.Feeds])).2
  exact ⟨agrees, reached, unheard, rfl, first.trans (by decide +kernel), second.trans first.symm, third⟩

end MessageStream
end Egress
