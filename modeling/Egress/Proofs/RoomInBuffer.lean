import Egress.Proofs.Filling

/-!
Room in the buffer. Between two operations the buffer of a stream is never full, whatever size was asked for, whatever the
pool held, and whatever has become of the frames. So every round of the loop that fills the buffer takes at least a byte,
and a write comes to an end: when all has been taken, or when a frame reports a failure.
-/
namespace Egress

namespace MessageStream

variable {types : ValueTypes} {σ : Type} [Carrier σ] {stream : MessageStream types σ} {data : Bytes} {size : Nat}

/-! ## Rounds -/

/-- One round of the loop of a write: as much of the data as there is room for joins the buffer, which is sent if it is full
then. Gives the answer, the stream after the round, and what is left of the data. -/
def round (stream : MessageStream types σ) (data : Bytes) : Outcome × MessageStream types σ × Bytes :=
  let room := stream.bufferSize - stream.buffer.size
  let filled := { stream with buffer := stream.buffer.write (data.take room) }
  if filled.bufferSize ≤ filled.buffer.size then ((filled.emit false).1, (filled.emit false).2, data.drop room)
  else (.ok (), filled, data.drop room)

/-- The loop of a write: while there is data there is another round, unless the last one reported a failure. Nothing in it
bounds the number of rounds. The heads are the streams with which rounds begin, each with the data that is left then. -/
inductive Loops : MessageStream types σ → Bytes → (heads : List (MessageStream types σ × Bytes)) →
    Outcome × MessageStream types σ → Prop where
  | done (stream : MessageStream types σ) : Loops stream [] [] (.ok (), stream)
  | fails {stream after : MessageStream types σ} {data rest : Bytes} {error : SendError} :
    data ≠ [] → stream.round data = (.error error, after, rest) → Loops stream data [(stream, data)] (.error error, after)
  | goesOn {stream next : MessageStream types σ} {data rest : Bytes} {heads : List (MessageStream types σ × Bytes)}
    {result : Outcome × MessageStream types σ} :
    data ≠ [] → stream.round data = (.ok (), next, rest) → Loops next rest heads result →
      Loops stream data ((stream, data) :: heads) result

theorem fill_nil (rounds : Nat) (stream : MessageStream types σ) : fill rounds stream [] = (.ok (), stream) := by
  cases rounds with
  | zero => rw [fill]
  | succ rounds => rw [fill]

theorem fill_succ (rounds : Nat) (stream : MessageStream types σ) (more : data ≠ []) :
    fill (rounds + 1) stream data =
      match stream.round data with
      | (.ok (), next, rest) => fill rounds next rest
      | (.error error, after, _) => (.error error, after) := by
  obtain ⟨byte, bytes, rfl⟩ := List.exists_cons_of_ne_nil more
  rw [fill, round]
  dsimp only
  split
  · split <;> simp_all
  · rfl

/-! ## One round -/

/-- The buffer of the stream has the size, and is not full. -/
structure HasRoom (size : Nat) (stream : MessageStream types σ) : Prop where
  bufferSize : stream.bufferSize = size
  roomy : stream.Roomy

omit [Carrier σ] in
theorem HasRoom.pos (room : stream.HasRoom size) : 0 < stream.bufferSize := Nat.zero_lt_of_lt room.roomy

omit [Carrier σ] in
theorem HasRoom.size_lt (room : stream.HasRoom size) : stream.buffer.size < size := room.bufferSize ▸ room.roomy

omit [Carrier σ] in
theorem hasRoom_start (sender : Sender types σ) (kind : MessageKind) (size : Nat) :
    (start sender kind size).HasRoom (max size 1) :=
  ⟨rfl, roomy_start sender kind size⟩

/-- Sending what is in the buffer makes room, however far the frame gets. -/
theorem hasRoom_emit (stream : MessageStream types σ) (whole : stream.bufferSize = size) (some : 0 < stream.bufferSize) :
    (stream.emit false).2.HasRoom size := by
  refine ⟨?_, roomy_emit some⟩
  rw [emit_snd]
  exact (stream.handOver_keeps false).2.1.trans whole

theorem HasRoom.round (room : stream.HasRoom size) (data : Bytes) : (stream.round data).2.1.HasRoom size := by
  unfold MessageStream.round
  dsimp only
  split
  case isTrue => exact hasRoom_emit _ room.bufferSize room.pos
  case isFalse unfilled => exact ⟨room.bufferSize, Nat.lt_of_not_le unfilled⟩

theorem rest_round (stream : MessageStream types σ) (data : Bytes) :
    (stream.round data).2.2 = data.drop (stream.bufferSize - stream.buffer.size) := by
  unfold MessageStream.round
  dsimp only
  split <;> rfl

/-- A round takes the first bytes of the data, at least one. -/
theorem HasRoom.takes (room : stream.HasRoom size) (more : data ≠ []) :
    ∃ taken, taken ≠ [] ∧ data = taken ++ (stream.round data).2.2 := by
  refine ⟨data.take (stream.bufferSize - stream.buffer.size), ?_, ?_⟩
  · rw [Ne, List.take_eq_nil_iff]
    rintro (none | none)
    · exact Nat.ne_of_gt room.roomy.room_pos none
    · exact more none
  · rw [rest_round, List.take_append_drop]

theorem HasRoom.fewer (room : stream.HasRoom size) (more : data ≠ []) : (stream.round data).2.2.length < data.length := by
  obtain ⟨taken, some, whole⟩ := room.takes more
  have length := congrArg List.length whole
  have pos := List.length_pos_iff.mpr some
  rw [List.length_append] at length
  omega

/-! ## The loop -/

variable {heads others : List (MessageStream types σ × Bytes)} {result other : Outcome × MessageStream types σ}

/-- The rounds determine one another. -/
theorem Loops.unique (loops : stream.Loops data heads result) (again : stream.Loops data others other) :
    others = heads ∧ other = result := by
  induction loops generalizing others other with
  | done stream =>
    cases again with
    | done => exact ⟨rfl, rfl⟩
    | fails more | goesOn more => exact absurd rfl more
  | fails more first =>
    cases again with
    | done => exact absurd rfl more
    | fails _ second =>
      cases first.symm.trans second
      exact ⟨rfl, rfl⟩
    | goesOn _ second => cases first.symm.trans second
  | goesOn more first _ ih =>
    cases again with
    | done => exact absurd rfl more
    | fails _ second => cases first.symm.trans second
    | goesOn _ second loops =>
      cases first.symm.trans second
      obtain ⟨rfl, rfl⟩ := ih loops
      exact ⟨rfl, rfl⟩

/-- The loop comes to an end. By induction on the bound that is set for the rounds: every round takes a byte or more, so
that a bound as large as the data is never reached. -/
theorem HasRoom.loops_fill (room : stream.HasRoom size) {rounds : Nat} (enough : data.length ≤ rounds) :
    ∃ heads, stream.Loops data heads (fill rounds stream data) ∧ heads.length ≤ data.length ∧
      ∀ head ∈ heads, head.1.HasRoom size ∧ head.2 ≠ [] := by
  induction rounds generalizing stream data with
  | zero =>
    obtain rfl := List.eq_nil_of_length_eq_zero (Nat.le_zero.mp enough)
    rw [fill_nil]
    exact ⟨[], .done stream, Nat.le_refl _, List.forall_mem_nil _⟩
  | succ rounds ih =>
    by_cases none : data = []
    · subst none
      rw [fill_nil]
      exact ⟨[], .done stream, Nat.le_refl _, List.forall_mem_nil _⟩
    · have here := room.round data
      have fewer := room.fewer none
      rw [fill_succ rounds stream none]
      rcases round : stream.round data with ⟨error | ⟨⟩, next, rest⟩
        <;> rw [round] at here fewer <;> dsimp only at here fewer
      · refine ⟨[(stream, data)], .fails none round, List.length_pos_iff.mpr none, ?_⟩
        intro head member
        obtain rfl := List.mem_singleton.mp member
        exact ⟨room, none⟩
      · obtain ⟨heads, loops, few, each⟩ := ih here (Nat.le_of_lt_succ (Nat.lt_of_lt_of_le fewer enough))
        refine ⟨(stream, data) :: heads, .goesOn none round loops, ?_, ?_⟩
        · rw [List.length_cons]
          omega
        · intro head member
          rcases List.mem_cons.mp member with rfl | member
          · exact ⟨room, none⟩
          · exact each head member

theorem Loops.hasRoom (loops : stream.Loops data heads result) (room : stream.HasRoom size) : result.2.HasRoom size := by
  induction loops with
  | done => exact room
  | @fails stream _ data _ _ _ round =>
    have next := room.round data
    rwa [round] at next
  | @goesOn stream _ data _ _ _ _ round _ ih =>
    have next := room.round data
    rw [round] at next
    exact ih next

/-! ## Operations -/

theorem HasRoom.write (room : stream.HasRoom size) (data : Bytes) : (stream.write data).2.HasRoom size := by
  unfold MessageStream.write
  split
  · exact room
  · split
    · exact room
    · obtain ⟨heads, loops, _⟩ := room.loops_fill (Nat.le_refl data.length)
      exact loops.hasRoom room

theorem HasRoom.flush (room : stream.HasRoom size) : stream.flush.2.HasRoom size := by
  unfold MessageStream.flush
  split
  · exact room
  · split
    · exact room
    · exact stream.hasRoom_emit room.bufferSize room.pos

theorem bufferSize_sendLast (stream : MessageStream types σ) : stream.sendLast.bufferSize = stream.bufferSize := by
  unfold sendLast
  split
  · split
    · rfl
    · rw [emit_snd]
      exact (stream.handOver_keeps true).2.1
  · split
    · rw [emit_snd]
      exact (handOver_keeps { stream with buffer := stream.buffer.clear } true).2.1
    · rfl

/-- A stream that is closed has given its buffer back, and is left with an empty one. -/
theorem HasRoom.close (room : stream.HasRoom size) : stream.close.HasRoom size := by
  unfold MessageStream.close
  split
  · exact room
  · have kept := bufferSize_sendLast { stream with closed := true }
    exact ⟨kept.trans room.bufferSize, Nat.lt_of_lt_of_eq room.pos kept.symm⟩

theorem HasRoom.after (room : stream.HasRoom size) (event : StreamEvent) : (stream.after event).HasRoom size := by
  cases event with
  | write bytes => exact room.write bytes
  | flush => exact room.flush
  | close => exact room.close
  | fail | attach | elsewhere => exact ⟨room.bufferSize, room.roomy⟩

theorem HasRoom.afterAll (room : stream.HasRoom size) (events : List StreamEvent) :
    (stream.afterAll events).HasRoom size := by
  induction events generalizing stream with
  | nil => exact room
  | cons event events ih => exact ih (room.after event)

/-- Between two operations the buffer of a stream has room, whatever was done to the stream before, over any sender and its
pool: less is in it than the size that was asked for, or than one byte if that was 0. A write to the stream is refused at
once if the stream is closed or its message has failed. Otherwise its loop has one course, which comes to an end after at
most as many rounds as there are bytes, with the result of the write; every round begins with room in the buffer, and takes
at least a byte. -/
theorem room_between_operations (sender : Sender types σ) (kind : MessageKind) (size : Nat) (events : List StreamEvent)
    (data : Bytes) :
    let stream := (start sender kind size).afterAll events
    let largest := max size 1
    stream.bufferSize = largest ∧ stream.buffer.size < largest ∧
    ((stream.closed = true ∨ stream.failure ≠ none) ∧ (∃ error, stream.write data = (.error error, stream)) ∨
      stream.closed = false ∧ stream.failure = none ∧
        ∃ heads, (∀ others result, stream.Loops data others result ↔ others = heads ∧ result = stream.write data) ∧
          heads.length ≤ data.length ∧
          ∀ head ∈ heads, head.1.bufferSize = largest ∧ head.1.buffer.size < largest ∧
            ∃ taken, taken ≠ [] ∧ head.2 = taken ++ (head.1.round head.2).2.2) := by
  intro stream largest
  have room : stream.HasRoom largest := (hasRoom_start sender kind size).afterAll events
  refine ⟨room.bufferSize, room.size_lt, ?_⟩
  cases closed : stream.closed with
  | true =>
    refine .inl ⟨.inl rfl, closedError, ?_⟩
    rw [write, if_pos closed]
  | false =>
    cases failed : stream.failure with
    | some error =>
      refine .inl ⟨.inr nofun, error, ?_⟩
      rw [write, if_neg (by simp [closed]), failed]
    | none =>
      have written : stream.write data = fill data.length stream data := by
        rw [write, if_neg (by simp [closed]), failed]
      obtain ⟨heads, loops, few, each⟩ := room.loops_fill (Nat.le_refl data.length)
      refine .inr ⟨rfl, rfl, heads, fun others result => ?_, few, fun head member => ?_⟩
      · rw [written]
        constructor
        · exact loops.unique
        · rintro ⟨rfl, rfl⟩
          exact loops
      · obtain ⟨here, more⟩ := each head member
        exact ⟨here.bufferSize, here.size_lt, here.takes more⟩

end MessageStream
end Egress
