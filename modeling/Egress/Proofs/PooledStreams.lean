import Egress.Proofs.BufferLoans
import Egress.Proofs.Filling
import Mathlib.Data.List.Forall2

/-!
Streams and the pool behind them. A stream takes a buffer out of the pool of its session when it is opened, and gives it
back when it is closed. In between it has nothing to do with the pool, and neither what an idle buffer held before nor
the room in it makes a difference to anything that is answered, handed over or told.
-/
namespace Egress

namespace Sender

variable {types : ValueTypes} {σ : Type}

/-- The sender with another pool. -/
def withPool (sender : Sender types σ) (pool : BufferPool) : Sender types σ := { sender with session.pool := pool }

/-- The senders are the same but for their pools: so are their carriers and all that the ledger tells. -/
def SameButPool (sender other : Sender types σ) : Prop := ∃ pool, other = sender.withPool pool

variable [Carrier σ] (sender : Sender types σ) (pool : BufferPool)

theorem submit_withPool (frame : Frame) (ticket : Ticket) (mode : BatchMode) :
    (sender.withPool pool).submit frame ticket mode =
      ((sender.submit frame ticket mode).1, (sender.submit frame ticket mode).2.withPool pool) := rfl

theorem offer_withPool (frame : Frame) (ticket : Ticket) (mode : BatchMode) :
    (sender.withPool pool).offer frame ticket mode =
      ((sender.offer frame ticket mode).1, (sender.offer frame ticket mode).2.withPool pool) := by
  unfold offer
  rw [submit_withPool]
  rcases sender.submit frame ticket mode with ⟨error | ⟨⟩, after⟩ <;> rfl

theorem dispatch_withPool (frame : Frame) (ticket : Ticket) (mode : BatchMode) :
    (sender.withPool pool).dispatch frame ticket mode =
      ((sender.dispatch frame ticket mode).1, (sender.dispatch frame ticket mode).2.withPool pool) := by
  have openMessage : (sender.withPool pool).openMessage = sender.openMessage := rfl
  have policy : (sender.withPool pool).session.settings.controlPolicy = sender.session.settings.controlPolicy := rfl
  unfold dispatch
  rw [openMessage, policy]
  by_cases data : frame.isData = true
  · rw [if_pos data, if_pos data]
    rcases sender.openMessage.advance frame.opcode with error | advanced
    · rfl
    · have offered := { sender with openMessage := advanced }.offer_withPool pool frame ticket mode
      have same : { sender with openMessage := advanced }.withPool pool =
        { sender.withPool pool with openMessage := advanced } := rfl
      dsimp only
      rw [← same, offered]
      unfold afterData
      split <;> rfl
  · rw [if_neg data, if_neg data]
    rcases checkControl sender.session.settings.controlPolicy frame with error | permitted
    · rfl
    · exact sender.offer_withPool pool permitted ticket mode

end Sender

namespace MessageStream

variable {types : ValueTypes} {σ : Type}

/-- The stream with another pool behind it, and with other room in its buffer. -/
def onPool (stream : MessageStream types σ) (pool : BufferPool) (room : Nat) : MessageStream types σ :=
  { stream with sender := stream.sender.withPool pool, buffer.capacity := room }

/-- What a stream does without the pool: whatever pool is behind it and whatever room is in its buffer, it answers alike
and goes on alike. It is neither closed by this nor opened. -/
structure Aloof {Answer : Type} (act : MessageStream types σ → Answer × MessageStream types σ) : Prop where
  alike : ∀ stream pool room, ∃ left, act (stream.onPool pool room) = ((act stream).1, (act stream).2.onPool pool left)
  closed : ∀ stream, (act stream).2.closed = stream.closed

namespace Aloof

variable {Answer : Type} {act : MessageStream types σ → Answer × MessageStream types σ}

/-- The pool stays as it is. -/
theorem pool (aloof : Aloof act) (stream : MessageStream types σ) :
    (act stream).2.sender.session.pool = stream.sender.session.pool := by
  obtain ⟨left, same⟩ := aloof.alike stream stream.sender.session.pool stream.buffer.capacity
  have own : act stream = ((act stream).1, (act stream).2.onPool stream.sender.session.pool left) := same
  rw [own]
  rfl

theorem parts (aloof : Aloof act) (stream : MessageStream types σ) (pool : BufferPool) (room : Nat) :
    (act (stream.onPool pool room)).1 = (act stream).1 ∧
      ∃ left, (act (stream.onPool pool room)).2 = (act stream).2.onPool pool left := by
  obtain ⟨left, same⟩ := aloof.alike stream pool room
  rw [same]
  exact ⟨rfl, left, rfl⟩

theorem bind {Last : Type} {next : Answer → MessageStream types σ → Last × MessageStream types σ} (first : Aloof act)
    (second : ∀ answer, Aloof (next answer)) : Aloof fun stream => next (act stream).1 (act stream).2 where
  alike stream pool room := by
    obtain ⟨between, acted⟩ := first.alike stream pool room
    obtain ⟨left, same⟩ := (second (act stream).1).alike (act stream).2 pool between
    exact ⟨left, by simpa only [acted] using same⟩
  closed stream := ((second _).closed _).trans (first.closed stream)

end Aloof

variable [Carrier σ]

theorem handOver_onPool (stream : MessageStream types σ) (pool : BufferPool) (room : Nat) (final : Bool) :
    (stream.onPool pool room).handOver final = (stream.handOver final).onPool pool (room - stream.buffer.size) := by
  have sent : (stream.onPool pool room).sendNext final =
      ((stream.sendNext final).1, (stream.sendNext final).2.withPool pool) :=
    (stream.sender.issue (stream.recipient final)).2.dispatch_withPool pool (stream.nextFrame final)
      (stream.sender.issue (stream.recipient final)).1 stream.sender.batchMode
  unfold handOver
  rw [sent]
  rcases stream.sendNext final with ⟨delivery, sender⟩
  cases delivery with
  | refused =>
    unfold afterDelivery
    dsimp only
    split
    · rw [if_pos ‹_›]
      rfl
    · rw [if_neg ‹_›]
      rfl
  | _ => rfl

theorem emit_onPool (stream : MessageStream types σ) (pool : BufferPool) (room : Nat) (final : Bool) :
    (stream.onPool pool room).emit final =
      ((stream.emit final).1, (stream.emit final).2.onPool pool (room - stream.buffer.size)) := by
  unfold emit
  rw [handOver_onPool]
  have failure (handed : MessageStream types σ) (room : Nat) : (handed.onPool pool room).failure = handed.failure := rfl
  dsimp only
  rw [failure]
  rcases (stream.handOver final).failure with _ | error <;> rfl

/-- A round that fills the buffer goes on as its frame is answered. -/
theorem fill_of_full (rounds : Nat) {stream : MessageStream types σ} {byte : UInt8} {bytes : Bytes}
    (filled : MessageStream types σ)
    (next : filled = { stream with
      buffer := stream.buffer.write ((byte :: bytes).take (stream.bufferSize - stream.buffer.size)) })
    (full : filled.bufferSize ≤ filled.buffer.size) :
    fill (rounds + 1) stream (byte :: bytes) =
      match filled.emit false with
      | (.ok (), after) => fill rounds after ((byte :: bytes).drop (stream.bufferSize - stream.buffer.size))
      | (.error error, after) => (.error error, after) := by
  subst next
  rw [fill]
  exact if_pos full

theorem fill_onPool (rounds : Nat) (stream : MessageStream types σ) (data : Bytes) (pool : BufferPool) :
    ∀ room, ∃ left, fill rounds (stream.onPool pool room) data =
      ((fill rounds stream data).1, (fill rounds stream data).2.onPool pool left) := by
  fun_induction fill rounds stream data with
  | case1 stream data => exact fun room => ⟨room, rfl⟩
  | case2 rounds stream => exact fun room => ⟨room, rfl⟩
  | case3 rounds stream byte bytes data space filled full next emitted ih =>
    intro room
    have sent := filled.emit_onPool pool (max room filled.buffer.size) false
    rw [emitted] at sent
    obtain ⟨left, rest⟩ := ih (max room filled.buffer.size - filled.buffer.size)
    refine ⟨left, .trans ?_ rest⟩
    rw [fill_of_full rounds (filled.onPool pool (max room filled.buffer.size)) rfl full, sent]
    rfl
  | case4 rounds stream byte bytes data space filled full error next emitted =>
    intro room
    have sent := filled.emit_onPool pool (max room filled.buffer.size) false
    rw [emitted] at sent
    refine ⟨_, .trans ?_ sent⟩
    rw [fill_of_full rounds (filled.onPool pool (max room filled.buffer.size)) rfl full, sent]
  | case5 rounds stream byte bytes data space filled unfilled ih =>
    intro room
    obtain ⟨left, rest⟩ := ih (max room filled.buffer.size)
    refine ⟨left, .trans ?_ rest⟩
    rw [fill]
    exact if_neg unfilled

theorem aloof_emit (final : Bool) : Aloof fun stream : MessageStream types σ => stream.emit final where
  alike stream pool room := ⟨_, stream.emit_onPool pool room final⟩
  closed stream := by
    rw [emit_snd]
    exact stream.closed_handOver final

theorem aloof_write (data : Bytes) : Aloof fun stream : MessageStream types σ => stream.write data where
  alike stream pool room := by
    have closed : (stream.onPool pool room).closed = stream.closed := rfl
    have failure : (stream.onPool pool room).failure = stream.failure := rfl
    unfold write
    rw [closed, failure]
    split
    · exact ⟨room, rfl⟩
    · split
      · exact ⟨room, rfl⟩
      · exact fill_onPool _ stream data pool room
  closed stream := stream.closed_write data

theorem aloof_flush : Aloof fun stream : MessageStream types σ => stream.flush where
  alike stream pool room := by
    have closed : (stream.onPool pool room).closed = stream.closed := rfl
    have empty : (stream.onPool pool room).buffer.isEmpty = stream.buffer.isEmpty := rfl
    unfold flush
    rw [closed, empty]
    split
    · exact ⟨room, rfl⟩
    · split
      · exact ⟨room, rfl⟩
      · exact (aloof_emit false).alike stream pool room
  closed := closed_flush

/-! ## Closing -/

theorem aloof_sendLast : Aloof fun stream : MessageStream types σ => ((), stream.sendLast) where
  alike stream pool room := by
    have failure : (stream.onPool pool room).failure = stream.failure := rfl
    have rejected : (stream.onPool pool room).rejected = stream.rejected := rfl
    have framesSent : (stream.onPool pool room).framesSent = stream.framesSent := rfl
    unfold sendLast
    rw [failure, rejected, framesSent]
    rcases stream.failure with _ | error
    · dsimp only
      split
      · exact ⟨room, rfl⟩
      · rw [emit_onPool]
        exact ⟨_, rfl⟩
    · dsimp only
      split
      · obtain ⟨left, same⟩ := (aloof_emit true).alike { stream with buffer := stream.buffer.clear } pool room
        exact ⟨left, congrArg (fun sent => ((), sent.2)) same⟩
      · exact ⟨room, rfl⟩
  closed stream := stream.sendLast_message.2

theorem close_of_closed {stream : MessageStream types σ} (closed : stream.closed = true) : stream.close = stream := by
  unfold close
  rw [if_pos closed]

/-- Closing gives one buffer back. -/
theorem pool_close (stream : MessageStream types σ) (unclosed : stream.closed = false) :
    ∃ buffer, stream.close.sender.session.pool = stream.sender.session.pool.release buffer := by
  have ended : stream.close = ({ stream with closed := true } : MessageStream types σ).sendLast.returnBuffer := by
    unfold close
    rw [unclosed]
    rfl
  have pool := aloof_sendLast.pool { stream with closed := true }
  rw [ended]
  refine ⟨({ stream with closed := true } : MessageStream types σ).sendLast.buffer, ?_⟩
  exact congrArg (BufferPool.release · _) pool

theorem close_onPool (stream : MessageStream types σ) (pool : BufferPool) (room : Nat) :
    ∃ left more, (stream.onPool pool room).close = stream.close.onPool left more := by
  have closed : (stream.onPool pool room).closed = stream.closed := rfl
  unfold close
  rw [closed]
  split
  · exact ⟨pool, room, rfl⟩
  · obtain ⟨left, same⟩ := aloof_sendLast.alike { stream with closed := true } pool room
    have last : ({ stream.onPool pool room with closed := true } : MessageStream types σ).sendLast = _ :=
      congrArg Prod.snd same
    rw [last]
    exact ⟨_, _, rfl⟩

/-! ## Everything that can happen -/

end MessageStream

/-- The events are the same, except for what others leave of the pool that they share. -/
inductive StreamEvent.Alike : StreamEvent → StreamEvent → Prop
  | same (event : StreamEvent) : Alike event event
  | shared (ours theirs : BufferPool) (turn : Turn) :
    Alike (.elsewhere (.share ours turn)) (.elsewhere (.share theirs turn))

/-- What others leave of the pool that they share. -/
def StreamEvent.pool? : StreamEvent → Option BufferPool
  | .elsewhere (.share pool _) => some pool
  | _ => none

def StreamEvent.closes : StreamEvent → Bool
  | .close => true
  | _ => false

/-- A pool that only others use while all this happens. -/
def BufferPool.amid (pool : BufferPool) (events : List StreamEvent) : BufferPool :=
  events.foldl (fun pool event => event.pool?.getD pool) pool

theorem BufferPool.amid_of_alone (pool : BufferPool) {events : List StreamEvent}
    (alone : ∀ event ∈ events, event.pool? = none) : pool.amid events = pool := by
  induction events with
  | nil => rfl
  | cons event events ih =>
    show (event.pool?.getD pool).amid events = pool
    rw [alone event List.mem_cons_self]
    exact ih fun later member => alone later (List.mem_cons_of_mem _ member)

namespace MessageStream

variable {types : ValueTypes} {σ : Type} [Carrier σ]

/-- How a stream answers; most of what happens to it is not answered. -/
def reply (stream : MessageStream types σ) : StreamEvent → Outcome
  | .write bytes => (stream.write bytes).1
  | .flush => stream.flush.1
  | _ => .ok ()

/-- All answers to what happens to a stream, in order. -/
def replies : MessageStream types σ → List StreamEvent → List Outcome
  | _, [] => []
  | stream, event :: events => stream.reply event :: (stream.after event).replies events

theorem after_onPool {event other : StreamEvent} (alike : event.Alike other) (stream : MessageStream types σ)
    (pool : BufferPool) (room : Nat) :
    (stream.onPool pool room).reply other = stream.reply event ∧
      ∃ left more, (stream.onPool pool room).after other = (stream.after event).onPool left more := by
  cases alike with
  | shared ours theirs turn => exact ⟨rfl, theirs, room, rfl⟩
  | same event =>
    cases event with
    | write bytes =>
      obtain ⟨answered, left, after⟩ := (aloof_write bytes).parts stream pool room
      exact ⟨answered, pool, left, after⟩
    | flush =>
      obtain ⟨answered, left, after⟩ := aloof_flush.parts stream pool room
      exact ⟨answered, pool, left, after⟩
    | fail error => exact ⟨rfl, pool, room, rfl⟩
    | attach ticket => exact ⟨rfl, pool, room, rfl⟩
    | close => exact ⟨rfl, stream.close_onPool pool room⟩
    | elsewhere event =>
      cases event with
      | share left turn => exact ⟨rfl, left, room, rfl⟩
      | _ => exact ⟨rfl, pool, room, rfl⟩

theorem afterAll_onPool {events others : List StreamEvent} (alike : List.Forall₂ StreamEvent.Alike events others)
    (stream : MessageStream types σ) (pool : BufferPool) (room : Nat) :
    (stream.onPool pool room).replies others = stream.replies events ∧
      ∃ left more, (stream.onPool pool room).afterAll others = (stream.afterAll events).onPool left more := by
  induction alike generalizing stream pool room with
  | nil => exact ⟨rfl, pool, room, rfl⟩
  | @cons event other events others first rest ih =>
    obtain ⟨answered, left, more, after⟩ := stream.after_onPool first pool room
    have later := ih (stream.after event) left more
    unfold replies afterAll
    rw [List.foldl_cons, List.foldl_cons, after, answered]
    exact ⟨congrArg _ later.1, later.2⟩

/-- An event leaves the pool to others, unless it closes the stream. -/
theorem pool_after (stream : MessageStream types σ) {event : StreamEvent}
    (leaves : event.closes = false ∨ stream.closed = true) :
    (stream.after event).closed = stream.closed ∧
      (stream.after event).sender.session.pool = event.pool?.getD stream.sender.session.pool := by
  cases event with
  | write bytes => exact ⟨(aloof_write bytes).closed stream, (aloof_write bytes).pool stream⟩
  | flush => exact ⟨aloof_flush.closed stream, aloof_flush.pool stream⟩
  | fail error => exact ⟨rfl, rfl⟩
  | attach ticket => exact ⟨rfl, rfl⟩
  | close =>
    have closed : stream.closed = true := leaves.resolve_left nofun
    have same : stream.after .close = stream := close_of_closed closed
    rw [same]
    exact ⟨rfl, rfl⟩
  | elsewhere event => cases event <;> exact ⟨rfl, rfl⟩

theorem pool_afterAll (stream : MessageStream types σ) (events : List StreamEvent)
    (leaves : (∀ event ∈ events, event.closes = false) ∨ stream.closed = true) :
    (stream.afterAll events).closed = stream.closed ∧
      (stream.afterAll events).sender.session.pool = stream.sender.session.pool.amid events := by
  induction events generalizing stream with
  | nil => exact ⟨rfl, rfl⟩
  | cons event events ih =>
    obtain ⟨closed, pool⟩ := stream.pool_after (leaves.imp_left (· event List.mem_cons_self))
    have later := ih (stream.after event)
      (leaves.imp (fun each later member => each later (List.mem_cons_of_mem _ member)) closed.trans)
    rw [closed, pool] at later
    exact later

/-- A stream gives its buffer back when it is first closed or dropped. Before that and after it the pool is left to
others. -/
theorem pool_finish (stream : MessageStream types σ) (unclosed : stream.closed = false) (events : List StreamEvent) :
    ∃ buffer, (stream.afterAll events).finish.session.pool =
      ((stream.sender.session.pool.amid (events.takeWhile (!·.closes))).release buffer).amid
        (events.dropWhile (!·.closes)) := by
  induction events generalizing stream with
  | nil => exact stream.pool_close unclosed
  | cons event events ih =>
    cases closing : event.closes with
    | false =>
      obtain ⟨still, pool⟩ := stream.pool_after (.inl closing)
      have later := ih _ (still.trans unclosed)
      rw [pool] at later
      rw [List.takeWhile_cons_of_pos (by simp [closing]), List.dropWhile_cons_of_pos (by simp [closing])]
      exact later
    | true =>
      obtain rfl : event = .close := by
        cases event with
        | close => rfl
        | _ => exact nomatch closing
      obtain ⟨buffer, ended⟩ := stream.pool_close unclosed
      obtain ⟨still, pool⟩ := stream.close.pool_afterAll events (.inr stream.closed_close)
      refine ⟨buffer, ?_⟩
      show ((stream.close.afterAll events).close).sender.session.pool =
        (stream.sender.session.pool.release buffer).amid events
      rw [close_of_closed (still.trans stream.closed_close), pool, ended]

omit [Carrier σ] in
/-- A stream that begins over another pool differs in the pool and in the room of its buffer. -/
theorem start_onPool (sender : Sender types σ) (ours theirs : BufferPool) (kind : MessageKind) (size : Nat)
    (ticket : Ticket) :
    ∃ left room, (start (sender.withPool theirs) kind size).setTicket ticket =
      ((start (sender.withPool ours) kind size).setTicket ticket).onPool left room := by
  have empty (pool : BufferPool) : (pool.acquire (max size 1)).1.content = #[] :=
    Array.toList_eq_nil_iff.mp (pool.toBytes_acquire _)
  have taken : (theirs.acquire (max size 1)).1 =
      { (ours.acquire (max size 1)).1 with capacity := (theirs.acquire (max size 1)).1.capacity } :=
    congrArg (Buffer.mk · _) ((empty theirs).trans (empty ours).symm)
  refine ⟨(theirs.acquire (max size 1)).2, (theirs.acquire (max size 1)).1.capacity, ?_⟩
  exact congrArg (fun buffer => { (start (sender.withPool theirs) kind size).setTicket ticket with buffer }) taken

/-- When nobody else uses the pool, the stream has had one buffer of it. -/
theorem lendsOnce_finish {sender : Sender types σ} {kind : MessageKind} {size : Nat} {ticket : Ticket}
    {events : List StreamEvent} (alone : ∀ event ∈ events, event.pool? = none) :
    sender.session.pool.LendsOnce (max size 1)
      (((start sender kind size).setTicket ticket).afterAll events).finish.session.pool := by
  obtain ⟨buffer, ended⟩ := ((start sender kind size).setTicket ticket).pool_finish rfl events
  have before := fun event member => alone event ((events.takeWhile_sublist (!·.closes)).subset member)
  have later := fun event member => alone event ((events.dropWhile_sublist (!·.closes)).subset member)
  rw [BufferPool.amid_of_alone _ before, BufferPool.amid_of_alone _ later] at ended
  exact ⟨buffer, ended⟩

theorem finish_onPool (stream : MessageStream types σ) (pool : BufferPool) (room : Nat) :
    stream.finish.SameButPool (stream.onPool pool room).finish := by
  obtain ⟨left, more, closed⟩ := stream.close_onPool pool room
  exact ⟨left, congrArg sender closed⟩

/-- Over any two pools a stream answers alike, and the sender that it leaves differs in the pool only. -/
theorem run_withPool (sender : Sender types σ) (ours theirs : BufferPool) (kind : MessageKind) (size : Nat) (ticket : Ticket)
    {events others : List StreamEvent} (alike : List.Forall₂ StreamEvent.Alike events others) :
    let begun (pool : BufferPool) := (start (sender.withPool pool) kind size).setTicket ticket
    (begun theirs).replies others = (begun ours).replies events ∧
      ((begun ours).afterAll events).finish.SameButPool ((begun theirs).afterAll others).finish := by
  intro begun
  obtain ⟨left, room, same⟩ := start_onPool sender ours theirs kind size ticket
  obtain ⟨answered, other, more, ended⟩ := afterAll_onPool alike (begun ours) left room
  have there : begun theirs = (begun ours).onPool left room := same
  rw [there, ended]
  exact ⟨answered, finish_onPool _ other more⟩

end MessageStream
end Egress
