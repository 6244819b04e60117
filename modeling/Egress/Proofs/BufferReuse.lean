import Egress.Catalogue
import Egress.Proofs.PooledStreams

/-!
Buffers that are used again. What streams do with the buffers of a pool, a streaming encoder does; so neither bytes nor
buffers leak from one message to another, whatever becomes of them.
-/
namespace Egress

/-! ## Objects -/

namespace MessageStream

variable {types : ValueTypes} {σ : Type} [Carrier σ]

theorem aloof_writeText (text : String) : Aloof fun stream : MessageStream types σ => stream.writeText text where
  alike stream pool room := by
    obtain ⟨left, same⟩ := (aloof_write (Bytes.ofText text)).alike stream pool room
    unfold writeText
    rw [same]
    rcases stream.write (Bytes.ofText text) with ⟨error | ⟨⟩, after⟩ <;> exact ⟨left, rfl⟩
  closed stream := by
    have kept := (aloof_write (Bytes.ofText text)).closed stream
    unfold writeText
    revert kept
    rcases stream.write (Bytes.ofText text) with ⟨error | ⟨⟩, after⟩ <;> exact id

theorem aloof_act (action : ByteAction) : Aloof fun stream : MessageStream types σ => stream.act action := by
  cases action with
  | write bytes =>
    unfold act writeBytes
    by_cases none : bytes.isEmpty = true
    · simp only [none, if_true]
      exact ⟨fun _ _ room => ⟨room, rfl⟩, fun _ => rfl⟩
    · simp only [none]
      exact aloof_write bytes
  | call bytes => exact aloof_write bytes
  | flush => exact aloof_flush

theorem aloof_letWork : Aloof fun stream : MessageStream types σ => ((), stream.letWork) :=
  ⟨fun _ _ room => ⟨room, rfl⟩, fun _ => rfl⟩

/-- An encoder that acts on its stream leaves the pool alone. -/
theorem aloof_streamObject {Action Refusal : Type}
    {answer : MessageStream types σ → Action → Except Refusal Unit × MessageStream types σ}
    (each : ∀ action, Aloof (answer · action)) (emission : Emission Action Refusal) :
    Aloof fun stream => Sender.streamObject answer stream emission := by
  have run : Aloof fun stream => emission.run (fun stream action => answer stream.letWork action) stream := by
    induction emission with
    | done result => exact ⟨fun _ _ room => ⟨room, rfl⟩, fun _ => rfl⟩
    | act action next ih => exact (aloof_letWork.bind fun _ => each action).bind ih
  have last (result : Except Fault Unit) : Aloof fun stream : MessageStream types σ => (result, stream.letWork) :=
    ⟨fun _ _ room => ⟨room, rfl⟩, fun _ => rfl⟩
  exact run.bind last

end MessageStream

namespace Sender

open MessageStream

variable {types : ValueTypes} {σ : Type} [Carrier σ]

theorem endObject_onPool (typeName : String) (result : Except Fault Unit) (stream : MessageStream types σ)
    (pool : BufferPool) (room : Nat) :
    (endObject typeName (result, stream.onPool pool room)).1 = (endObject typeName (result, stream)).1 ∧
      (endObject typeName (result, stream)).2.SameButPool (endObject typeName (result, stream.onPool pool room)).2 := by
  rcases result with fault | ⟨⟩
  · exact ⟨rfl, (stream.fail (fault.toSendError typeName)).finish_onPool pool room⟩
  · exact ⟨rfl, stream.finish_onPool pool room⟩

/-- A streaming encoder cannot tell pools apart. -/
theorem streamObject_onPool {Action Refusal : Type}
    {answer : MessageStream types σ → Action → Except Refusal Unit × MessageStream types σ}
    (each : ∀ action, Aloof (answer · action)) (sender : Sender types σ) (pool : BufferPool) (kind : MessageKind)
    (ticket : Ticket) (emission : Emission Action Refusal) (typeName : String) :
    let sent (sender : Sender types σ) := endObject typeName (streamObject answer (sender.stream kind ticket) emission)
    (sent (sender.withPool pool)).1 = (sent sender).1 ∧ (sent sender).2.SameButPool (sent (sender.withPool pool)).2 := by
  intro sent
  obtain ⟨left, room, begun⟩ :=
    start_onPool sender sender.session.pool pool kind (sender.session.settings.bufferSize kind) ticket
  obtain ⟨more, encoded⟩ := (aloof_streamObject each emission).alike (sender.stream kind ticket) left room
  have same : streamObject answer ((sender.withPool pool).stream kind ticket) emission = _ :=
    (congrArg (streamObject answer · emission) begun).trans encoded
  have there : sent (sender.withPool pool) = endObject typeName _ := congrArg (endObject typeName) same
  rw [there]
  exact endObject_onPool typeName _ _ _ _

theorem sameButPool_sendFrame (sender : Sender types σ) (pool : BufferPool) (frame : Frame) (ticket : Ticket)
    (mode : BatchMode) :
    (sender.sendFrame frame ticket mode).SameButPool ((sender.withPool pool).sendFrame frame ticket mode) :=
  ⟨pool, congrArg Prod.snd (sender.dispatch_withPool pool frame ticket mode)⟩

theorem encodeObject_onPool (sender : Sender types σ) (pool : BufferPool) (object : Option types.Object) (ticket : Ticket) :
    ((sender.withPool pool).encodeObject object ticket).1 = (sender.encodeObject object ticket).1 ∧
      (sender.encodeObject object ticket).2.SameButPool ((sender.withPool pool).encodeObject object ticket).2 := by
  have registry : (sender.withPool pool).session.registry = sender.session.registry := rfl
  unfold encodeObject
  rw [registry]
  rcases object with _ | object
  · exact ⟨rfl, pool, rfl⟩
  · dsimp only
    rcases sender.session.registry.lookup object with _ | registration
    · exact ⟨rfl, pool, rfl⟩
    · dsimp only
      rcases registration.encoder with encode | encode | encode | encode
      · dsimp only
        rcases encode object with fault | text
        · exact ⟨rfl, pool, rfl⟩
        · exact ⟨rfl, sender.sameButPool_sendFrame pool _ _ _⟩
      · exact streamObject_onPool aloof_writeText sender pool _ ticket _ _
      · dsimp only
        rcases encode object with fault | bytes
        · exact ⟨rfl, pool, rfl⟩
        · exact ⟨rfl, sender.sameButPool_sendFrame pool _ _ _⟩
      · exact streamObject_onPool aloof_act sender pool _ ticket _ _

theorem sendObject_onPool (sender : Sender types σ) (pool : BufferPool) (object : Option types.Object) (ticket : Ticket) :
    ((sender.withPool pool).sendObject object ticket).1 = (sender.sendObject object ticket).1 ∧
      (sender.sendObject object ticket).2.SameButPool ((sender.withPool pool).sendObject object ticket).2 := by
  obtain ⟨outcome, left, same⟩ := sender.encodeObject_onPool pool object ticket
  unfold sendObject
  revert outcome same
  rcases (sender.withPool pool).encodeObject object ticket with ⟨told, other⟩
  rcases sender.encodeObject object ticket with ⟨error | ⟨⟩, after⟩
  · rintro rfl rfl
    exact ⟨rfl, left, rfl⟩
  · rintro rfl rfl
    exact ⟨rfl, left, rfl⟩

/-! ## Objects and the pool -/

/-- A streaming encoder has one buffer, whatever becomes of it. -/
theorem lendsOnce_streamObject {Action Refusal : Type}
    {answer : MessageStream types σ → Action → Except Refusal Unit × MessageStream types σ}
    (each : ∀ action, Aloof (answer · action)) (sender : Sender types σ) (kind : MessageKind) (ticket : Ticket)
    (emission : Emission Action Refusal) (typeName : String) :
    sender.session.pool.LendsOnce (max (sender.session.settings.bufferSize kind) 1)
      (endObject typeName (streamObject answer (sender.stream kind ticket) emission)).2.session.pool := by
  have aloof := aloof_streamObject each emission
  have unclosed := aloof.closed (sender.stream kind ticket)
  have pool := aloof.pool (sender.stream kind ticket)
  revert unclosed pool
  rcases streamObject answer (sender.stream kind ticket) emission with ⟨fault | ⟨⟩, stream⟩
  · intro unclosed pool
    obtain ⟨buffer, closed⟩ := (stream.fail (fault.toSendError typeName)).pool_close unclosed
    exact ⟨buffer, closed.trans (congrArg (BufferPool.release · buffer) pool)⟩
  · intro unclosed pool
    obtain ⟨buffer, closed⟩ := stream.pool_close unclosed
    exact ⟨buffer, closed.trans (congrArg (BufferPool.release · buffer) pool)⟩

theorem pool_sendFrame (sender : Sender types σ) (frame : Frame) (ticket : Ticket) (mode : BatchMode) :
    (sender.sendFrame frame ticket mode).session.pool = sender.session.pool :=
  congrArg (·.2.session.pool) (sender.dispatch_withPool sender.session.pool frame ticket mode)

/-- An object with a streaming encoder has one buffer. -/
theorem lendsOnce_encodeObject (sender : Sender types σ) {object : Option types.Object} {ticket : Ticket}
    (streams : sender.opensStream (.object object ticket) = true) :
    ∃ kind, sender.session.pool.LendsOnce (max (sender.session.settings.bufferSize kind) 1)
      (sender.encodeObject object ticket).2.session.pool := by
  rcases object with _ | object
  · cases streams
  · revert streams
    unfold opensStream encodeObject
    dsimp only
    rcases sender.session.registry.lookup object with _ | ⟨key, encode | encode | encode | encode⟩
    case some.textStream => exact fun _ => ⟨.text, lendsOnce_streamObject aloof_writeText sender .text ticket _ _⟩
    case some.binaryStream => exact fun _ => ⟨.binary, lendsOnce_streamObject aloof_act sender .binary ticket _ _⟩
    all_goals exact nofun

/-- Any other object does without the pool. -/
theorem pool_encodeObject (sender : Sender types σ) {object : Option types.Object} {ticket : Ticket}
    (whole : sender.opensStream (.object object ticket) = false) :
    (sender.encodeObject object ticket).2.session.pool = sender.session.pool := by
  rcases object with _ | object
  · rfl
  · revert whole
    unfold opensStream encodeObject
    dsimp only
    rcases sender.session.registry.lookup object with _ | ⟨key, encode | encode | encode | encode⟩
    · exact fun _ => rfl
    · intro _
      dsimp only
      rcases encode object with fault | text
      · rfl
      · exact sender.pool_sendFrame _ _ _
    · exact nofun
    · intro _
      dsimp only
      rcases encode object with fault | bytes
      · rfl
      · exact sender.pool_sendFrame _ _ _
    · exact nofun

theorem pool_sendObject (sender : Sender types σ) (object : Option types.Object) (ticket : Ticket) :
    (sender.sendObject object ticket).2.session.pool = (sender.encodeObject object ticket).2.session.pool := by
  unfold sendObject
  rcases sender.encodeObject object ticket with ⟨error | ⟨⟩, after⟩ <;> rfl

end Sender

/-! ## Nothing leaks -/

namespace MessageStream

variable {types : ValueTypes} {σ : Type} [Carrier σ]

/-- Buffers that are used again leak neither what they held nor themselves. Whatever has happened to the buffers of a pool,
one that is taken out is empty and has the room that was asked for, and no more are idle than may be. Over any two
pools, whatever others make of them meanwhile, a stream gives the same answers to the same events and leaves the same
sender but for its pool: the log of its carrier and the ledger are the same. A stream takes one buffer out when it
begins, gives one back when it is first closed or dropped, and has nothing else to do with the pool. The same goes for
an object that is streamed, whatever becomes of it; any other object leaves the pool alone. -/
theorem pooled_buffers_leak_nothing (sender : Sender types (Logged σ)) (maxIdle : Nat) (history : List PoolEvent) :
    let pool := ((Lending.ofMaxIdle maxIdle).afterAll history).pool
    pool.idleCount ≤ maxIdle ∧
    (∀ capacity, (pool.acquire capacity).1.toBytes = [] ∧ capacity ≤ (pool.acquire capacity).1.capacity) ∧
    (∀ kind size ticket events,
      let begun (pool : BufferPool) := (start (sender.withPool pool) kind size).setTicket ticket
      let taken := (pool.acquire (max size 1)).2
      let after := ((begun pool).afterAll events).finish.session.pool
      (∀ ours theirs others, List.Forall₂ StreamEvent.Alike events others →
        (begun theirs).replies others = (begun ours).replies events ∧
          ((begun ours).afterAll events).finish.SameButPool ((begun theirs).afterAll others).finish) ∧
      ((∀ event ∈ events, event.closes = false) →
        ((begun pool).afterAll events).sender.session.pool = taken.amid events) ∧
      (∃ buffer, after =
        ((taken.amid (events.takeWhile (!·.closes))).release buffer).amid (events.dropWhile (!·.closes))) ∧
      ((∀ event ∈ events, event.pool? = none) → after.idleCount = max pool.idleCount (min 1 maxIdle))) ∧
    (∀ object ticket,
      let sent (pool : BufferPool) := (sender.withPool pool).sendObject object ticket
      let after := (sent pool).2.session.pool
      (∀ ours theirs, (sent theirs).1 = (sent ours).1 ∧ (sent ours).2.SameButPool (sent theirs).2) ∧
      (sender.opensStream (.object object ticket) = true →
        (∃ kind, pool.LendsOnce (max (sender.session.settings.bufferSize kind) 1) after) ∧
          after.idleCount = max pool.idleCount (min 1 maxIdle)) ∧
      (sender.opensStream (.object object ticket) = false → after = pool)) := by
  intro pool
  have bounded : pool.Bounded maxIdle := Lending.bounded_afterAll (Lending.bounded_ofMaxIdle maxIdle) history
  refine ⟨bounded.within, fun capacity => ⟨pool.toBytes_acquire capacity, pool.room_acquire capacity⟩, ?_, ?_⟩
  · intro kind size ticket events begun taken after
    refine ⟨?_, ?_, ?_, ?_⟩
    · exact fun ours theirs _ alike => run_withPool sender ours theirs kind size ticket alike
    · exact fun unclosed => ((begun pool).pool_afterAll events (.inl unclosed)).2
    · exact (begun pool).pool_finish rfl events
    · intro alone
      exact (lendsOnce_finish alone).idleCount bounded
  · intro object ticket sent after
    have encoded : after = ((sender.withPool pool).encodeObject object ticket).2.session.pool :=
      (sender.withPool pool).pool_sendObject object ticket
    refine ⟨fun ours theirs => (sender.withPool ours).sendObject_onPool theirs object ticket, ?_, ?_⟩
    · intro streams
      obtain ⟨kind, lends⟩ := (sender.withPool pool).lendsOnce_encodeObject streams
      rw [encoded]
      exact ⟨⟨kind, lends⟩, lends.idleCount bounded⟩
    · intro whole
      rw [encoded]
      exact (sender.withPool pool).pool_encodeObject whole

/-- A message that fails gives its buffer back with what was not sent. The next message does not see it. -/
example :
    let sender : Sender catalogue ScriptedCarrier := .start (.ofRegistry .empty) .accepting .empty
    let failed := (((sender.stream .text 0).write [1, 2, 3]).2.fail .closed).finish
    failed.session.pool.idle.map Buffer.toBytes = [[1, 2, 3]] ∧ (failed.stream .text 0).buffer.toBytes = [] := by
  decide +kernel

end MessageStream
end Egress
