import Egress.Proofs.AfterFailure
import Egress.Proofs.ObjectStreams

/-!
The open message after a stream. A stream that is begun while no message is open leaves none open when it is closed,
whatever the carrier does with its frames. A stream that is begun while a message of the other kind is open gets no frame
past the rules of framing, and leaves that message open. The same holds of objects, whatever their encoders do.
-/
namespace Egress

open Monitor (Fits)

namespace MessageStream

variable {types : ValueTypes} {σ : Type} [Carrier σ]

section Own

variable {stream : MessageStream types σ}

/-- A fragment is taken, or refused; either way the next frame fits. -/
theorem Fitting.handOver (fitting : stream.Fitting) :
    (stream.handOver false).Fitting ∧ (stream.handOver false).rejected = stream.rejected := by
  rcases verdict : (stream.answer false).1 with error | ⟨⟩
  · obtain ⟨_, _, rejected, still⟩ := fitting.handOver_of_refused verdict
    exact ⟨still rfl, rejected⟩
  · rw [fitting.handOver_of_taken verdict]
    exact ⟨rfl, rfl⟩

/-- With its last frame a message ends, whether or not the frame is taken. -/
theorem Fitting.handOver_true (fitting : stream.Fitting) : (stream.handOver true).sender.openMessage = none := by
  rw [sender_handOver_true, fitting.sendNext]
  rfl

/-- As long as a stream is not closed, every frame of it fits; once it is closed, no message is open. -/
structure Released (stream : MessageStream types σ) : Prop where
  fitting : stream.closed = false → stream.Fitting ∧ stream.rejected = false
  ended : stream.closed = true → stream.sender.openMessage = none

omit [Carrier σ] in
theorem released_start {sender : Sender types σ} (unopened : sender.openMessage = none) (kind : MessageKind) (bufferSize : Nat)
    (ticket : Ticket) : ((start sender kind bufferSize).setTicket ticket).Released := by
  rw [start_eq]
  exact ⟨fun _ => ⟨unopened, rfl⟩, nofun⟩

omit [Carrier σ] in
theorem released_of_fitting (unclosed : stream.closed = false) (fitting : stream.Fitting)
    (unrejected : stream.rejected = false) : stream.Released := by
  refine ⟨fun _ => ⟨fitting, unrejected⟩, fun closed => ?_⟩
  rw [unclosed] at closed
  cases closed

namespace Released

theorem emit (released : stream.Released) (unclosed : stream.closed = false) : (stream.emit false).2.Released := by
  obtain ⟨fitting, unrejected⟩ := released.fitting unclosed
  obtain ⟨still, kept⟩ := fitting.handOver
  rw [emit_snd]
  exact released_of_fitting ((stream.handOver_own false).2.2.trans unclosed) still (kept.trans unrejected)

theorem write (released : stream.Released) (data : Bytes) : (stream.write data).2.Released := by
  by_cases closed : stream.closed = true
  · unfold MessageStream.write
    rw [if_pos closed]
    exact released
  · have unclosed : stream.closed = false := Bool.eq_false_iff.mpr closed
    refine (write_keeps (fun stream => stream.Released ∧ stream.closed = false) ?_ ?_ ⟨released, unclosed⟩ data).1
    · rintro stream bytes ⟨released, unclosed⟩
      obtain ⟨fitting, unrejected⟩ := released.fitting unclosed
      exact ⟨released_of_fitting unclosed fitting unrejected, unclosed⟩
    · rintro stream ⟨released, unclosed⟩ -
      have sent := released.emit unclosed
      rw [emit_snd] at sent
      exact ⟨sent, (stream.handOver_own false).2.2.trans unclosed⟩

theorem flush (released : stream.Released) : stream.flush.2.Released := by
  unfold MessageStream.flush
  by_cases closed : stream.closed = true
  · rw [if_pos closed]
    exact released
  · rw [if_neg closed]
    split
    · exact released
    · exact released.emit (Bool.eq_false_iff.mpr closed)

theorem close (released : stream.Released) : stream.close.sender.openMessage = none := by
  unfold MessageStream.close
  by_cases closed : stream.closed = true
  · rw [if_pos closed]
    exact released.ended closed
  · rw [if_neg closed]
    obtain ⟨fitting, unrejected⟩ := released.fitting (Bool.eq_false_iff.mpr closed)
    let closing : MessageStream types σ := { stream with closed := true }
    show closing.sendLast.sender.openMessage = none
    unfold sendLast
    split
    case h_1 unfailed =>
      rw [if_neg (by simp [closing, unrejected]), emit_snd]
      have still : closing.Fitting := fitting
      exact still.handOver_true
    case h_2 error failed =>
      by_cases begun : closing.rejected = false ∧ 0 < closing.framesSent
      · rw [if_pos begun, emit_snd]
        have still : Fitting { closing with buffer := closing.buffer.clear } := fitting
        exact still.handOver_true
      · rw [if_neg begun]
        -- no frame was taken, so no message was begun
        have unbegun : stream.framesSent = 0 := Nat.eq_zero_of_not_pos fun some => begun ⟨unrejected, some⟩
        show stream.sender.openMessage = none
        rw [fitting, if_pos unbegun]

theorem after (released : stream.Released) (event : StreamEvent) : (stream.after event).Released := by
  cases event with
  | write data => exact released.write data
  | flush => exact released.flush
  | fail error => exact ⟨released.fitting, released.ended⟩
  | attach ticket => exact ⟨released.fitting, released.ended⟩
  | close =>
    refine ⟨fun unclosed => ?_, fun _ => released.close⟩
    cases stream.closed_close.symm.trans unclosed
  | elsewhere event => cases event <;> exact ⟨released.fitting, released.ended⟩

theorem afterAll (released : stream.Released) (events : List StreamEvent) : (stream.afterAll events).Released := by
  induction events generalizing stream with
  | nil => exact released
  | cons event events ih => exact ih (released.after event)

end Released

end Own

section Other

variable {stream later : MessageStream types (Logged σ)} {other : MessageKind} {log : List Handover}

omit [Carrier σ] in
/-- A message of the other kind is open, and the stream has got no frame through since the log was as given. -/
structure Blocked (other : MessageKind) (log : List Handover) (stream : MessageStream types (Logged σ)) : Prop where
  kind : stream.kind ≠ other
  openMessage : stream.sender.openMessage = some other
  unbegun : stream.framesSent = 0
  log : stream.sender.log = log

omit [Carrier σ] in
theorem blocked_start {sender : Sender types (Logged σ)} (openMessage : sender.openMessage = some other) {kind : MessageKind}
    (different : kind ≠ other) (bufferSize : Nat) (ticket : Ticket) :
    ((start sender kind bufferSize).setTicket ticket).Blocked other sender.log := by
  rw [start_eq]
  exact ⟨different, openMessage, rfl, rfl⟩

namespace Blocked

omit [Carrier σ] in
theorem same (blocked : stream.Blocked other log) (kind : later.kind = stream.kind)
    (openMessage : later.sender.openMessage = stream.sender.openMessage) (framesSent : later.framesSent = stream.framesSent)
    (logged : later.sender.log = stream.sender.log) : later.Blocked other log :=
  ⟨kind ▸ blocked.kind, openMessage.trans blocked.openMessage, framesSent.trans blocked.unbegun, logged.trans blocked.log⟩

/-- The first frame of a message does not fit while a message of the other kind is open. -/
theorem handOver (blocked : stream.Blocked other log) (final : Bool) : (stream.handOver final).Blocked other log := by
  rcases stream.sendNext_cases final with ⟨_, sender, sent, logged, kept⟩ | ⟨_, _, _, fits, _⟩
  · unfold MessageStream.handOver
    rw [sent]
    exact blocked.same rfl kept rfl logged
  · rw [blocked.openMessage, opcode, if_pos blocked.unbegun] at fits
    have different := blocked.kind
    rcases fits with continues | begins
    · revert continues
      cases stream.kind <;> intro continues <;> cases continues
    · revert begins different
      cases stream.kind <;> cases other <;> intro different begins <;> first | exact absurd rfl different | cases begins

theorem write (blocked : stream.Blocked other log) (data : Bytes) : (stream.write data).2.Blocked other log :=
  write_keeps (Blocked other log) (fun _ blocked => blocked.same rfl rfl rfl rfl) (fun blocked _ => blocked.handOver false)
    blocked data

theorem flush (blocked : stream.Blocked other log) : stream.flush.2.Blocked other log := by
  unfold MessageStream.flush
  split
  · exact blocked
  · split
    · exact blocked
    · rw [emit_snd]
      exact blocked.handOver false

theorem sendLast (blocked : stream.Blocked other log) : stream.sendLast.Blocked other log := by
  unfold MessageStream.sendLast
  split
  · split
    · exact blocked.same rfl rfl rfl rfl
    · rw [emit_snd]
      exact blocked.handOver true
  · split
    · have cleared : Blocked other log { stream with buffer := stream.buffer.clear } := blocked.same rfl rfl rfl rfl
      rw [emit_snd]
      exact cleared.handOver true
    · exact blocked.same rfl rfl rfl rfl

theorem close (blocked : stream.Blocked other log) : stream.close.Blocked other log := by
  unfold MessageStream.close
  split
  · exact blocked
  · have closing : Blocked other log { stream with closed := true } := blocked.same rfl rfl rfl rfl
    exact closing.sendLast.same rfl rfl rfl rfl

theorem after (blocked : stream.Blocked other log) (event : StreamEvent) : (stream.after event).Blocked other log := by
  cases event with
  | write data => exact blocked.write data
  | flush => exact blocked.flush
  | fail error => exact blocked.same rfl rfl rfl rfl
  | attach ticket => exact blocked.same rfl rfl rfl rfl
  | close => exact blocked.close
  | elsewhere event => cases event <;> exact blocked.same rfl rfl rfl rfl

theorem afterAll (blocked : stream.Blocked other log) (events : List StreamEvent) :
    (stream.afterAll events).Blocked other log := by
  induction events generalizing stream with
  | nil => exact blocked
  | cons event events ih => exact ih (blocked.after event)

end Blocked

end Other

end MessageStream

namespace Sender

open MessageStream

variable {types : ValueTypes} {σ : Type} [Carrier σ] {sender : Sender types (Logged σ)} {other : MessageKind}

/-- A message in one frame is over at once. -/
theorem openMessage_sendFrame (unopened : sender.openMessage = none) (message : Message) (ticket : Ticket) (mode : BatchMode) :
    (sender.sendFrame message.frame ticket mode).openMessage = none := by
  have data : message.frame.isData = true := message.kind.isData_opcode
  unfold sendFrame
  rcases sender.dispatch_cases message.frame ticket mode with ⟨_, error, rejected⟩ | ⟨_, handover, _, _, _, effect⟩
  · rw [rejected]
    exact unopened
  · rw [if_pos data] at effect
    exact effect.2

/-- A message of one kind does not begin while one of the other kind is open. -/
theorem sendFrame_of_other (openMessage : sender.openMessage = some other) {kind : MessageKind} (different : kind ≠ other)
    (frame : Frame) (opcode : frame.opcode = kind.opcode) (ticket : Ticket) (mode : BatchMode) :
    (sender.sendFrame frame ticket mode).openMessage = some other ∧ (sender.sendFrame frame ticket mode).log = sender.log := by
  have data : frame.isData = true := by
    rw [Frame.isData, opcode]
    exact kind.isData_opcode
  unfold sendFrame
  rcases sender.dispatch_cases frame ticket mode with ⟨_, error, rejected⟩ | ⟨permitted, _⟩
  · rw [rejected]
    exact ⟨openMessage, rfl⟩
  · rw [Permits, Monitor.MaySend, if_pos data, openMessage, opcode] at permitted
    rcases permitted with continues | begins
    · cases kind <;> cases continues
    · cases kind <;> cases other <;> first | exact absurd rfl different | cases begins

theorem openMessage_render (unopened : sender.openMessage = none) (ticket : Ticket) (rendering : Rendering) :
    (sender.render ticket rendering).openMessage = none := by
  cases rendering with
  | nothing => exact unopened
  | whole message => exact openMessage_sendFrame unopened message ticket _
  | streamed kind events => exact ((released_start unopened kind _ ticket).afterAll events).close

theorem render_of_other (openMessage : sender.openMessage = some other) (ticket : Ticket) {rendering : Rendering}
    (different : rendering.kind? ≠ some other) :
    (sender.render ticket rendering).openMessage = some other ∧ (sender.render ticket rendering).log = sender.log := by
  cases rendering with
  | nothing => exact ⟨openMessage, rfl⟩
  | whole message => exact sendFrame_of_other openMessage (fun same => different (congrArg some same)) message.frame rfl ticket _
  | streamed kind events =>
    have begun := blocked_start openMessage (fun same => different (congrArg some same)) (sender.session.settings.bufferSize kind) ticket
    have closed := (begun.afterAll events).close
    exact ⟨closed.openMessage, closed.log⟩

/-- A streamed message and an object leave the open message as they found it. If no message is open, none is open when
the stream has been closed or dropped, or the object sent, whatever is written, whatever fails, and whatever the carrier
does. If a message of the other kind is open, it stays open all the while, and no frame is handed to the carrier. -/
theorem open_message_left_as_found (sender : Sender types (Logged σ)) :
    (sender.openMessage = none →
      (∀ kind bufferSize ticket events,
        let stream := ((MessageStream.start sender kind bufferSize).setTicket ticket).afterAll events
        (stream.closed = true → stream.sender.openMessage = none) ∧ stream.finish.openMessage = none) ∧
      ∀ object ticket, (sender.sendObject object ticket).2.openMessage = none) ∧
    ∀ other, sender.openMessage = some other →
      (∀ kind bufferSize ticket events, kind ≠ other →
        let stream := ((MessageStream.start sender kind bufferSize).setTicket ticket).afterAll events
        (stream.sender.openMessage = some other ∧ stream.sender.log = sender.log) ∧
        stream.finish.openMessage = some other ∧ stream.finish.log = sender.log) ∧
      ∀ object ticket, sender.kindOf? object ≠ some other →
        (sender.sendObject object ticket).2.openMessage = some other ∧
        (sender.sendObject object ticket).2.log = sender.log := by
  constructor
  · intro unopened
    constructor
    · intro kind bufferSize ticket events stream
      have released : stream.Released := (released_start unopened kind bufferSize ticket).afterAll events
      exact ⟨released.ended, released.close⟩
    · intro object ticket
      rw [(sender.sendObject_frames object ticket).1, encodeObject_snd]
      exact openMessage_render unopened ticket _
  · intro other openMessage
    constructor
    · intro kind bufferSize ticket events different stream
      have blocked : stream.Blocked other sender.log := (blocked_start openMessage different bufferSize ticket).afterAll events
      exact ⟨⟨blocked.openMessage, blocked.log⟩, blocked.close.openMessage, blocked.close.log⟩
    · intro object ticket different
      obtain ⟨unchanged, unlogged⟩ := sender.sendObject_frames object ticket
      rw [unchanged, unlogged, encodeObject_snd]
      exact render_of_other openMessage ticket fun made => different (kindOf?_of_rendering made)

/-- A sender whose carrier takes one frame and refuses the next. -/
def faltering : Sender catalogue (Logged ScriptedCarrier) := replying [.accept, .refuse .backpressure]

/-- The same in the middle of a binary message. -/
def midBinary : Sender catalogue (Logged ScriptedCarrier) := faltering.sendPartial .binary [1] false 0

/-- A text of two frames, a flush, a failure, and the end. -/
def shortEvents : List StreamEvent := [.write [97, 98], .flush, .elsewhere .work, .fail .backpressure, .close]

/-- A text stream and an object while no message is open, and in the middle of a binary message. -/
theorem open_message_left_as_found_busy :
    (faltering.openMessage = none ∧
      (((MessageStream.start faltering .text 1).setTicket 0).afterAll shortEvents).finish.openMessage = none ∧
      (faltering.sendObject (some twoTexts) 0).2.openMessage = none) ∧
    midBinary.openMessage = some .binary ∧
    (((MessageStream.start midBinary .text 1).setTicket 0).afterAll shortEvents).finish.log = midBinary.log ∧
    (midBinary.sendObject (some twoTexts) 0).2.openMessage = some .binary ∧
    (midBinary.sendObject (some twoTexts) 0).2.log = midBinary.log := by
  have unopened : faltering.openMessage = none := rfl
  have open_ : midBinary.openMessage = some .binary := by decide +kernel
  have different : midBinary.kindOf? (some twoTexts) ≠ some .binary := by decide +kernel
  obtain ⟨streams, objects⟩ := (open_message_left_as_found faltering).1 unopened
  obtain ⟨others, otherObjects⟩ := (open_message_left_as_found midBinary).2 .binary open_
  exact ⟨⟨unopened, (streams .text 1 0 shortEvents).2, objects (some twoTexts) 0⟩, open_,
    (others .text 1 0 shortEvents nofun).2.2, otherObjects (some twoTexts) 0 different⟩

end Sender
end Egress
