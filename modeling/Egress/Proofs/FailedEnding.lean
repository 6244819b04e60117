import Egress.Proofs.Filling
import Egress.Proofs.Framing

/-!
How a message ends that has failed. Closing its stream hands over an empty last frame if the carrier has taken a frame of
the message, so that the connection is not left in the middle of it, and nothing if the carrier has taken none. This holds
whatever message was open when the stream was begun, and whatever the carrier does.
-/
namespace Egress

open Monitor (Fits)

/-- The frames of a message that has failed before it was closed: fragments, and an empty last frame after them if one of
them was taken. -/
inductive CutShort : List Handover → Prop where
  | begun {fragments : List Handover} {last : Handover} (unended : ∀ handover ∈ fragments, handover.frame.final = false)
    (taken : ∃ handover ∈ fragments, handover.taken = true) (empty : last.frame = ⟨.continuation, true, []⟩) :
    CutShort (fragments ++ [last])
  | unbegun {fragments : List Handover} (unended : ∀ handover ∈ fragments, handover.frame.final = false)
    (untaken : ∀ handover ∈ fragments, handover.taken = false) : CutShort fragments

namespace MessageStream

variable {types : ValueTypes} {σ : Type}

/-- A stream that is not closed yet. Since the log was as given it has handed over fragments. Once one of them was taken,
its message is the open one; and its frames are rejected only while a message of the other kind is open. -/
structure Proceeds (log : List Handover) (stream : MessageStream types (Logged σ)) : Prop where
  unclosed : stream.closed = false
  fragments : ∃ message, stream.sender.log = log ++ message ∧ (∀ handover ∈ message, handover.frame.final = false) ∧
    ((∃ handover ∈ message, handover.taken = true) ↔ 0 < stream.framesSent)
  begun : 0 < stream.framesSent → stream.sender.openMessage = some stream.kind
  rejected : stream.rejected = true → ¬ Fits stream.sender.openMessage stream.opcode

variable {stream after : MessageStream types (Logged σ)} {log : List Handover}

theorem proceeds_start (sender : Sender types (Logged σ)) (kind : MessageKind) (bufferSize : Nat) :
    (start sender kind bufferSize).Proceeds sender.log := by
  rw [start_eq]
  exact ⟨rfl, ⟨[], (List.append_nil _).symm, fun _ member => absurd member List.not_mem_nil, by simp⟩,
    fun some => absurd some (Nat.lt_irrefl 0), nofun⟩

/-- What has to do with neither the frames nor the open message. -/
theorem Proceeds.same (proceeds : stream.Proceeds log) (closed : after.closed = stream.closed)
    (logged : after.sender.log = stream.sender.log) (openMessage : after.sender.openMessage = stream.sender.openMessage)
    (kind : after.kind = stream.kind) (framesSent : after.framesSent = stream.framesSent)
    (rejected : after.rejected = stream.rejected) : after.Proceeds log where
  unclosed := closed.trans proceeds.unclosed
  fragments := by
    rw [logged, framesSent]
    exact proceeds.fragments
  begun := by
    rw [openMessage, framesSent, kind]
    exact proceeds.begun
  rejected := by
    unfold opcode
    rw [openMessage, framesSent, kind, rejected]
    exact proceeds.rejected

/-- A message that has begun goes on. -/
theorem Proceeds.fits (proceeds : stream.Proceeds log) (begun : 0 < stream.framesSent) :
    Fits stream.sender.openMessage stream.opcode := by
  rw [proceeds.begun begun, opcode, if_neg (Nat.ne_of_gt begun)]
  exact .inl rfl

theorem Proceeds.unrejected (proceeds : stream.Proceeds log) (begun : 0 < stream.framesSent) : stream.rejected = false :=
  Bool.eq_false_iff.mpr fun rejected => proceeds.rejected rejected (proceeds.fits begun)

/-- The message that is open while a frame of the stream is handed over is its own. -/
theorem Proceeds.opens (proceeds : stream.Proceeds log) (fits : Fits stream.sender.openMessage stream.opcode) :
    stream.sender.openMessage.or stream.opcode.kind? = some stream.kind := by
  by_cases first : stream.framesSent = 0
  · rw [opcode, if_pos first] at fits ⊢
    rw [MessageKind.kind?_opcode]
    cases before : stream.sender.openMessage with
    | none => rfl
    | some other =>
      rw [before] at fits
      rcases fits with continues | begins
      · revert continues
        cases stream.kind <;> exact nofun
      · have same := congrArg Opcode.kind? begins
        rw [MessageKind.kind?_opcode, MessageKind.kind?_opcode] at same
        exact same.symm
  · rw [proceeds.begun (Nat.pos_of_ne_zero first)]
    rfl

/-- What becomes of a stream when a frame of it was handed over. If the first one was refused, its message is given up. -/
theorem afterDelivery_handed (stream : MessageStream types (Logged σ)) (final taken : Bool) :
    let after := stream.afterDelivery final (if taken then .accepted else .refused)
    after.rejected = stream.rejected ∧ after.sender.log = stream.sender.log ∧
      after.framesSent = (if taken then stream.framesSent + 1 else stream.framesSent) ∧
      after.sender.openMessage =
        if taken = false ∧ final = false ∧ stream.framesSent = 0 then none else stream.sender.openMessage := by
  intro after
  cases taken with
  | true => exact ⟨rfl, rfl, rfl, rfl⟩
  | false =>
    have same : after = if final = false ∧ stream.framesSent = 0 then { stream with sender := stream.sender.abandonMessage }
      else stream := rfl
    rw [same]
    by_cases unbegun : final = false ∧ stream.framesSent = 0
    · rw [if_pos unbegun]
      exact ⟨rfl, rfl, rfl, (if_pos ⟨rfl, unbegun⟩).symm⟩
    · rw [if_neg unbegun]
      exact ⟨rfl, rfl, rfl, (if_neg fun given => unbegun given.2).symm⟩

variable [Carrier σ]

/-- The next frame is rejected, or it is handed over. -/
theorem handOver_cases (stream : MessageStream types (Logged σ)) (final : Bool) :
    (¬ Fits stream.sender.openMessage stream.opcode ∧ (stream.handOver final).sender.log = stream.sender.log ∧
      (stream.handOver final).sender.openMessage = stream.sender.openMessage ∧
      (stream.handOver final).framesSent = stream.framesSent) ∨
    (Fits stream.sender.openMessage stream.opcode ∧ (stream.handOver final).rejected = stream.rejected ∧
      ∃ next : Handover, next.frame = stream.nextFrame final ∧
        (stream.handOver final).sender.log = stream.sender.log ++ [next] ∧
        (stream.handOver final).framesSent = (if next.taken then stream.framesSent + 1 else stream.framesSent) ∧
        (stream.handOver final).sender.openMessage =
          if next.taken = false ∧ final = false ∧ stream.framesSent = 0 then none
          else if final then none else stream.sender.openMessage.or stream.opcode.kind?) := by
  unfold handOver
  rcases stream.sendNext_cases final with
    ⟨unfit, after, sent, logged, kept⟩ | ⟨next, after, sent, fits, frame, logged, opened⟩
  · rw [sent]
    exact .inl ⟨unfit, logged, kept, rfl⟩
  · rw [sent]
    obtain ⟨rejected, log, framesSent, openMessage⟩ :=
      afterDelivery_handed { stream with sender := after, buffer := stream.buffer.drained } final next.taken
    rw [opened] at openMessage
    exact .inr ⟨fits, rejected, next, frame, log.trans logged, framesSent, openMessage⟩

/-- A fragment is rejected, taken or refused. -/
theorem Proceeds.handOver (proceeds : stream.Proceeds log) : (stream.handOver false).Proceeds log := by
  obtain ⟨message, sent, unended, taken⟩ := proceeds.fragments
  have closed : (stream.handOver false).closed = false := (stream.closed_handOver false).trans proceeds.unclosed
  have kind : (stream.handOver false).kind = stream.kind := (stream.handOver_keeps false).1
  rcases stream.handOver_cases false with ⟨unfit, logged, openMessage, framesSent⟩ |
    ⟨fits, rejected, next, frame, logged, framesSent, openMessage⟩
  · refine ⟨closed, ⟨message, logged.trans sent, unended, framesSent ▸ taken⟩, ?_, fun _ => ?_⟩
    · rw [openMessage, framesSent, kind]
      exact proceeds.begun
    · unfold opcode
      rw [openMessage, framesSent, kind]
      exact unfit
  · rw [if_neg Bool.false_ne_true, proceeds.opens fits] at openMessage
    refine ⟨closed, ⟨message ++ [next], ?_, ?_, ?_⟩, ?_, fun before => ?_⟩
    · rw [logged, sent, List.append_assoc]
    · intro handover member
      rcases List.mem_append.mp member with old | new
      · exact unended handover old
      · cases List.mem_singleton.mp new
        rw [frame]
        rfl
    · simp only [List.mem_append, List.mem_singleton, or_and_right, exists_or, exists_eq_left, taken, framesSent]
      cases next.taken <;> simp
    · intro some
      rw [openMessage, kind]
      refine if_neg ?_
      rintro ⟨refused, _, unbegun⟩
      rw [framesSent, refused, unbegun] at some
      exact absurd some (Nat.lt_irrefl 0)
    · exact absurd fits (proceeds.rejected (rejected ▸ before))

/-- Until it is closed a stream proceeds, whatever happens. -/
theorem endures_proceeds :
    Endures (· ≠ .close) fun _ (stream : MessageStream types (Logged σ)) => stream.Proceeds log where
  joins _ proceeds _ := proceeds.same rfl rfl rfl rfl rfl rfl
  sends proceeds := proceeds.handOver
  stops _ proceeds _ := proceeds
  unclosing closing := closing rfl
  unclosed proceeds := proceeds.unclosed
  fails _ proceeds := proceeds.same rfl rfl rfl rfl rfl rfl
  attaches _ proceeds := proceeds.same rfl rfl rfl rfl rfl rfl
  elsewhere {_ _ event} _ proceeds := by cases event <;> exact proceeds.same rfl rfl rfl rfl rfl rfl

/-- Closing a stream whose message has failed hands over an empty last frame if a frame of the message was taken, and
nothing otherwise. -/
theorem Proceeds.finish (proceeds : stream.Proceeds log) (failed : stream.failure ≠ none) :
    ∃ message, stream.finish.log = log ++ message ∧ CutShort message := by
  obtain ⟨message, sent, unended, taken⟩ := proceeds.fragments
  obtain ⟨error, recorded⟩ := Option.ne_none_iff_exists'.mp failed
  have closing : ({ stream with closed := true } : MessageStream types (Logged σ)).failure = some error := recorded
  unfold MessageStream.finish close
  rw [if_neg (by simp [proceeds.unclosed])]
  show ∃ message, (sendLast _).sender.log = log ++ message ∧ CutShort message
  unfold sendLast
  rw [closing]
  dsimp only
  split
  case isTrue begun =>
    -- the guard lets the last frame pass, for the message is open
    rw [emit_snd]
    let last : MessageStream types (Logged σ) := { stream with closed := true, buffer := stream.buffer.clear }
    rcases last.handOver_cases true with ⟨unfit, _⟩ | ⟨_, _, next, frame, logged, _⟩
    · exact absurd (proceeds.fits begun.2) unfit
    · refine ⟨message ++ [next], ?_, .begun unended (taken.mpr begun.2) ?_⟩
      · rw [← List.append_assoc, ← sent]
        exact logged
      · rw [frame, nextFrame, opcode, if_neg (Nat.ne_of_gt begun.2)]
        exact congrArg _ (Buffer.toBytes_clear _)
  case isFalse unbegun =>
    refine ⟨message, sent, .unbegun unended fun handover member => Bool.eq_false_iff.mpr fun some => ?_⟩
    have begun : 0 < stream.framesSent := taken.mp ⟨handover, member, some⟩
    exact unbegun ⟨proceeds.unrejected begun, begun⟩

end MessageStream
end Egress
