import Egress.Proofs.Traffic
import Egress.Proofs.WriterEnding

/-!
Frames that wait. When a worker rests, its batch holds the last frames that were accepted, as many as wait for a flush,
and each of these was sent in mode on. So once a flush or a frame of another mode has been accepted after them, nothing
is left: all that was accepted has been written, and completed with success.
-/
namespace Egress

/-- The mode in which a frame was sent. -/
def Command.mode? : Command → Option BatchMode
  | .frame _ _ mode => some mode
  | .flush _ => none

namespace Writer

/-- The batch holds the frames of some commands. They wait for a flush, unless the batch is due at the end of the
pass. -/
structure Waits (waiting : List Command) (writer : Writer) : Prop where
  tickets : writer.batch.tickets = waiting.map Command.ticket
  modes : ∀ command ∈ waiting, command.mode? = some .on ∨ writer.autoDue = true
  due : writer.autoDue = true → writer.activity = .ready ∧ 0 < writer.taken

variable {writer after : Writer} {waiting : List Command}

/-- No frame waits in a batch that is empty. -/
theorem waits_of_clear (tickets : writer.batch.tickets = []) (undue : writer.autoDue = false) : writer.Waits [] := by
  refine ⟨tickets, List.forall_mem_nil _, fun due => ?_⟩
  rw [undue] at due
  cases due

/-- Before a pass takes a command, nothing is due. -/
theorem Waits.undue (waits : writer.Waits waiting) (untaken : writer.taken = 0) : writer.autoDue = false := by
  refine Bool.eq_false_iff.mpr fun due => ?_
  have taken := (waits.due due).2
  omega

theorem waits_writeOut (paired : writer.Paired) (undue : writer.autoDue = false) (purpose : Purpose) :
    (writer.writeOut purpose).Waits [] := by
  unfold writeOut
  split
  case isTrue empty => cases purpose <;> exact waits_of_clear (paired.clear empty).tickets undue
  case isFalse => exact waits_of_clear rfl undue

/-- The writer when a frame has joined its batch. -/
def joined (writer : Writer) (frame : Frame) (ticket : Ticket) (mode : BatchMode) : Writer :=
  let added := writer.addFrame frame ticket
  if mode = .auto then { added with autoDue := true } else added

theorem process_frame (writer : Writer) (frame : Frame) (ticket : Ticket) (mode : BatchMode) :
    writer.process (.frame frame ticket mode) =
      if (writer.joined frame ticket mode).mustWrite mode then
        { writer.joined frame ticket mode with autoDue := false }.writeOut .pass
      else writer.joined frame ticket mode := rfl

/-- Joining a batch leaves what the worker is at as it is. -/
theorem joined_keeps (writer : Writer) (frame : Frame) (ticket : Ticket) (mode : BatchMode) :
    let after := writer.joined frame ticket mode
    after.batch = (writer.addFrame frame ticket).batch ∧ after.activity = writer.activity ∧ after.taken = writer.taken ∧
      after.queue = writer.queue := by
  unfold joined
  dsimp only
  split <;> exact ⟨rfl, rfl, rfl, rfl⟩

theorem paired_joined (paired : writer.Paired) (frame : Frame) (ticket : Ticket) (mode : BatchMode) :
    (writer.joined frame ticket mode).Paired := by
  have lengths : writer.batch.tickets.length = writer.batch.frames.length := paired
  obtain ⟨batch, _⟩ := writer.joined_keeps frame ticket mode
  simp [Paired, batch, addFrame, Batch.push, lengths]

/-- A frame that joins the batch and is not written waits after the others. -/
theorem waits_joined (idle : writer.activity = .ready) (begun : 0 < writer.taken) (waits : writer.Waits waiting)
    (frame : Frame) (ticket : Ticket) {mode : BatchMode} (later : ¬ (writer.joined frame ticket mode).mustWrite mode = true) :
    (writer.joined frame ticket mode).Waits (waiting ++ [.frame frame ticket mode]) := by
  obtain ⟨batch, activity, taken, _⟩ := writer.joined_keeps frame ticket mode
  refine ⟨?_, ?_, fun _ => ⟨activity.trans idle, taken ▸ begun⟩⟩
  · rw [batch, List.map_append, ← waits.tickets]
    rfl
  · intro command member
    cases mode with
    | off => exact absurd rfl later
    | auto => exact .inr rfl
    | on =>
      rcases List.mem_append.mp member with old | new
      · exact waits.modes command old
      · cases List.mem_singleton.mp new
        exact .inl rfl

/-- A command that is taken from the queue waits, or is written with all that waited before it. -/
theorem waits_process (paired : writer.Paired) (idle : writer.activity = .ready) (begun : 0 < writer.taken)
    (waits : writer.Waits waiting) (command : Command) :
    (writer.process command).Waits [] ∨ (writer.process command).Waits (waiting ++ [command]) := by
  cases command with
  | flush ticket =>
    have quiet : Writer.Paired { writer with autoDue := false } := paired
    exact .inl (waits_writeOut quiet rfl _)
  | frame frame ticket mode =>
    rw [process_frame]
    by_cases now : (writer.joined frame ticket mode).mustWrite mode
    · rw [if_pos now]
      have together := paired_joined paired frame ticket mode
      have quiet : Writer.Paired { writer.joined frame ticket mode with autoDue := false } := together
      exact .inl (waits_writeOut quiet rfl _)
    · rw [if_neg now]
      exact .inr (waits_joined idle begun waits frame ticket now)

theorem waits_endPass (paired : writer.Paired) (waits : writer.Waits waiting) :
    writer.endPass.Waits [] ∨ writer.endPass.Waits waiting := by
  unfold endPass
  split
  case isTrue =>
    have quiet : Writer.Paired { writer with autoDue := false } := paired
    exact .inl (waits_writeOut quiet rfl _)
  case isFalse undue => exact .inr ⟨waits.tickets, waits.modes, fun due => absurd due undue⟩

theorem queue_process (writer : Writer) (command : Command) : (writer.process command).queue = writer.queue := by
  cases command with
  | flush ticket => exact (alike_writeOut _).queue
  | frame frame ticket mode =>
    obtain ⟨_, _, _, queue⟩ := writer.joined_keeps frame ticket mode
    rw [process_frame]
    split
    · exact (alike_writeOut _).queue.trans queue
    · exact queue

theorem queue_endPass (writer : Writer) : writer.endPass.queue = writer.queue := by
  unfold endPass
  split
  · exact (alike_writeOut _).queue
  · exact (alike_goOn _).queue

/-- What waits afterwards waited before, or was first in the queue. -/
def Drains (waiting : List Command) (before after : Writer) : Prop :=
  ∃ gone still, waiting ++ before.queue = gone ++ still ++ after.queue ∧ after.Waits still

theorem drains_of_queue (queue : after.queue = writer.queue) (waits : after.Waits [] ∨ after.Waits waiting) :
    writer.Drains waiting after := by
  rcases waits with written | waits
  · exact ⟨waiting, [], by rw [queue, List.append_nil], written⟩
  · exact ⟨[], waiting, by rw [queue]; rfl, waits⟩

theorem drains_advance (paired : writer.Paired) (idle : writer.activity = .ready) (waits : writer.Waits waiting)
    (next : writer.advance? = some after) : writer.Drains waiting after := by
  rcases advance_cases next with ⟨command, rest, queue, rfl⟩ | ⟨_, rfl⟩ | ⟨_, untaken, _, rfl⟩
  · let fewer : Writer := { writer with queue := rest, taken := writer.taken + 1 }
    have still : fewer.Waits waiting := ⟨waits.tickets, waits.modes, fun _ => ⟨idle, Nat.succ_pos _⟩⟩
    have left : (fewer.process command).queue = rest := fewer.queue_process command
    have joined : fewer.Paired := paired
    rcases waits_process joined idle (Nat.succ_pos _) still command with written | waits
    · exact ⟨waiting ++ [command], [], by rw [queue, left]; simp, written⟩
    · exact ⟨[], waiting ++ [command], by rw [queue, left]; simp, waits⟩
  · exact drains_of_queue writer.queue_endPass (waits_endPass paired waits)
  · have undue : writer.autoDue = false := waits.undue untaken
    exact drains_of_queue (alike_writeOut _).queue (.inl (waits_writeOut paired undue _))

theorem Steps.drains {completions : List (Ticket × Outcome)} (steps : writer.Steps completions after) (filed : writer.Filed)
    (waits : writer.Waits waiting) : writer.Drains waiting after := by
  -- the batch of a worker that is at something else is empty
  have busy : writer.activity ≠ .ready → waiting = [] ∧ writer.batch.tickets = [] ∧ writer.autoDue = false := by
    intro busy
    have none := (filed.clear busy).tickets
    refine ⟨List.map_eq_nil_iff.mp (waits.tickets.symm.trans none), none, ?_⟩
    exact Bool.eq_false_iff.mpr fun due => busy (waits.due due).1
  have same : ∀ {after : Writer}, writer.activity ≠ .ready → after.batch = writer.batch → after.autoDue = writer.autoDue →
      after.queue = writer.queue → writer.Drains waiting after := by
    intro after other batch due queue
    obtain ⟨_, tickets, undue⟩ := busy other
    exact drains_of_queue queue (.inl (waits_of_clear (batch ▸ tickets) (due ▸ undue)))
  cases steps with
  | advanced idle next =>
    rw [Filed, idle] at filed
    exact drains_advance filed idle waits next
  | failed serves | called serves =>
    refine same (fun idle => ?_) rfl rfl rfl
    rw [idle] at serves
    cases serves
  | completed other | failedOne other | failedAll other | ended other =>
    exact same (by simp [other]) rfl rfl rfl
  | @wentOn purpose other =>
    exact same (by simp [other]) (by cases purpose <;> rfl) (by cases purpose <;> rfl) (alike_goOn purpose).queue
  | @drained command rest error other queue =>
    obtain ⟨none, tickets, undue⟩ := busy (by simp [other])
    exact ⟨[command], [], by rw [none, queue]; rfl, waits_of_clear tickets undue⟩

/-- A worker that rests and has not ended is between two passes, and its queue is empty. -/
theorem idle_of_rest (rest : writer.step? = none) (unended : writer.ended = none) :
    writer.activity = .ready ∧ writer.queue = [] ∧ writer.taken = 0 := by
  unfold step? at rest
  unfold ended at unended
  cases doing : writer.activity with
  | ready =>
    rw [doing] at rest
    have resting : writer.advance? = none := Option.map_eq_none_iff.mp rest
    unfold advance? at resting
    split at resting
    case h_1 => split at resting <;> cases resting
    case h_2 queue =>
      by_cases begun : 0 < writer.taken
      · rw [if_pos begun] at resting
        cases resting
      · exact ⟨rfl, queue, Nat.eq_zero_of_not_pos begun⟩
  | ended outcome =>
    rw [doing] at unended
    cases unended
  | writing | flushing =>
    rw [doing] at rest
    cases rest
  | completing tickets | failing tickets =>
    rw [doing] at rest
    cases tickets <;> cases rest
  | closing error =>
    rw [doing] at rest
    dsimp only at rest
    split at rest <;> cases rest

end Writer

namespace History

variable {key : Nat → Option MaskKey} {history : History}

/-- What waits in the batch was accepted last, but for what is in the queue. -/
theorem Arises.waits (arises : history.Arises key) :
    ∃ gone waiting, history.accepted = gone ++ waiting ++ history.writer.queue ∧ history.writer.Waits waiting := by
  induction arises with
  | start begun =>
    unfold Writer.start? at begun
    split at begun
    · cases begun
    · cases begun
      exact ⟨[], [], rfl, Writer.waits_of_clear rfl rfl⟩
  | @after _ history before event ih =>
    obtain ⟨gone, waiting, accepted, waits⟩ := ih
    have unchanged : ∃ gone waiting, history.accepted = gone ++ waiting ++ history.writer.queue ∧
        history.writer.Waits waiting := ⟨gone, waiting, accepted, waits⟩
    cases event with
    | command command =>
      dsimp only [History.after]
      split
      case isTrue => exact unchanged
      case isFalse =>
        unfold submit
        rcases history.writer.enqueue_cases command with ⟨_, taken⟩ | ⟨error, refused⟩
        · rw [taken]
          refine ⟨gone, waiting, ?_, waits.tickets, waits.modes, waits.due⟩
          rw [accepted, List.append_assoc]
        · rw [refused]
          exact unchanged
    | cloneHandle =>
      dsimp only [History.after]
      split <;> exact ⟨gone, waiting, accepted, waits.tickets, waits.modes, waits.due⟩
    | dropHandle | setIdleTimeout => exact ⟨gone, waiting, accepted, waits.tickets, waits.modes, waits.due⟩
    | step =>
      dsimp only [History.after, work]
      split
      case h_2 => exact unchanged
      case h_1 completions after step =>
        obtain ⟨_, _, standing⟩ := before.sound.standing
        obtain ⟨left, still, same, waits⟩ := (Writer.steps_of_step step).drains standing.filed waits
        refine ⟨gone ++ left, still, ?_, waits⟩
        rw [accepted, List.append_assoc, same]
        simp

theorem Arises.kept (arises : history.Arises key) : history.Kept := by
  induction arises with
  | start begun => exact kept_start begun
  | @after _ history _ event ih => exact ih.afterAll [event]

/-- At rest only the last frames wait, and each of them was sent in mode on. -/
theorem Arises.waits_at_rest (arises : history.Arises key) (rest : history.writer.step? = none)
    (unended : history.writer.ended = none) :
    ∃ gone waiting, history.accepted = gone ++ waiting ∧ history.writer.batch.tickets = waiting.map Command.ticket ∧
      ∀ command ∈ waiting, command.mode? = some .on := by
  obtain ⟨gone, waiting, accepted, waits⟩ := arises.waits
  obtain ⟨_, queue, untaken⟩ := Writer.idle_of_rest rest unended
  rw [queue, List.append_nil] at accepted
  refine ⟨gone, waiting, accepted, waits.tickets, fun command member => (waits.modes command member).resolve_right ?_⟩
  intro due
  exact Nat.ne_of_gt (waits.due due).2 untaken

/-- If the last command that was accepted is not a frame of mode on, then at rest all has been written. -/
theorem Arises.written_at_rest (arises : history.Arises key) (rest : history.writer.step? = none)
    (unended : history.writer.ended = none)
    (last : ∀ command, history.accepted.getLast? = some command → command.mode? ≠ some .on) :
    history.writer.batch.frames = [] ∧ history.completed.map Prod.fst = history.accepted.map Command.ticket ∧
      (∀ completion ∈ history.completed, completion.2 = .ok ()) ∧
      history.writer.transport.bytes = Command.wire key history.accepted := by
  obtain ⟨gone, waiting, accepted, tickets, modes⟩ := arises.waits_at_rest rest unended
  obtain ⟨idle, queue, _⟩ := Writer.idle_of_rest rest unended
  have none : waiting = [] := by
    cases split : waiting.getLast? with
    | none => exact List.getLast?_eq_none_iff.mp split
    | some command =>
      refine absurd (modes command (List.mem_of_getLast? split)) (last command ?_)
      rw [accepted, List.getLast?_append, split]
      rfl
  rw [none] at tickets
  have frames : history.writer.batch.frames = [] := by
    have filed := arises.kept.tidy.filed
    rw [Writer.Filed, idle, Writer.Paired, tickets] at filed
    exact List.eq_nil_of_length_eq_zero filed.symm
  refine ⟨frames, ?_, arises.kept.well (by rw [idle]; rfl), ?_⟩
  · rw [← arises.kept.tickets, Writer.tickets, idle, tickets, queue]
    simp [Activity.tickets]
  · obtain ⟨all, same, standing⟩ := arises.sound.standing
    rw [Writer.Standing, idle] at standing
    have bytes := standing.going.bytes
    rw [frames] at bytes
    rw [same, queue, List.append_nil, ← bytes]
    exact (List.append_nil _).symm

end History
end Egress
