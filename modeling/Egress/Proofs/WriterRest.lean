import Egress.Proofs.Output
import Egress.Proofs.WriterOrder

/-!
The worker comes to rest. Every step uses up some of the worker's effort, so that it ends or waits for a command
after as many steps at most, whatever the transport answers.
-/
namespace Egress

theorem Frame.length_header_le (frame : Frame) (key : Option MaskKey) : (frame.header key).length ≤ 14 := by
  have field : ∀ bit length, (lengthField bit length).length ≤ 9 := by
    intro bit length
    unfold lengthField
    split
    · simp
    · split <;> simp
  cases key with
  | none =>
    have := field 0 frame.payload.length
    simp only [header, List.length_cons]
    omega
  | some key =>
    have := field 128 frame.payload.length
    simp only [header, MaskKey.bytes, List.length_cons, List.length_append, List.length_nil]
    omega

theorem Batch.size_slices (frames : List EncodedFrame) :
    Transport.size (Batch.slices frames) = total EncodedFrame.size frames := by
  induction frames with
  | nil => rfl
  | cons frame frames ih =>
    have here : Transport.size frame.slices = frame.size := by
      unfold EncodedFrame.slices EncodedFrame.size
      split
      case isTrue none => simp [List.isEmpty_iff.mp none]
      case isFalse => simp
    have apart : Batch.slices (frame :: frames) = frame.slices ++ Batch.slices frames := rfl
    rw [apart, Transport.size, total_append, total_cons, ← ih, ← here]
    rfl

namespace Transport

/-- A write uses up an answer, if any is left. -/
theorem length_writes_writeBy (answers : List WriteAnswer) (transport : Transport) (slices : List Bytes) :
    (writeBy answers transport slices).2.writes.length ≤ answers.length - 1 := by
  induction answers generalizing transport with
  | nil => exact Nat.le_refl 0
  | cons answer rest ih =>
    cases answer with
    | take count => exact Nat.le_refl _
    | claim count => exact Nat.le_refl _
    | fail error => exact Nat.le_refl _
    | notReady =>
      have := ih (transport.log (.write slices.length (size slices) .notReady))
      show (writeBy rest _ slices).2.writes.length ≤ rest.length
      omega

theorem writes_flushBy (answers : List FlushAnswer) (transport : Transport) :
    (flushBy answers transport).2.writes = transport.writes := by
  induction answers generalizing transport with
  | nil => rfl
  | cons answer rest ih =>
    cases answer with
    | done => rfl
    | fail error => rfl
    | notReady => exact ih (transport.log (.flush .notReady))

/-- Where no answer is left, a write takes what it can and says so. -/
theorem write_unanswered {transport : Transport} (unanswered : transport.writes = []) (slices : List Bytes) :
    (transport.write slices).1 = .ok (transport.capacity (transport.offered slices)) := by
  unfold write
  rw [unanswered]
  rfl

end Transport

namespace Writer

variable {writer after : Writer}

/-- The effort that is not the activity's. -/
def backlog (writer : Writer) : Nat :=
  writer.transport.writes.length + total frameEffort writer.batch.frames + writer.batch.tickets.length
    + total commandEffort writer.queue + min 1 writer.taken

theorem effort_eq (writer : Writer) : writer.effort = writer.backlog + writer.activityEffort := by
  unfold effort backlog
  omega

theorem sum_frameEffort (frames : List EncodedFrame) :
    total frameEffort frames = total EncodedFrame.size frames + 7 * frames.length := by
  induction frames with
  | nil => rfl
  | cons frame frames ih =>
    simp only [total_cons, List.length_cons, ih, frameEffort]
    omega

theorem frameEffort_ofFrame_le (frame : Frame) (key : Option MaskKey) :
    frameEffort (.ofFrame frame key) ≤ frame.payload.length + 21 := by
  have := frame.length_header_le key
  simp only [frameEffort, EncodedFrame.size, EncodedFrame.ofFrame, Frame.length_body]
  omega

theorem size_remaining (frames : List EncodedFrame) (count : Nat) :
    Transport.size (Batch.remaining frames count) = Transport.size (Batch.slices frames) - count := by
  rw [Batch.remaining, Transport.size_eq_length_flatten, Transport.flatten_dropBytes, List.length_drop,
    Transport.size_eq_length_flatten]

theorem callEffort_le (writer : Writer) (frames : List EncodedFrame) (count : Nat) :
    writer.callEffort frames count ≤ total EncodedFrame.size frames := by
  rw [← Batch.size_slices]
  unfold callEffort
  split
  · rw [size_remaining]
    exact Nat.sub_le _ _
  · exact Nat.le_refl _

theorem goOn_effort (writer : Writer) (purpose : Purpose) :
    (writer.goOn purpose).effort ≤ writer.backlog + purposeEffort purpose + 1 := by
  rw [effort_eq]
  cases purpose with
  | pass => exact Nat.le_refl _
  | flush ticket => exact Nat.add_le_add_left (by decide : 1 + 0 + 4 ≤ 6 + 1) writer.backlog
  | finish => exact Nat.le_succ _
  | endPass =>
    simp only [goOn, backlog, activityEffort, purposeEffort]
    omega

theorem goOn_effort_of_taken (taken : 0 < writer.taken) : (writer.goOn .endPass).effort ≤ writer.backlog := by
  rw [effort_eq]
  simp only [goOn, backlog, activityEffort]
  omega

/-- A batch that is not empty costs less while it is written than while it waits. -/
theorem writeOut_effort_of_frames (some : writer.batch.frames.isEmpty = false) (purpose : Purpose) :
    (writer.writeOut purpose).effort ≤ writer.backlog + purposeEffort purpose := by
  have whole := sum_frameEffort writer.batch.frames
  have calls := callEffort_le (writer.writeOut purpose) writer.batch.frames 0
  have count : 0 < writer.batch.frames.length := by
    refine List.length_pos_iff.mpr ?_
    rintro none
    rw [none] at some
    cases some
  rw [effort_eq]
  unfold writeOut at calls ⊢
  rw [some] at calls ⊢
  simp only [Bool.false_eq_true, if_false, backlog, activityEffort, Batch.empty, total_nil, List.length_nil] at calls ⊢
  omega

theorem writeOut_effort (writer : Writer) (purpose : Purpose) :
    (writer.writeOut purpose).effort ≤ writer.backlog + purposeEffort purpose + 1 := by
  by_cases none : writer.batch.frames.isEmpty
  · unfold writeOut
    rw [if_pos none]
    exact writer.goOn_effort purpose
  · have := writeOut_effort_of_frames (Bool.eq_false_iff.mpr none) purpose
    omega

theorem process_effort (idle : writer.activity = .ready) (command : Command) :
    (writer.process command).effort < writer.backlog + commandEffort command := by
  cases command with
  | flush ticket =>
    have := ({ writer with autoDue := false } : Writer).writeOut_effort (.flush ticket)
    simp only [process, commandEffort, purposeEffort, backlog] at this ⊢
    omega
  | frame frame ticket mode =>
    let added := writer.addFrame frame ticket
    let marked := if mode = .auto then { added with autoDue := true } else added
    have encoded := frameEffort_ofFrame_le frame writer.nextKey
    have joined : added.backlog ≤ writer.backlog + frame.payload.length + 22 := by
      simp only [added, addFrame, Batch.push, backlog, total_append, total_cons, total_nil,
        List.length_append, List.length_cons, List.length_nil]
      omega
    have same : marked.backlog = added.backlog ∧ marked.activity = .ready := by
      by_cases auto : mode = .auto <;> simp only [marked, auto] <;> exact ⟨rfl, idle⟩
    have carried : writer.process (.frame frame ticket mode)
        = if marked.mustWrite mode then { marked with autoDue := false }.writeOut .pass else marked := rfl
    rw [carried]
    by_cases due : marked.mustWrite mode
    · rw [if_pos due]
      have := ({ marked with autoDue := false } : Writer).writeOut_effort .pass
      have still : ({ marked with autoDue := false } : Writer).backlog = marked.backlog := rfl
      simp only [purposeEffort, commandEffort] at this ⊢
      omega
    · rw [if_neg due, effort_eq, activityEffort, same.2, commandEffort]
      dsimp only
      omega

theorem endPass_effort (taken : 0 < writer.taken) : writer.endPass.effort ≤ writer.backlog := by
  unfold endPass
  split
  case isFalse => exact goOn_effort_of_taken taken
  case isTrue =>
    let quiet : Writer := { writer with autoDue := false }
    show (quiet.writeOut .endPass).effort ≤ quiet.backlog
    by_cases none : quiet.batch.frames.isEmpty
    · unfold writeOut
      rw [if_pos none]
      exact goOn_effort_of_taken taken
    · exact writeOut_effort_of_frames (Bool.eq_false_iff.mpr none) .endPass

theorem finish_effort (writer : Writer) : (writer.writeOut .finish).effort ≤ writer.backlog := by
  by_cases none : writer.batch.frames.isEmpty
  · unfold writeOut
    rw [if_pos none]
    exact Nat.le_refl _
  · exact writeOut_effort_of_frames (Bool.eq_false_iff.mpr none) .finish

theorem advance_effort (idle : writer.activity = .ready) (next : writer.advance? = some after) :
    after.effort ≤ writer.backlog := by
  rcases advance_cases next with ⟨command, rest, queue, rfl⟩ | ⟨begun, rfl⟩ | ⟨_, _, _, rfl⟩
  · let popped : Writer := { writer with queue := rest, taken := writer.taken + 1 }
    have idle : popped.activity = .ready := idle
    have carried := process_effort idle command
    have before : popped.backlog + commandEffort command ≤ writer.backlog + 1 := by
      simp only [popped, backlog, queue, total_cons]
      omega
    exact Nat.le_of_lt_succ (Nat.lt_of_lt_of_le carried before)
  · exact endPass_effort begun
  · exact writer.finish_effort

/-! ## The transport's part -/

theorem length_tickets_le (purpose : Purpose) : purpose.tickets.length ≤ purposeEffort purpose := by
  cases purpose <;> simp [Purpose.tickets, purposeEffort]

/-- Ending because of an error costs less than writing. -/
theorem fail_effort {transport : Transport} (writes : transport.writes.length ≤ writer.transport.writes.length)
    (tickets : List Ticket) (error : TransportError) :
    (Writer.fail { writer with transport } tickets error).effort ≤ writer.backlog + tickets.length + 2 := by
  rw [effort_eq]
  simp only [fail, backlog, activityEffort]
  omega

/-- A write that takes something costs a call, and the calls that are left come to less. -/
theorem callEffort_write {frames : List EncodedFrame} {count reported : Nat} {transport : Transport}
    (answered : writer.transport.write (Batch.remaining frames count) = (.ok reported, transport))
    (some : reported ≠ 0) (counted : Nat)
    (sum : reported ≤ Transport.size (Batch.remaining frames count) → counted = count + reported) :
    transport.writes.length + callEffort { writer with transport } frames counted
      < writer.transport.writes.length + writer.callEffort frames count := by
  have writes := Transport.length_writes_writeBy writer.transport.writes writer.transport
    (writer.transport.offered (Batch.remaining frames count))
  change (writer.transport.write (Batch.remaining frames count)).2.writes.length ≤ _ at writes
  rw [answered] at writes
  change transport.writes.length ≤ _ at writes
  by_cases unanswered : writer.transport.writes = []
  · have result := Transport.write_unanswered unanswered (Batch.remaining frames count)
    rw [answered] at result
    have taken : reported = writer.transport.capacity (writer.transport.offered (Batch.remaining frames count)) :=
      Except.ok.inj result
    have le : reported ≤ Transport.size (Batch.remaining frames count) := by
      have shown := (writer.transport.flatten_offered_prefix (Batch.remaining frames count)).length_le
      rw [← Transport.size_eq_length_flatten, ← Transport.size_eq_length_flatten] at shown
      rw [taken]
      exact Nat.le_trans (Transport.capacity_le _ _) shown
    have none : transport.writes = [] := by
      rw [unanswered] at writes
      exact List.eq_nil_of_length_eq_zero (Nat.le_zero.mp writes)
    have before := size_remaining frames count
    simp only [callEffort, unanswered, none, sum le, size_remaining, List.isEmpty_nil, if_true, List.length_nil]
    omega
  · have length := List.length_pos_iff.mpr unanswered
    have here : writer.callEffort frames count = Transport.size (Batch.slices frames) := by
      unfold callEffort
      rw [if_neg (by simpa using unanswered)]
    have later := callEffort_le { writer with transport } frames counted
    rw [← Batch.size_slices] at later
    omega

theorem writeOn_effort {frames : List EncodedFrame} {tickets : List Ticket} {count : Nat} {purpose : Purpose}
    (busy : writer.activity = .writing frames tickets count purpose) :
    (writer.writeOn frames tickets count purpose).effort < writer.effort := by
  have extra := length_tickets_le purpose
  have before : writer.effort
      = writer.backlog + (writer.callEffort frames count + tickets.length + purposeEffort purpose + 5) := by
    rw [effort_eq, activityEffort, busy]
  rw [before]
  unfold writeOn
  split
  case h_1 none =>
    rw [effort_eq]
    simp only [activityEffort, backlog]
    omega
  case h_2 slice rest slices =>
    rw [← slices]
    have fewer : (writer.transport.write (Batch.remaining frames count)).2.writes.length
        ≤ writer.transport.writes.length :=
      Nat.le_trans (Transport.length_writes_writeBy _ _ _) (Nat.sub_le _ _)
    rcases answered : writer.transport.write (Batch.remaining frames count) with ⟨error | reported, transport⟩
    · rw [answered] at fewer
      dsimp only at fewer ⊢
      have := fail_effort fewer (tickets ++ purpose.tickets) error
      rw [List.length_append] at this
      omega
    · rw [answered] at fewer
      dsimp only at fewer ⊢
      by_cases none : reported = 0
      · rw [if_pos none]
        have := fail_effort fewer (tickets ++ purpose.tickets) Transport.writeZero
        rw [List.length_append] at this
        omega
      · rw [if_neg none]
        have called := callEffort_write answered none
          (Transport.countAfter count (Transport.size (Batch.remaining frames count)) reported) fun le => if_pos le
        rw [effort_eq]
        simp only [activityEffort, backlog, callEffort] at called ⊢
        omega

theorem flushOut_effort {tickets : List Ticket} {purpose : Purpose}
    (busy : writer.activity = .flushing tickets purpose) :
    (writer.flushOut tickets purpose).effort < writer.effort := by
  have extra := length_tickets_le purpose
  have before : writer.effort = writer.backlog + (tickets.length + purposeEffort purpose + 4) := by
    rw [effort_eq, activityEffort, busy]
  have same : writer.transport.flush.2.writes = writer.transport.writes := Transport.writes_flushBy _ _
  rw [before]
  unfold flushOut
  revert same
  rcases writer.transport.flush with ⟨error | ⟨⟩, transport⟩
  · intro same
    change transport.writes = _ at same
    have := fail_effort (Nat.le_of_eq (congrArg List.length same)) (tickets ++ purpose.tickets) error
    rw [List.length_append] at this
    dsimp only
    omega
  · intro same
    change transport.writes = _ at same
    rw [effort_eq]
    simp only [activityEffort, backlog, same]
    omega

/-! ## All steps -/

/-- Every step uses up effort. -/
theorem step_effort {completions : List (Ticket × Outcome)} (step : writer.step? = some (completions, after)) :
    after.effort < writer.effort := by
  have effort := writer.effort_eq
  unfold step? at step
  cases busy : writer.activity with
  | ready =>
    rw [busy] at step
    obtain ⟨next, advance, same⟩ := Option.map_eq_some_iff.mp step
    cases same
    have := advance_effort busy advance
    rw [effort, activityEffort, busy]
    exact Nat.lt_succ_of_le this
  | writing frames tickets count purpose =>
    rw [busy] at step
    cases step
    exact writeOn_effort busy
  | flushing tickets purpose =>
    rw [busy] at step
    cases step
    exact flushOut_effort busy
  | completing tickets purpose =>
    rw [busy] at step
    cases tickets with
    | nil =>
      cases step
      have := writer.goOn_effort purpose
      rw [effort, activityEffort, busy]
      dsimp only [List.length_nil]
      omega
    | cons ticket rest =>
      cases step
      rw [effort, activityEffort, busy, effort_eq]
      simp only [activityEffort, backlog, List.length_cons]
      omega
  | failing tickets error =>
    rw [busy] at step
    cases tickets <;> cases step <;> rw [effort, activityEffort, busy, effort_eq] <;>
      simp only [activityEffort, backlog, List.length_cons, List.length_nil] <;> omega
  | closing error =>
    rw [busy] at step
    dsimp only at step
    split at step
    case h_1 none =>
      cases step
      rw [effort, activityEffort, busy, effort_eq]
      simp only [activityEffort, backlog]
      omega
    case h_2 command rest queue =>
      cases step
      have some : 0 < commandEffort command := by cases command <;> exact Nat.succ_pos _
      rw [effort, activityEffort, busy, effort_eq]
      simp only [activityEffort, backlog, queue, total_cons]
      omega
  | ended outcome =>
    rw [busy] at step
    cases step

/-- Within as many steps as its effort, the worker comes to rest. -/
theorem runSteps_rests {steps : Nat} (enough : writer.effort ≤ steps) (ledger : Ledger) :
    (writer.runSteps steps ledger).1.step? = none := by
  induction steps generalizing writer ledger with
  | zero =>
    cases step : writer.step? with
    | none => exact step
    | some next =>
      have := step_effort step
      omega
  | succ steps ih =>
    unfold runSteps
    split
    case h_1 completions next step =>
      have := step_effort step
      exact ih (by omega) _
    case h_2 rest => exact rest

theorem settle_rests (writer : Writer) (ledger : Ledger) : (writer.settle ledger).1.step? = none :=
  runSteps_rests (Nat.le_refl _) ledger

/-- A worker that rests without a handle has ended. -/
theorem ended_of_rest (rest : writer.step? = none) (alone : writer.handles = 0) : writer.ended ≠ none := by
  unfold step? at rest
  unfold ended
  cases doing : writer.activity with
  | ended outcome => exact nofun
  | ready =>
    rw [doing] at rest
    have waiting : writer.advance? = none := Option.map_eq_none_iff.mp rest
    unfold advance? at waiting
    split at waiting
    · split at waiting <;> cases waiting
    · rw [if_pos alone] at waiting
      split at waiting <;> cases waiting
  | writing frames tickets count purpose | flushing tickets purpose =>
    rw [doing] at rest
    cases rest
  | completing tickets purpose | failing tickets error =>
    rw [doing] at rest
    cases tickets <;> cases rest
  | closing error =>
    rw [doing] at rest
    dsimp only at rest
    split at rest <;> cases rest

end Writer
end Egress
