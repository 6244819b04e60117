import Egress.Proofs.WriterPasses

/-!
What is left in the batch between two passes. The commands that have left the queue are those that are done with and,
after them, those whose frames wait in the batch. When a pass has ended, the batch is not due and nothing but frames of
mode on waits, fewer bytes of them than a batch may have.
-/
namespace Egress

namespace Command

/-- The frames among some commands in the form in which they are written, when `n` frames come before them. -/
def encodedFrom (key : Nat → Option MaskKey) : (n : Nat) → List Command → List EncodedFrame
  | _, [] => []
  | n, .frame content _ _ :: rest => .ofFrame content (key n) :: encodedFrom key (n + 1) rest
  | n, .flush _ :: rest => encodedFrom key n rest

theorem encodedFrom_concat (key : Nat → Option MaskKey) (n : Nat) (commands : List Command) (frame : Frame)
    (ticket : Ticket) (mode : BatchMode) :
    encodedFrom key n (commands ++ [.frame frame ticket mode]) =
      encodedFrom key n commands ++ [.ofFrame frame (key (n + frameCount commands))] := by
  induction commands generalizing n with
  | nil => rfl
  | cons command commands ih =>
    cases command with
    | frame content _ _ =>
      simp only [List.cons_append, encodedFrom, frameCount, ih]
      rw [Nat.add_right_comm, Nat.add_assoc]
    | flush _ => simp only [List.cons_append, encodedFrom, frameCount, ih]

end Command

namespace Writer

/-- The batch holds the frames of the commands that wait, numbered after those of the commands that are done with, and
is short of its largest size unless it is due. -/
structure Holds (key : Nat → Option MaskKey) (gone waiting : List Command) (writer : Writer) : Prop
    extends writer.Waits waiting where
  encoded : writer.encoded = Command.frameCount (gone ++ waiting)
  frames : writer.batch.frames = Command.encodedFrom key (Command.frameCount gone) waiting
  bytes : writer.batch.bytes = total EncodedFrame.size writer.batch.frames
  small : writer.autoDue = true ∨ writer.batch.frames = [] ∨ writer.batch.bytes < writer.settings.maxBatchBytes

variable {writer after : Writer} {key : Nat → Option MaskKey} {gone waiting : List Command}

/-- What does not touch the batch and what is due. -/
theorem Holds.same (holds : writer.Holds key gone waiting) (batch : after.batch = writer.batch)
    (autoDue : after.autoDue = writer.autoDue) (encoded : after.encoded = writer.encoded)
    (settings : after.settings = writer.settings)
    (due : writer.autoDue = true → after.activity = writer.activity ∧ writer.taken ≤ after.taken) :
    after.Holds key gone waiting := by
  refine ⟨⟨?_, ?_, ?_⟩, ?_, ?_, ?_, ?_⟩
  · rw [batch]
    exact holds.tickets
  · rw [autoDue]
    exact holds.modes
  · intro now
    rw [autoDue] at now
    obtain ⟨idle, begun⟩ := holds.due now
    exact ⟨(due now).1.trans idle, Nat.lt_of_lt_of_le begun (due now).2⟩
  · rw [encoded]
    exact holds.encoded
  · rw [batch]
    exact holds.frames
  · rw [batch]
    exact holds.bytes
  · rw [batch, autoDue, settings]
    exact holds.small

/-- Once all that waits is written, the batch is empty. -/
theorem holds_writeOut (writer : Writer) (paired : writer.Paired) (undue : writer.autoDue = false)
    (bytes : writer.batch.bytes = total EncodedFrame.size writer.batch.frames)
    (encoded : writer.encoded = Command.frameCount gone) (purpose : Purpose) :
    (writer.writeOut purpose).Holds key gone [] := by
  have waits := waits_writeOut paired undue purpose
  rw [← List.append_nil gone] at encoded
  revert waits
  unfold writeOut
  split
  case isTrue empty =>
    have none : writer.batch.frames = [] := List.isEmpty_iff.mp empty
    cases purpose <;> exact fun waits => ⟨waits, encoded, none, bytes, .inr (.inl none)⟩
  case isFalse => exact fun waits => ⟨waits, encoded, rfl, rfl, .inr (.inl rfl)⟩

theorem encoded_joined (frame : Frame) (ticket : Ticket) (mode : BatchMode) :
    (writer.joined frame ticket mode).encoded = writer.encoded + 1 := by
  unfold joined
  dsimp only
  split <;> rfl

theorem bytes_joined (bytes : writer.batch.bytes = total EncodedFrame.size writer.batch.frames) (frame : Frame)
    (ticket : Ticket) (mode : BatchMode) :
    (writer.joined frame ticket mode).batch.bytes =
      total EncodedFrame.size (writer.joined frame ticket mode).batch.frames := by
  obtain ⟨batch, _⟩ := writer.joined_keeps frame ticket mode
  rw [batch]
  simp [addFrame, Batch.push, bytes]

/-- A frame that joins the batch and is not written waits after the others. -/
theorem holds_joined (keyed : writer.settings.keyFor writer.keys = key) (idle : writer.activity = .ready)
    (begun : 0 < writer.taken) (holds : writer.Holds key gone waiting) (frame : Frame) (ticket : Ticket)
    {mode : BatchMode} (later : ¬ (writer.joined frame ticket mode).mustWrite mode = true) :
    (writer.joined frame ticket mode).Holds key gone (waiting ++ [.frame frame ticket mode]) := by
  obtain ⟨batch, _⟩ := writer.joined_keeps frame ticket mode
  have next : writer.nextKey = key (Command.frameCount gone + Command.frameCount waiting) := by
    rw [← Command.frameCount_append, ← holds.encoded, ← keyed]
    rfl
  refine ⟨waits_joined idle begun holds.toWaits frame ticket later, ?_, ?_, bytes_joined holds.bytes _ _ _, ?_⟩
  · rw [encoded_joined, holds.encoded, ← List.append_assoc, Command.frameCount_append (gone ++ waiting)]
    rfl
  · rw [batch, Command.encodedFrom_concat, ← holds.frames, ← next]
    rfl
  · cases mode with
    | off => exact absurd rfl later
    | auto => exact .inl rfl
    | on => exact .inr (.inr (Nat.lt_of_not_le fun full => later (decide_eq_true full)))

/-- A command that is taken from the queue waits after the others, or is written with all that waited. -/
theorem holds_process (writer : Writer) (keyed : writer.settings.keyFor writer.keys = key) (paired : writer.Paired)
    (idle : writer.activity = .ready) (begun : 0 < writer.taken) (holds : writer.Holds key gone waiting)
    (command : Command) :
    (writer.process command).Holds key (gone ++ waiting ++ [command]) [] ∨
      (writer.process command).Holds key gone (waiting ++ [command]) := by
  cases command with
  | flush ticket =>
    refine .inl (holds_writeOut { writer with autoDue := false } paired rfl holds.bytes ?_ _)
    rw [Command.frameCount_append]
    exact holds.encoded
  | frame frame ticket mode =>
    rw [process_frame]
    by_cases now : (writer.joined frame ticket mode).mustWrite mode
    · rw [if_pos now]
      have together := paired_joined paired frame ticket mode
      have bytes := bytes_joined holds.bytes frame ticket mode
      refine .inl (holds_writeOut { writer.joined frame ticket mode with autoDue := false } together rfl bytes ?_ _)
      show (writer.joined frame ticket mode).encoded = _
      rw [encoded_joined, holds.encoded, Command.frameCount_append (gone ++ waiting)]
      rfl
    · rw [if_neg now]
      exact .inr (holds_joined keyed idle begun holds frame ticket now)

theorem holds_endPass (paired : writer.Paired) (holds : writer.Holds key gone waiting) :
    writer.endPass.Holds key (gone ++ waiting) [] ∨ writer.endPass.Holds key gone waiting := by
  unfold endPass
  split
  case isTrue =>
    exact .inl (holds_writeOut { writer with autoDue := false } paired rfl holds.bytes holds.encoded _)
  case isFalse undue =>
    have waits : (writer.goOn .endPass).Waits waiting := ⟨holds.tickets, holds.modes, fun due => absurd due undue⟩
    exact .inr ⟨waits, holds.encoded, holds.frames, holds.bytes, holds.small⟩

/-- Some commands, and then those in the queue: the ones before that are done with or wait in the batch. -/
def Sorts (key : Nat → Option MaskKey) (commands : List Command) (writer : Writer) : Prop :=
  ∃ gone waiting, commands = gone ++ waiting ++ writer.queue ∧ writer.Holds key gone waiting

theorem sorts_advance {commands : List Command} (keyed : writer.settings.keyFor writer.keys = key)
    (paired : writer.Paired) (idle : writer.activity = .ready) (sorts : writer.Sorts key commands)
    (next : writer.advance? = some after) : after.Sorts key commands := by
  obtain ⟨gone, waiting, split, holds⟩ := sorts
  rcases advance_cases next with ⟨command, rest, queue, rfl⟩ | ⟨begun, rfl⟩ | ⟨queue, untaken, alone, rfl⟩
  · let popped : Writer := { writer with queue := rest, taken := writer.taken + 1 }
    have still : popped.Holds key gone waiting := holds.same rfl rfl rfl rfl fun _ => ⟨rfl, Nat.le_succ _⟩
    have left : (popped.process command).queue = rest := popped.queue_process command
    have same : commands = gone ++ waiting ++ [command] ++ (popped.process command).queue := by
      rw [split, queue, left]
      simp
    have together : popped.Paired := paired
    rcases popped.holds_process keyed together idle (Nat.succ_pos _) still command with written | waits
    · exact ⟨gone ++ waiting ++ [command], [], by rw [List.append_nil]; exact same, written⟩
    · exact ⟨gone, waiting ++ [command], by rw [← List.append_assoc]; exact same, waits⟩
  · rw [← writer.queue_endPass] at split
    rcases holds_endPass paired holds with written | waits
    · exact ⟨gone ++ waiting, [], by rw [List.append_nil]; exact split, written⟩
    · exact ⟨gone, waiting, split, waits⟩
  · have undue : writer.autoDue = false := holds.undue untaken
    refine ⟨gone ++ waiting, [], ?_, writer.holds_writeOut paired undue holds.bytes holds.encoded _⟩
    rw [List.append_nil, (alike_writeOut _).queue]
    exact split

/-- As long as the worker has not gone wrong, a step moves commands only onwards: from the queue to the batch, and from
there to those that are done with. -/
theorem Steps.sorts {completions : List (Ticket × Outcome)} (steps : writer.Steps completions after)
    (keyed : writer.settings.keyFor writer.keys = key) (filed : writer.Filed) {commands : List Command}
    (sorts : writer.Sorts key commands) (sound : after.activity.error? = none) : after.Sorts key commands := by
  have busy : writer.activity ≠ .ready → after.batch = writer.batch → after.autoDue = writer.autoDue →
      after.encoded = writer.encoded → after.settings = writer.settings → after.queue = writer.queue →
      after.Sorts key commands := by
    intro busy batch autoDue encoded settings queue
    obtain ⟨gone, waiting, split, holds⟩ := sorts
    refine ⟨gone, waiting, queue ▸ split, holds.same batch autoDue encoded settings fun due => ?_⟩
    exact absurd (holds.due due).1 busy
  cases steps with
  | advanced idle next =>
    rw [Filed, idle] at filed
    exact sorts_advance keyed filed idle sorts next
  | failed | failedOne | failedAll | ended => cases sound
  | called serves =>
    refine busy (fun idle => ?_) rfl rfl rfl rfl rfl
    rw [idle] at serves
    cases serves
  | completed other => exact busy (by simp [other]) rfl rfl rfl rfl rfl
  | @wentOn purpose other =>
    refine busy (by simp [other]) ?_ ?_ ?_ (alike_goOn purpose).settings (alike_goOn purpose).queue <;>
      cases purpose <;> rfl
  | @drained command rest error other =>
    have wrong : ({ writer with queue := rest } : Writer).activity.error? = some error := by
      show writer.activity.error? = _
      rw [other]
      rfl
    cases wrong.symm.trans sound

end Writer

namespace History

variable {key : Nat → Option MaskKey} {history after : History}

/-- As long as the worker has not gone wrong, the commands accepted are those done with, those that wait, and those in
the queue. -/
structure Sorted (key : Nat → Option MaskKey) (history : History) : Prop where
  kept : history.Kept
  keyed : history.writer.settings.keyFor history.writer.keys = key
  sorts : history.writer.activity.error? = none → history.writer.Sorts key history.accepted

theorem Sorted.aside (sorted : history.Sorted key) (apart : history.Aside after) : after.Sorted key := by
  refine ⟨sorted.kept.quiet apart.toQuiet, ?_, fun sound => ?_⟩
  · rw [apart.settings, apart.keys]
    exact sorted.keyed
  · rw [apart.activity] at sound
    obtain ⟨gone, waiting, split, holds⟩ := sorted.sorts sound
    obtain ⟨more, accepted, queue, _⟩ := apart.came
    refine ⟨gone, waiting, ?_, holds.same apart.batch apart.autoDue apart.encoded apart.settings fun _ => ?_⟩
    · rw [accepted, queue, split, List.append_assoc]
    · exact ⟨apart.activity, Nat.le_of_eq apart.taken.symm⟩

theorem Sorted.steps (sorted : history.Sorted key) {completions : List (Ticket × Outcome)} {writer : Writer}
    (steps : history.writer.Steps completions writer) :
    Sorted key ⟨writer, history.accepted, history.completed ++ completions⟩ := by
  refine ⟨sorted.kept.steps steps, ?_, fun sound => ?_⟩
  · show writer.settings.keyFor writer.keys = key
    rw [steps.settled.1, steps.settled.2]
    exact sorted.keyed
  · refine steps.sorts sorted.keyed sorted.kept.tidy.filed (sorted.sorts ?_) sound
    cases wrong : history.writer.activity.error? with
    | none => rfl
    | some error => cases (steps.error_kept wrong).symm.trans sound

theorem sorted_afterAll {settings : WriterSettings} {keys : Nat → MaskKey} {transport : Transport} {writer : Writer}
    (begun : Writer.start? settings keys transport = some writer) (events : List WriterEvent) :
    ((start writer).afterAll events).Sorted (settings.keyFor keys) := by
  refine afterAll_holds (Sorted (settings.keyFor keys)) (fun apart sorted => sorted.aside apart)
    (fun steps sorted => sorted.steps steps) events ?_
  refine ⟨kept_start begun, ?_, ?_⟩ <;> unfold Writer.start? at begun <;> split at begun <;> cases begun
  · rfl
  · exact fun _ => ⟨[], [], rfl, Writer.waits_of_clear rfl rfl, rfl, rfl, rfl, .inr (.inl rfl)⟩

/-- Whenever a worker is between two passes, nothing is due. The commands accepted are those done with, then those whose
frames wait in the batch, then those in the queue. The ones that wait are frames of mode on; their tickets wait with
them, and none of these has been completed; the batch counts the bytes of its frames, and if it is not empty they are
fewer than its largest size. -/
theorem batch_between_passes {settings : WriterSettings} {keys : Nat → MaskKey} {transport : Transport} {writer : Writer}
    (begun : Writer.start? settings keys transport = some writer) (events : List WriterEvent) :
    let history := (start writer).afterAll events
    let batch := history.writer.batch
    history.writer.activity = .ready → history.writer.taken = 0 →
      history.writer.autoDue = false ∧
      (∃ gone waiting, history.accepted = gone ++ waiting ++ history.writer.queue ∧
        (∀ command ∈ waiting, command.mode? = some .on) ∧
        batch.frames = Command.encodedFrom (settings.keyFor keys) (Command.frameCount gone) waiting ∧
        batch.tickets = waiting.map Command.ticket ∧
        history.completed.map Prod.fst = gone.map Command.ticket) ∧
      batch.tickets.length = batch.frames.length ∧
      ((history.accepted.map Command.ticket).Nodup →
        ∀ ticket ∈ batch.tickets, ticket ∉ history.completed.map Prod.fst) ∧
      batch.bytes = total EncodedFrame.size batch.frames ∧
      (batch.frames = [] ∨ batch.bytes < settings.maxBatchBytes) := by
  intro history batch idle untaken
  have sorted : history.Sorted (settings.keyFor keys) := sorted_afterAll begun events
  obtain ⟨gone, waiting, split, holds⟩ := sorted.sorts (by rw [idle]; rfl)
  have undue : history.writer.autoDue = false := holds.undue untaken
  have done : history.completed.map Prod.fst = gone.map Command.ticket := by
    have tickets := sorted.kept.tickets
    rw [Writer.tickets, idle, holds.tickets, split] at tickets
    simp only [Activity.tickets, List.nil_append, List.map_append, List.append_assoc] at tickets
    exact List.append_cancel_right tickets
  have settled : history.writer.settings = settings := settings_afterAll begun events
  refine ⟨undue, ⟨gone, waiting, split, ?_, holds.frames, holds.tickets, done⟩, ?_, ?_, holds.bytes, ?_⟩
  · intro command member
    refine (holds.modes command member).resolve_right fun due => ?_
    rw [undue] at due
    cases due
  · have filed := sorted.kept.tidy.filed
    rw [Writer.Filed, idle] at filed
    exact filed
  · intro distinct ticket waits completed
    rw [show batch.tickets = _ from holds.tickets] at waits
    rw [done] at completed
    rw [split, List.map_append, List.map_append] at distinct
    exact (List.nodup_append.mp (List.nodup_append.mp distinct).1).2.2 ticket completed ticket waits rfl
  · rw [← settled]
    refine holds.small.resolve_left fun due => ?_
    rw [undue] at due
    cases due

/-- A server whose batches are written as soon as they have 8 bytes, less than its batches of mode auto may have. -/
def small : Writer :=
  .start { WriterSettings.standard with maxBatchBytes := 8 } (fun _ => ⟨0, 0, 0, 0⟩) .unlimited

/-- A frame that a flush takes along, one that is due, and two of mode on of which the second one makes the batch too
large; then two that wait, of which the last comes in a pass of its own. -/
def smallEvents : List WriterEvent :=
  [.command (.frame ⟨.text, true, [1]⟩ 0 .on), .command (.flush 1), .command (.frame ⟨.text, true, [2]⟩ 2 .auto),
    .command (.frame ⟨.text, true, [3, 3]⟩ 3 .on), .command (.frame ⟨.text, true, [4]⟩ 4 .on),
    .command (.frame ⟨.text, true, [5]⟩ 5 .on)] ++ List.replicate 30 .step ++
    [.command (.frame ⟨.text, true, [6]⟩ 6 .on)] ++ List.replicate 5 .step

theorem batch_between_passes_small :
    let history := (start small).afterAll smallEvents
    Writer.start? small.settings small.keys small.transport = some small ∧
    history.writer.activity = .ready ∧ history.writer.taken = 0 ∧ history.writer.autoDue = false ∧
    history.writer.batch.tickets = [5, 6] ∧ history.writer.batch.frames ≠ [] ∧ history.writer.batch.bytes < 8 ∧
    (∀ ticket ∈ history.writer.batch.tickets, ticket ∉ history.completed.map Prod.fst) := by
  dsimp only
  have begun : Writer.start? small.settings small.keys small.transport = some small := rfl
  have rest : ((start small).afterAll smallEvents).writer.step? = none := Option.isNone_iff_eq_none.mp (by decide +kernel)
  have running : ((start small).afterAll smallEvents).writer.ended = none :=
    Option.isNone_iff_eq_none.mp (by decide +kernel)
  obtain ⟨idle, _, untaken⟩ := Writer.idle_of_rest rest running
  obtain ⟨undue, _, _, uncompleted, _, below⟩ := batch_between_passes begun smallEvents idle untaken
  have some : ((start small).afterAll smallEvents).writer.batch.frames ≠ [] := by decide +kernel
  exact ⟨begun, idle, untaken, undue, by decide +kernel, some, below.resolve_left some, uncompleted (by decide +kernel)⟩

end History
end Egress
