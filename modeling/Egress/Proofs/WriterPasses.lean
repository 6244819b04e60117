import Egress.Proofs.WaitingFrames

/-!
The passes of a writer. An event other than a step of the worker leaves the pass alone, and only lets commands come to
the queue, each of which is counted as pending. As long as the worker has not gone wrong, the commands that are pending
are those it has taken in its pass and those in the queue; once it has gone wrong, it counts off nothing more.
-/
namespace Egress

namespace Writer

variable {writer after : Writer}

theorem alike_joined (writer : Writer) (frame : Frame) (ticket : Ticket) (mode : BatchMode) :
    writer.Alike (writer.joined frame ticket mode) := by
  unfold joined
  dsimp only
  split <;> exact ⟨rfl, rfl, rfl, rfl, rfl⟩

theorem alike_process (writer : Writer) (command : Command) : writer.Alike (writer.process command) := by
  cases command with
  | flush ticket =>
    have quiet : writer.Alike { writer with autoDue := false } := ⟨rfl, rfl, rfl, rfl, rfl⟩
    exact quiet.trans (alike_writeOut _)
  | frame frame ticket mode =>
    have joined := writer.alike_joined frame ticket mode
    rw [process_frame]
    split
    · have quiet : writer.Alike { writer.joined frame ticket mode with autoDue := false } :=
        joined.trans ⟨rfl, rfl, rfl, rfl, rfl⟩
      exact quiet.trans (alike_writeOut _)
    · exact joined

theorem alike_endPass (writer : Writer) : writer.Alike writer.endPass := by
  unfold endPass
  split
  · have quiet : writer.Alike { writer with autoDue := false } := ⟨rfl, rfl, rfl, rfl, rfl⟩
    exact quiet.trans (alike_writeOut _)
  · exact alike_goOn _

/-- The worker never changes its settings or its keys. -/
theorem Steps.settled {completions : List (Ticket × Outcome)} (steps : writer.Steps completions after) :
    after.settings = writer.settings ∧ after.keys = writer.keys := by
  cases steps with
  | advanced idle next =>
    rcases advance_cases next with ⟨command, rest, queue, rfl⟩ | ⟨begun, rfl⟩ | ⟨queue, untaken, alone, rfl⟩
    · exact ⟨(alike_process _ command).settings, (alike_process _ command).keys⟩
    · exact ⟨writer.alike_endPass.settings, writer.alike_endPass.keys⟩
    · exact ⟨(alike_writeOut _).settings, (alike_writeOut _).keys⟩
  | wentOn busy => exact ⟨(alike_goOn _).settings, (alike_goOn _).keys⟩
  | failed | called | completed | failedOne | failedAll | drained | ended => exact ⟨rfl, rfl⟩

/-! ## What is pending -/

/-- The worker counts off commands only at the end of a pass. -/
theorem counts_goOn {purpose : Purpose} (other : purpose ≠ .endPass) :
    (writer.goOn purpose).pending = writer.pending ∧ (writer.goOn purpose).taken = writer.taken := by
  cases purpose with
  | endPass => exact absurd rfl other
  | pass | flush | finish => exact ⟨rfl, rfl⟩

theorem counts_writeOut (writer : Writer) {purpose : Purpose} (other : purpose ≠ .endPass) :
    (writer.writeOut purpose).pending = writer.pending ∧ (writer.writeOut purpose).taken = writer.taken := by
  unfold writeOut
  split
  · exact counts_goOn other
  · exact ⟨rfl, rfl⟩

theorem counts_process (writer : Writer) (command : Command) :
    (writer.process command).pending = writer.pending ∧ (writer.process command).taken = writer.taken := by
  cases command with
  | flush ticket => exact counts_writeOut { writer with autoDue := false } nofun
  | frame frame ticket mode =>
    have joined : (writer.joined frame ticket mode).pending = writer.pending ∧
        (writer.joined frame ticket mode).taken = writer.taken := by
      unfold joined
      dsimp only
      split <;> exact ⟨rfl, rfl⟩
    rw [process_frame]
    split
    · obtain ⟨pending, taken⟩ :=
        counts_writeOut { writer.joined frame ticket mode with autoDue := false } (nofun : Purpose.pass ≠ .endPass)
      exact ⟨pending.trans joined.1, taken.trans joined.2⟩
    · exact joined

/-- Until the worker goes wrong, the commands that are pending are those taken in its pass and those in the queue. It
writes only when it has taken some, or to end. -/
structure Counted (writer : Writer) : Prop where
  count : writer.activity.error? = none → writer.pending = writer.taken + writer.queue.length
  begun : ∀ purpose, writer.activity.purpose? = some purpose → purpose ≠ .finish → 0 < writer.taken

theorem counted_of_idle (idle : writer.activity = .ready) (count : writer.pending = writer.taken + writer.queue.length) :
    writer.Counted := by
  refine ⟨fun _ => count, ?_⟩
  rw [idle]
  exact nofun

theorem counted_goOn {purpose : Purpose} (count : writer.pending = writer.taken + writer.queue.length)
    (begun : purpose ≠ .finish → 0 < writer.taken) : (writer.goOn purpose).Counted := by
  cases purpose with
  | pass => exact counted_of_idle rfl count
  | endPass =>
    refine counted_of_idle rfl ?_
    show writer.pending - writer.taken = 0 + writer.queue.length
    omega
  | flush ticket => exact ⟨fun _ => count, fun _ _ _ => begun nofun⟩
  | finish => exact ⟨fun _ => count, nofun⟩

theorem counted_writeOut (writer : Writer) {purpose : Purpose} (count : writer.pending = writer.taken + writer.queue.length)
    (begun : purpose ≠ .finish → 0 < writer.taken) : (writer.writeOut purpose).Counted := by
  unfold writeOut
  split
  · exact counted_goOn count begun
  · refine ⟨fun _ => count, ?_⟩
    rintro _ serves
    cases serves
    exact begun

theorem counted_process (count : writer.pending = writer.taken + writer.queue.length) (begun : 0 < writer.taken)
    (command : Command) : (writer.process command).Counted := by
  obtain ⟨pending, taken⟩ := writer.counts_process command
  refine ⟨fun _ => ?_, fun _ _ _ => ?_⟩
  · rw [pending, taken, (alike_process _ command).queue, count]
  · rw [taken]
    exact begun

theorem counted_endPass (count : writer.pending = writer.taken + writer.queue.length) (begun : 0 < writer.taken) :
    writer.endPass.Counted := by
  unfold endPass
  split
  · exact counted_writeOut { writer with autoDue := false } count fun _ => begun
  · exact counted_goOn count fun _ => begun

theorem Steps.counted {completions : List (Ticket × Outcome)} (steps : writer.Steps completions after)
    (counted : writer.Counted) : after.Counted := by
  cases steps with
  | advanced idle next =>
    have count := counted.count (by rw [idle]; rfl)
    rcases advance_cases next with ⟨command, rest, queue, rfl⟩ | ⟨begun, rfl⟩ | ⟨queue, untaken, alone, rfl⟩
    · refine counted_process ?_ (Nat.succ_pos _) command
      rw [queue, List.length_cons] at count
      show writer.pending = writer.taken + 1 + rest.length
      omega
    · exact counted_endPass count begun
    · exact writer.counted_writeOut count fun other => absurd rfl other
  | failed => exact ⟨nofun, nofun⟩
  | @called transport activity purpose serves fault still held =>
    refine ⟨fun _ => counted.count ?_, ?_⟩
    · revert serves
      cases writer.activity <;> intro serves <;> first | rfl | cases serves
    · intro other serving
      cases still.symm.trans serving
      exact counted.begun purpose serves
  | @completed ticket tickets purpose busy =>
    refine ⟨fun _ => counted.count (by rw [busy]; rfl), ?_⟩
    rintro _ serves
    cases serves
    exact counted.begun purpose (by rw [busy]; rfl)
  | @wentOn purpose busy =>
    exact counted_goOn (counted.count (by rw [busy]; rfl)) (counted.begun purpose (by rw [busy]; rfl))
  | failedOne | failedAll | ended => exact ⟨nofun, nofun⟩
  | @drained command rest error busy =>
    refine ⟨?_, ?_⟩
    · intro sound
      rw [show ({ writer with queue := rest } : Writer).activity = .closing error from busy] at sound
      cases sound
    · rintro purpose serves
      rw [show ({ writer with queue := rest } : Writer).activity = .closing error from busy] at serves
      cases serves

/-- A worker that has gone wrong counts nothing off. -/
theorem Steps.pending_of_error {completions : List (Ticket × Outcome)} (steps : writer.Steps completions after)
    {error : SendError} (wrong : writer.activity.error? = some error) : after.pending = writer.pending := by
  cases steps with
  | advanced busy | wentOn busy =>
    rw [busy] at wrong
    cases wrong
  | failed | called | completed | failedOne | failedAll | drained | ended => rfl

/-- The step in which a call fails counts nothing off. -/
theorem Steps.pending_of_fault {completions : List (Ticket × Outcome)} (steps : writer.Steps completions after)
    {error : TransportError} (fault : writer.fault? = some error) : after.pending = writer.pending := by
  cases steps with
  | advanced busy | wentOn busy => simp [fault?, busy] at fault
  | failed | called | completed | failedOne | failedAll | drained | ended => rfl

end Writer

namespace History

variable {history after : History}

/-- What an event other than a step of the worker leaves alone. Each command that comes is pending. -/
structure Aside (before after : History) : Prop extends before.Quiet after where
  settings : after.writer.settings = before.writer.settings
  keys : after.writer.keys = before.writer.keys
  taken : after.writer.taken = before.writer.taken
  encoded : after.writer.encoded = before.writer.encoded
  autoDue : after.writer.autoDue = before.writer.autoDue
  pending : after.writer.pending + before.accepted.length = before.writer.pending + after.accepted.length

theorem aside_refl (history : History) : history.Aside history :=
  ⟨history.quiet_refl, rfl, rfl, rfl, rfl, rfl, rfl⟩

theorem aside_submit (held : history.writer.handles ≠ 0) (command : Command) :
    history.Aside (history.submit command).2 := by
  have quiet := quiet_submit held command
  revert quiet
  unfold submit
  rcases Writer.enqueue_cases history.writer command with ⟨unclosed, taken⟩ | ⟨error, refused⟩
  · rw [taken]
    refine fun quiet => ⟨quiet, rfl, rfl, rfl, rfl, rfl, ?_⟩
    simp only [List.length_append, List.length_singleton]
    omega
  · rw [refused]
    exact fun quiet => ⟨quiet, rfl, rfl, rfl, rfl, rfl, rfl⟩

theorem aside_or_steps (history : History) (event : WriterEvent) :
    history.Aside (history.after event) ∨
      ∃ completions writer, event = .step ∧ history.writer.Steps completions writer ∧
        history.after event = ⟨writer, history.accepted, history.completed ++ completions⟩ := by
  rcases history.quiet_or_steps event with quiet | steps
  case inr => exact .inr steps
  revert quiet
  cases event with
  | command command =>
    dsimp only [History.after]
    split
    case isTrue => exact fun _ => .inl history.aside_refl
    case isFalse held => exact fun _ => .inl (aside_submit held command)
  | cloneHandle =>
    dsimp only [History.after]
    split <;> exact fun quiet => .inl ⟨quiet, rfl, rfl, rfl, rfl, rfl, rfl⟩
  | dropHandle | setIdleTimeout => exact fun quiet => .inl ⟨quiet, rfl, rfl, rfl, rfl, rfl, rfl⟩
  | step =>
    dsimp only [History.after, work]
    split
    case h_1 completions writer step =>
      exact fun _ => .inr ⟨completions, writer, rfl, Writer.steps_of_step step, rfl⟩
    case h_2 => exact fun _ => .inl history.aside_refl

/-- What the steps of the worker and the events aside from them keep, a history keeps. -/
theorem afterAll_holds (Inv : History → Prop) (aside : ∀ {history after}, Aside history after → Inv history → Inv after)
    (steps : ∀ {history completions writer}, history.writer.Steps completions writer → Inv history →
      Inv ⟨writer, history.accepted, history.completed ++ completions⟩)
    (events : List WriterEvent) (holds : Inv history) : Inv (history.afterAll events) := by
  induction events generalizing history with
  | nil => exact holds
  | cons event events ih =>
    apply ih
    rcases history.aside_or_steps event with apart | ⟨completions, writer, -, stepped, same⟩
    · exact aside apart holds
    · rw [same]
      exact steps stepped holds

/-- The settings and the keys of a history are those its writer was begun with. -/
theorem settled_afterAll (history : History) (events : List WriterEvent) :
    (history.afterAll events).writer.settings = history.writer.settings ∧
      (history.afterAll events).writer.keys = history.writer.keys := by
  refine afterAll_holds
    (fun later => later.writer.settings = history.writer.settings ∧ later.writer.keys = history.writer.keys) ?_ ?_
    events ⟨rfl, rfl⟩
  · exact fun apart ⟨settings, keys⟩ => ⟨apart.settings.trans settings, apart.keys.trans keys⟩
  · exact fun steps ⟨settings, keys⟩ => ⟨steps.settled.1.trans settings, steps.settled.2.trans keys⟩

theorem settings_afterAll {settings : WriterSettings} {keys : Nat → MaskKey} {transport : Transport} {writer : Writer}
    (begun : Writer.start? settings keys transport = some writer) (events : List WriterEvent) :
    ((start writer).afterAll events).writer.settings = settings := by
  refine ((start writer).settled_afterAll events).1.trans ?_
  unfold Writer.start? at begun
  split at begun <;> cases begun
  rfl

theorem Aside.counted (apart : history.Aside after) (counted : history.writer.Counted) : after.writer.Counted := by
  obtain ⟨more, accepted, queue, _⟩ := apart.came
  have pending := apart.pending
  rw [accepted, List.length_append] at pending
  refine ⟨fun sound => ?_, fun purpose serves other => ?_⟩
  · rw [apart.activity] at sound
    have count := counted.count sound
    rw [apart.taken, queue, List.length_append]
    omega
  · rw [apart.activity] at serves
    rw [apart.taken]
    exact counted.begun purpose serves other

/-- In every history, what is pending is counted until the worker goes wrong. -/
theorem counted_afterAll {settings : WriterSettings} {keys : Nat → MaskKey} {transport : Transport} {writer : Writer}
    (begun : Writer.start? settings keys transport = some writer) (events : List WriterEvent) :
    ((start writer).afterAll events).writer.Counted := by
  refine afterAll_holds (fun later => later.writer.Counted) (fun apart counted => apart.counted counted)
    (fun steps counted => steps.counted counted) events ?_
  unfold Writer.start? at begun
  split at begun
  · cases begun
  · cases begun
    exact Writer.counted_of_idle rfl rfl

end History
end Egress
