import Egress.Proofs.WriterPasses

/-!
A writer whose worker has ended because its transport failed. Nothing is counted off after the failure, so what was
pending in the pass of the failure, and what came before the queue was closed, stays pending for good. Senders are
refused ever after; they are told that the connection is closed as long as these commands are fewer than the limit, and
that too many are pending otherwise.
-/
namespace Egress.History

variable {before history after : History} {error : TransportError}

/-- A history in which a call on the transport has failed since another one. Every command accepted since then is
pending, with all that was pending before. -/
structure Stuck (before : History) (error : TransportError) (history : History) : Prop where
  wrong : history.writer.activity.error? = some (.transport error)
  longer : before.accepted <+: history.accepted
  pending : history.writer.pending + before.accepted.length = before.writer.pending + history.accepted.length
  alone : before.writer.handles = 0 → history.writer.handles = 0

theorem Stuck.aside (stuck : before.Stuck error history) (apart : history.Aside after) : before.Stuck error after := by
  obtain ⟨more, accepted, _, _⟩ := apart.came
  constructor
  · rw [apart.activity]
    exact stuck.wrong
  · rw [accepted]
    exact stuck.longer.trans (List.prefix_append _ _)
  · have since := stuck.pending
    have now := apart.pending
    omega
  · exact fun none => apart.handles (stuck.alone none)

theorem Stuck.steps (stuck : before.Stuck error history) (kept : history.Kept) {completions : List (Ticket × Outcome)}
    {writer : Writer} (steps : history.writer.Steps completions writer) :
    before.Stuck error ⟨writer, history.accepted, history.completed ++ completions⟩ := by
  constructor
  · exact steps.error_kept stuck.wrong
  · exact stuck.longer
  · show writer.pending + _ = _
    rw [steps.pending_of_error stuck.wrong]
    exact stuck.pending
  · exact fun none => (steps.handles kept.tidy.filed).trans (stuck.alone none)

theorem Stuck.afterAll (stuck : before.Stuck error history) (kept : history.Kept) (events : List WriterEvent) :
    before.Stuck error (history.afterAll events) := by
  refine (afterAll_holds (fun later => later.Kept ∧ before.Stuck error later) ?_ ?_ events ⟨kept, stuck⟩).2
  · exact fun apart ⟨kept, stuck⟩ => ⟨kept.quiet apart.toQuiet, stuck.aside apart⟩
  · exact fun steps ⟨kept, stuck⟩ => ⟨kept.steps steps, stuck.steps kept steps⟩

/-- If the worker has ended, it ended with the error. -/
theorem Stuck.ended (stuck : before.Stuck error history) (stopped : history.writer.ended ≠ none) :
    history.writer.activity = .ended (.error (.transport error)) := by
  have wrong := stuck.wrong
  unfold Writer.ended at stopped
  split at stopped
  case h_1 outcome dead =>
    rw [dead] at wrong ⊢
    rcases outcome with other | ⟨⟩
    · cases wrong
      rfl
    · cases wrong
  case h_2 => exact absurd rfl stopped

/-- The step in which a call fails. -/
theorem Kept.stuck_of_fault (kept : history.Kept) (fault : history.writer.fault? = some error) :
    history.Stuck error (history.after .step) := by
  rcases history.aside_or_steps .step with apart | ⟨completions, writer, -, steps, same⟩
  · -- a worker whose call fails makes a step
    have failed := (kept.work_fault fault).wrong
    change (history.after .step).writer.activity.error? = _ at failed
    rw [apart.activity] at failed
    rcases Writer.purpose_of_fault fault with ⟨_, _, _, _, busy⟩ | ⟨_, _, busy⟩ <;>
    · rw [busy] at failed
      cases failed
  · rw [same]
    obtain ⟨_, failing⟩ := steps.of_fault fault
    constructor
    · rw [failing]
      rfl
    · exact List.prefix_rfl
    · show writer.pending + _ = _
      rw [steps.pending_of_fault fault]
    · exact fun none => (steps.handles kept.tidy.filed).trans none

/-- A worker in the middle of a pass has taken a command, unless it writes to end and no handle is left. -/
theorem Kept.begun_of_fault (kept : history.Kept) (counted : history.writer.Counted)
    (fault : history.writer.fault? = some error) (held : history.writer.handles ≠ 0) : 0 < history.writer.taken := by
  have serves : ∃ purpose, history.writer.activity.purpose? = some purpose := by
    rcases Writer.purpose_of_fault fault with ⟨_, _, _, purpose, busy⟩ | ⟨_, purpose, busy⟩ <;>
      exact ⟨purpose, by rw [busy]; rfl⟩
  obtain ⟨purpose, serves⟩ := serves
  apply counted.begun purpose serves
  rintro rfl
  exact held (kept.tidy.last _ serves rfl).2

/-- A worker that has ended does nothing more, and its queue takes nothing. -/
theorem dead_afterAll {outcome : Outcome} (dead : history.writer.activity = .ended outcome) (events : List WriterEvent) :
    (history.afterAll events).writer.activity = .ended outcome ∧
      (history.afterAll events).writer.pending = history.writer.pending := by
  refine afterAll_holds
    (fun later => later.writer.activity = .ended outcome ∧ later.writer.pending = history.writer.pending) ?_ ?_ events
    ⟨dead, rfl⟩
  · rintro now later apart ⟨dead, pending⟩
    refine ⟨apart.activity.trans dead, ?_⟩
    obtain ⟨more, accepted, _, may⟩ := apart.came
    have closed : now.writer.isClosed = true := by rw [Writer.isClosed, dead]
    have nothing : more = [] := may.resolve_right fun open_ => by simp [closed] at open_
    have same := apart.pending
    rw [accepted, nothing, List.append_nil] at same
    omega
  · rintro now completions writer steps ⟨dead, -⟩
    cases steps with
    | advanced busy | completed busy | wentOn busy | failedOne busy | failedAll busy | drained busy | ended busy =>
      cases dead.symm.trans busy
    | failed serves | called serves =>
      rw [dead] at serves
      cases serves

/-- What a sender is told by a writer that is closed. -/
theorem submit_of_closed (closed : history.writer.isClosed = true) (command : Command) :
    history.submit command =
      (.error (if history.writer.settings.maxPending ≤ history.writer.pending then .backpressure else .closed),
        history) := by
  unfold submit Writer.enqueue
  by_cases many : history.writer.settings.maxPending ≤ history.writer.pending
  · rw [if_pos many, if_pos many]
  · rw [if_neg many, if_neg many, if_pos closed]

/-- When a call on the transport has failed, the commands taken in that pass, those in the queue, and those that came
since stay pending, and there is at least one as long as a handle is left. Once the worker has ended, every command is
refused for good: as too many if the limit is at most as many as stay pending, and otherwise because the connection is
closed. -/
theorem refused_after_fault {settings : WriterSettings} {keys : Nat → MaskKey} {transport : Transport} {writer : Writer}
    (begun : Writer.start? settings keys transport = some writer) {front : List WriterEvent}
    (fault : ((start writer).afterAll front).writer.fault? = some error) (back : List WriterEvent) :
    let before := (start writer).afterAll front
    let history := (start writer).afterAll (front ++ .step :: back)
    let stay := before.writer.taken + before.writer.queue.length + (history.accepted.length - before.accepted.length)
    history.writer.pending = stay ∧
    (history.writer.handles ≠ 0 → 0 < stay) ∧
    history.writer.isBackpressureActive = decide (settings.maxPending ≤ stay) ∧
    (history.writer.ended ≠ none →
      history.writer.ended = some (.error (.transport error)) ∧
      ∀ later command,
        (history.afterAll later).submit command =
          (.error (if settings.maxPending ≤ stay then .backpressure else .closed), history.afterAll later) ∧
        (history.afterAll later).writer.pending = stay) := by
  intro before history stay
  have kept : before.Kept := (kept_start begun).afterAll front
  have counted : before.writer.Counted := counted_afterAll begun front
  have same : history = (before.after .step).afterAll back := by
    simp only [history, before, afterAll, List.foldl_append, List.foldl_cons]
  have stuck : before.Stuck error history := by
    rw [same]
    exact (kept.stuck_of_fault fault).afterAll (kept.afterAll [.step]) back
  have limits : history.writer.settings = settings := settings_afterAll begun _
  have unharmed : before.writer.activity.error? = none := by
    rcases Writer.purpose_of_fault fault with ⟨_, _, _, _, busy⟩ | ⟨_, _, busy⟩ <;> rw [busy] <;> rfl
  have pending : history.writer.pending = stay := by
    have earlier := counted.count unharmed
    have since := stuck.pending
    have fewer := stuck.longer.length_le
    omega
  refine ⟨pending, ?_, ?_, ?_⟩
  · intro held
    have taken := kept.begun_of_fault counted fault fun none => held (stuck.alone none)
    omega
  · rw [Writer.isBackpressureActive, limits, pending]
  · intro stopped
    have dead := stuck.ended stopped
    constructor
    · rw [Writer.ended, dead]
    · intro later command
      obtain ⟨still, unchanged⟩ := dead_afterAll dead later
      have closed : (history.afterAll later).writer.isClosed = true := by rw [Writer.isClosed, still]
      refine ⟨?_, unchanged.trans pending⟩
      rw [submit_of_closed closed, unchanged, pending, (history.settled_afterAll later).1, limits]

def brokenPipe : TransportError := ⟨.brokenPipe, "gone"⟩

/-- A writer whose transport fails at once. -/
def gone (maxPending : Nat) : Writer :=
  .start { WriterSettings.standard with maxPending } (fun _ => ⟨0, 0, 0, 0⟩)
    { Transport.unlimited with writes := [.fail brokenPipe] }

/-- A frame that is taken and about to be written, with another one behind it in the queue. -/
def goneFront : List WriterEvent := [.command (.frame ⟨.text, true, [97]⟩ 0 .off), .step, .command (.flush 1)]

/-- The failure, a frame that comes before the queue is closed, and the end. -/
def goneBack : List WriterEvent :=
  [.command (.frame ⟨.text, true, [98]⟩ 2 .off)] ++ List.replicate 5 .step

theorem refused_after_fault_gone :
    let before := (start (gone 4)).afterAll goneFront
    let history := (start (gone 4)).afterAll (goneFront ++ .step :: goneBack)
    Writer.start? (gone 4).settings (gone 4).keys (gone 4).transport = some (gone 4) ∧
    before.writer.fault? = some brokenPipe ∧ history.writer.handles ≠ 0 ∧ history.writer.ended ≠ none ∧
    history.writer.pending = 3 ∧ history.writer.isBackpressureActive = false ∧
    ((history.afterAll [.cloneHandle]).submit (.flush 3)).1 = .error .closed := by
  intro before history
  have begun : Writer.start? (gone 4).settings (gone 4).keys (gone 4).transport = some (gone 4) := rfl
  have fault : before.writer.fault? = some brokenPipe := rfl
  have held : history.writer.handles ≠ 0 := by decide
  have stopped : history.writer.ended ≠ none := by
    have last : history.writer.ended = some (.error (.transport brokenPipe)) := rfl
    simp [last]
  obtain ⟨pending, _, active, dead⟩ := refused_after_fault begun fault goneBack
  refine ⟨begun, fault, held, stopped, pending.trans rfl, active.trans rfl, ?_⟩
  rw [((dead stopped).2 [.cloneHandle] (.flush 3)).1]
  rfl

/-- One command may be pending. After the failure the worker has ended, but its command is still pending, so that the
next one is not told that the connection is closed. -/
theorem closed_writer_says_busy :
    let history := (start (gone 1)).afterAll (.command (.frame ⟨.text, true, [97]⟩ 0 .off) :: List.replicate 5 .step)
    Writer.start? (gone 1).settings (gone 1).keys (gone 1).transport = some (gone 1) ∧
    history.writer.ended = some (.error (.transport brokenPipe)) ∧
    history.completed = [(0, .error (.transport brokenPipe))] ∧
    (history.submit (.frame ⟨.text, true, [98]⟩ 1 .off)).1 = .error .backpressure ∧
    history.writer.isBackpressureActive = true ∧ history.writer.pending = 1 := by
  refine ⟨rfl, rfl, rfl, rfl, rfl, rfl⟩

end Egress.History
