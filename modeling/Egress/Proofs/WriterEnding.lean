import Egress.Proofs.WriterHistory
import Egress.Proofs.WriterOrder
import Egress.Proofs.WriterRest

/-!
How a writer ends. Each command that was accepted is answered once, in the order in which the commands were accepted,
before the worker ends. As long as no call on the transport fails, every answer is success; after the first one that
fails the transport is left alone, the commands that had left the queue get its error, and the others learn that the
connection is closed.
-/
namespace Egress

/-- A worker that has gone wrong and makes no more steps has ended with its error. -/
theorem Writer.ended_of_error {writer : Writer} {error : SendError} (wrong : writer.activity.error? = some error)
    (rest : writer.step? = none) : writer.ended = some (.error error) := by
  unfold step? at rest
  unfold ended
  cases busy : writer.activity with
  | failing tickets other =>
    rw [busy] at rest
    cases tickets <;> cases rest
  | closing other =>
    rw [busy] at rest
    dsimp only at rest
    split at rest <;> cases rest
  | ended outcome =>
    rw [busy] at wrong
    rcases outcome with other | ⟨⟩
    · obtain rfl : other = error := Option.some.inj wrong
      rfl
    · cases wrong
  | ready | writing | flushing | completing =>
    rw [busy] at wrong
    cases wrong

namespace History

variable {history after : History}

/-- What an event other than a step of the worker changes: commands may come to the queue, unless it is closed or no
handle is left. -/
structure Quiet (before after : History) : Prop where
  activity : after.writer.activity = before.writer.activity
  batch : after.writer.batch = before.writer.batch
  transport : after.writer.transport = before.writer.transport
  completed : after.completed = before.completed
  handles : before.writer.handles = 0 → after.writer.handles = 0
  came : ∃ more, after.accepted = before.accepted ++ more ∧ after.writer.queue = before.writer.queue ++ more ∧
    (more = [] ∨ before.writer.handles ≠ 0 ∧ before.writer.isClosed = false)

theorem quiet_refl (history : History) : history.Quiet history :=
  ⟨rfl, rfl, rfl, rfl, id, [], (List.append_nil _).symm, (List.append_nil _).symm, .inl rfl⟩

theorem quiet_submit (held : history.writer.handles ≠ 0) (command : Command) :
    history.Quiet (history.submit command).2 := by
  unfold submit
  rcases Writer.enqueue_cases history.writer command with ⟨unclosed, taken⟩ | ⟨error, refused⟩
  · rw [taken]
    exact ⟨rfl, rfl, rfl, rfl, id, [command], rfl, rfl, .inr ⟨held, unclosed⟩⟩
  · rw [refused]
    exact history.quiet_refl

/-- An event is quiet, unless it is a step that the worker makes. -/
theorem quiet_or_steps (history : History) (event : WriterEvent) :
    history.Quiet (history.after event) ∨
      ∃ completions writer, event = .step ∧ history.writer.Steps completions writer ∧
        history.after event = ⟨writer, history.accepted, history.completed ++ completions⟩ := by
  have renamed {writer : Writer} (activity : writer.activity = history.writer.activity)
      (batch : writer.batch = history.writer.batch) (transport : writer.transport = history.writer.transport)
      (queue : writer.queue = history.writer.queue)
      (handles : history.writer.handles = 0 → writer.handles = 0) : history.Quiet { history with writer } :=
    ⟨activity, batch, transport, rfl, handles, [], (List.append_nil _).symm,
      queue.trans (List.append_nil _).symm, .inl rfl⟩
  cases event with
  | command command =>
    refine .inl ?_
    dsimp only [History.after]
    split
    case isTrue => exact history.quiet_refl
    case isFalse held => exact quiet_submit held command
  | cloneHandle =>
    refine .inl ?_
    dsimp only [History.after]
    split
    case isTrue => exact history.quiet_refl
    case isFalse held => exact renamed rfl rfl rfl rfl fun none => absurd none held
  | dropHandle => exact .inl (renamed rfl rfl rfl rfl fun none => congrArg (· - 1) none)
  | setIdleTimeout span => exact .inl (renamed rfl rfl rfl rfl id)
  | step =>
    dsimp only [History.after, work]
    split
    case h_1 completions writer step => exact .inr ⟨completions, writer, rfl, Writer.steps_of_step step, rfl⟩
    case h_2 => exact .inl history.quiet_refl

/-- What quiet events and the steps of the worker keep, a history keeps. -/
theorem afterAll_keeps (Inv : History → Prop) (quiet : ∀ {history after}, Quiet history after → Inv history → Inv after)
    (steps : ∀ {history completions writer}, history.writer.Steps completions writer → Inv history →
      Inv ⟨writer, history.accepted, history.completed ++ completions⟩)
    (events : List WriterEvent) (holds : Inv history) : Inv (history.afterAll events) := by
  induction events generalizing history with
  | nil => exact holds
  | cons event events ih =>
    refine ih ?_
    rcases history.quiet_or_steps event with quietly | ⟨completions, writer, -, stepped, same⟩
    · exact quiet quietly holds
    · rw [same]
      exact steps stepped holds

/-- The worker comes to rest after some steps. -/
theorem rests (history : History) : ∃ steps, (history.afterAll (List.replicate steps .step)).writer.step? = none := by
  induction effort : history.writer.effort using Nat.strongRecOn generalizing history with
  | ind bound ih =>
    cases step : history.writer.step? with
    | none => exact ⟨0, step⟩
    | some next =>
      have worked : history.work.writer = next.2 := by
        unfold History.work
        rw [step]
      have less : history.work.writer.effort < bound := by
        rw [worked, ← effort]
        exact Writer.step_effort step
      obtain ⟨steps, rest⟩ := ih _ less history.work rfl
      exact ⟨steps + 1, rest⟩

/-! ## Every history -/

/-- The tickets completed and held are those of the commands accepted, and a worker that has not gone wrong has
completed with success only. -/
structure Kept (history : History) : Prop where
  tickets : history.completed.map Prod.fst ++ history.writer.tickets = history.accepted.map Command.ticket
  tidy : history.writer.Tidy
  well : history.writer.activity.error? = none → ∀ completion ∈ history.completed, completion.2 = .ok ()

theorem kept_start {settings : WriterSettings} {keys : Nat → MaskKey} {transport : Transport} {writer : Writer}
    (begun : Writer.start? settings keys transport = some writer) : (start writer).Kept := by
  unfold Writer.start? at begun
  split at begun
  · cases begun
  · cases begun
    exact ⟨rfl, Writer.tidy_of_idle rfl rfl, nofun⟩

theorem Kept.quiet (kept : history.Kept) (quiet : history.Quiet after) : after.Kept := by
  obtain ⟨more, accepted, queue, may⟩ := quiet.came
  have filed : after.writer.Filed := by
    have before := kept.tidy.filed
    unfold Writer.Filed at before ⊢
    rw [quiet.activity]
    split at before
    · rw [Writer.Paired, quiet.batch]
      exact before
    · exact ⟨quiet.batch ▸ before.frames, quiet.batch ▸ before.tickets⟩
  refine ⟨?_, ⟨filed, ?_, ?_⟩, ?_⟩
  · rw [quiet.completed, accepted, List.map_append, ← kept.tickets]
    simp [Writer.tickets, quiet.activity, quiet.batch, queue]
  · intro purpose serves finish
    rw [quiet.activity] at serves
    obtain ⟨none, alone⟩ := kept.tidy.last purpose serves finish
    have nothing : more = [] := may.resolve_right fun open_ => open_.1 alone
    exact ⟨by rw [queue, none, nothing]; rfl, quiet.handles alone⟩
  · intro stopped
    have before : history.writer.ended ≠ none := by
      unfold Writer.ended at stopped ⊢
      rwa [quiet.activity] at stopped
    have closed : history.writer.isClosed = true := by
      unfold Writer.ended at before
      split at before
      · rename_i ended
        rw [Writer.isClosed, ended]
      · exact absurd rfl before
    have nothing : more = [] := may.resolve_right fun open_ => by simp [closed] at open_
    rw [queue, kept.tidy.ended before, nothing]
    rfl
  · rw [quiet.activity, quiet.completed]
    exact kept.well

theorem Kept.steps (kept : history.Kept) {completions : List (Ticket × Outcome)} {writer : Writer}
    (steps : history.writer.Steps completions writer) :
    Kept ⟨writer, history.accepted, history.completed ++ completions⟩ := by
  have filed := kept.tidy.filed
  refine ⟨?_, steps.tidy kept.tidy, fun sound => ?_⟩
  · rw [List.map_append, List.append_assoc, steps.tickets filed]
    exact kept.tickets
  · cases wrong : history.writer.activity.error? with
    | some error => cases (steps.error_kept wrong).symm.trans sound
    | none =>
      cases fault : history.writer.fault? with
      | some error =>
        rw [(steps.of_fault fault).2] at sound
        cases sound
      | none =>
        intro completion member
        rcases List.mem_append.mp member with earlier | now
        · exact kept.well wrong completion earlier
        · exact (steps.well filed wrong fault).2 completion now

theorem Kept.afterAll (kept : history.Kept) (events : List WriterEvent) : (history.afterAll events).Kept :=
  afterAll_keeps Kept (fun quiet kept => kept.quiet quiet) (fun steps kept => kept.steps steps) events kept

/-- A worker that has ended has answered all that was accepted. -/
theorem Kept.completed_of_ended (kept : history.Kept) (stopped : history.writer.ended ≠ none) :
    history.completed.map Prod.fst = history.accepted.map Command.ticket := by
  have nothing : history.writer.tickets = [] := by
    have filed := kept.tidy.filed
    have queue := kept.tidy.ended stopped
    unfold Writer.ended at stopped
    split at stopped
    · rename_i ended
      simp only [Writer.Filed, ended] at filed
      simp [Writer.tickets, ended, Activity.tickets, queue, filed.tickets]
    · exact absurd rfl stopped
  rw [← kept.tickets, nothing, List.append_nil]

/-- As long as no call fails, the worker does not go wrong. -/
theorem Kept.sound_of_safe (kept : history.Kept) (sound : history.writer.activity.error? = none)
    {events : List WriterEvent}
    (safe : ∀ front back, events = front ++ .step :: back → (history.afterAll front).writer.fault? = none) :
    (history.afterAll events).writer.activity.error? = none := by
  induction events generalizing history with
  | nil => exact sound
  | cons event events ih =>
    have later : ∀ front back, events = front ++ .step :: back →
        ((history.after event).afterAll front).writer.fault? = none :=
      fun front back split => safe (event :: front) back (congrArg (event :: ·) split)
    rcases history.quiet_or_steps event with quiet | ⟨completions, writer, rfl, steps, same⟩
    · exact ih (kept.quiet quiet) (by rw [quiet.activity, sound]) later
    · have unharmed := (steps.well kept.tidy.filed sound (safe [] events rfl)).1
      refine ih ?_ ?_ later
      · rw [same]
        exact kept.steps steps
      · rw [same]
        exact unharmed

/-! ## After a failure -/

/-- The outcome of the `n`-th command when the transport fails: the first `done` have been completed, and `taken`
have left the queue. -/
def dueOutcome (done taken : Nat) (error : TransportError) (n : Nat) : Outcome :=
  if n < done then .ok () else if n < taken then .error (.transport error) else .error .closed

/-- A history in which a call on the transport has failed. -/
structure Failed (done taken : Nat) (error : TransportError) (transport : Transport) (history : History) : Prop where
  transport : history.writer.transport = transport
  outcomes : ∀ n ticket outcome, history.completed[n]? = some (ticket, outcome) →
    outcome = dueOutcome done taken error n
  done : done ≤ history.completed.length
  wrong : history.writer.activity.error? = some (.transport error)
  /-- What was taken is failed first. -/
  due : match history.writer.activity with
    | .failing tickets _ => history.completed.length + tickets.length = taken
    | _ => taken ≤ history.completed.length

theorem Failed.quiet {done taken : Nat} {error : TransportError} {transport : Transport}
    (failed : history.Failed done taken error transport) (quiet : history.Quiet after) :
    after.Failed done taken error transport := by
  refine ⟨quiet.transport.trans failed.transport, ?_, ?_, ?_, ?_⟩
  · rw [quiet.completed]
    exact failed.outcomes
  · rw [quiet.completed]
    exact failed.done
  · rw [quiet.activity]
    exact failed.wrong
  · rw [quiet.activity, quiet.completed]
    exact failed.due

/-- The outcomes of the commands, when one more has got the outcome that is due. -/
theorem Failed.outcomes_concat {done taken : Nat} {error : TransportError} {transport : Transport}
    (failed : history.Failed done taken error transport) {last : Ticket × Outcome}
    (now : last.2 = dueOutcome done taken error history.completed.length) :
    ∀ n ticket outcome, (history.completed ++ [last])[n]? = some (ticket, outcome) →
      outcome = dueOutcome done taken error n := by
  intro n ticket outcome completion
  by_cases earlier : n < history.completed.length
  · rw [List.getElem?_append_left earlier] at completion
    exact failed.outcomes n ticket outcome completion
  · rw [List.getElem?_append_right (Nat.le_of_not_lt earlier)] at completion
    obtain ⟨inside, same⟩ := List.getElem?_eq_some_iff.mp completion
    have here : n = history.completed.length := by
      rw [List.length_singleton] at inside
      omega
    subst here
    simp only [Nat.sub_self, List.getElem_cons_zero] at same
    rw [← now, same]

theorem Failed.steps {done taken : Nat} {error : TransportError} {transport : Transport}
    (failed : history.Failed done taken error transport) {completions : List (Ticket × Outcome)} {writer : Writer}
    (steps : history.writer.Steps completions writer) :
    Failed done taken error transport ⟨writer, history.accepted, history.completed ++ completions⟩ := by
  obtain ⟨same, next⟩ := steps.of_error failed.wrong
  have due := failed.due
  have begun := failed.done
  have wrong := steps.error_kept failed.wrong
  rcases next with ⟨ticket, tickets, busy, rfl, later⟩ | ⟨busy, rfl, later⟩ | ⟨ticket, busy, rfl, later⟩ |
    ⟨busy, rfl, later⟩
  all_goals
    rw [busy] at due
    dsimp only at due
  · rw [List.length_cons] at due
    refine ⟨same.trans failed.transport, failed.outcomes_concat ?_, ?_, wrong, ?_⟩
    · rw [dueOutcome, if_neg (by omega), if_pos (by omega)]
    · rw [List.length_append]
      omega
    · simp only [later, List.length_append, List.length_singleton]
      omega
  · refine ⟨same.trans failed.transport, ?_, ?_, wrong, ?_⟩
    · simpa using failed.outcomes
    · simpa using begun
    · simp only [later, List.append_nil]
      exact Nat.le_of_eq due.symm
  · refine ⟨same.trans failed.transport, failed.outcomes_concat ?_, ?_, wrong, ?_⟩
    · rw [dueOutcome, if_neg (by omega), if_neg (by omega)]
    · rw [List.length_append]
      omega
    · simp only [later, List.length_append]
      omega
  · refine ⟨same.trans failed.transport, ?_, ?_, wrong, ?_⟩
    · simpa using failed.outcomes
    · simpa using begun
    · simpa [later] using due

theorem Failed.afterAll {done taken : Nat} {error : TransportError} {transport : Transport}
    (failed : history.Failed done taken error transport) (events : List WriterEvent) :
    (history.afterAll events).Failed done taken error transport :=
  afterAll_keeps (Failed done taken error transport) (fun quiet failed => failed.quiet quiet)
    (fun steps failed => failed.steps steps) events failed

/-- The step in which a call fails. What has left the queue and not been completed is at hand. -/
theorem Kept.work_fault (kept : history.Kept) {error : TransportError} (fault : history.writer.fault? = some error) :
    history.work.Failed history.completed.length (history.accepted.length - history.writer.queue.length) error
      history.work.writer.transport := by
  cases step : history.writer.step? with
  | none =>
    rcases Writer.purpose_of_fault fault with ⟨frames, tickets, count, purpose, busy⟩ | ⟨tickets, purpose, busy⟩ <;>
      simp [Writer.step?, busy] at step
  | some next =>
    obtain ⟨completions, writer⟩ := next
    have worked : history.work = ⟨writer, history.accepted, history.completed ++ completions⟩ := by
      rw [work, step]
    obtain ⟨rfl, failing⟩ := (Writer.steps_of_step step).of_fault fault
    rw [List.append_nil] at worked
    have clear := kept.tidy.filed.clear_of_fault fault
    have unharmed : history.writer.activity.error? = none := by
      rcases Writer.purpose_of_fault fault with ⟨_, _, _, _, busy⟩ | ⟨_, _, busy⟩ <;> rw [busy] <;> rfl
    have lengths := congrArg List.length kept.tickets
    rw [clear.held] at lengths
    simp only [List.length_append, List.length_map] at lengths
    rw [worked]
    refine ⟨rfl, ?_, Nat.le_refl _, ?_, ?_⟩
    · intro n ticket outcome completion
      rw [dueOutcome, if_pos (List.getElem?_eq_some_iff.mp completion).1]
      exact kept.well unharmed _ (List.mem_of_getElem? completion)
    · rw [failing]
      rfl
    · rw [failing]
      dsimp only
      omega

/-- Without a handle, the worker ends after some steps. -/
theorem Kept.ends (kept : history.Kept) (alone : history.writer.handles = 0) :
    ∃ steps, (history.afterAll (List.replicate steps .step)).writer.ended ≠ none := by
  obtain ⟨steps, rest⟩ := history.rests
  refine ⟨steps, Writer.ended_of_rest rest ?_⟩
  refine (afterAll_keeps (fun later => later.Kept ∧ later.writer.handles = 0) ?_ ?_ _ ⟨kept, alone⟩).2
  · exact fun quiet ⟨kept, alone⟩ => ⟨kept.quiet quiet, quiet.handles alone⟩
  · exact fun steps ⟨kept, alone⟩ => ⟨kept.steps steps, (steps.handles kept.tidy.filed).trans alone⟩

/-- In every history of a writer, whatever its transport does: the commands that were accepted are completed in their
order, each once, and all of them before the worker ends, which it does when all handles are gone. If no call on the
transport fails, every outcome is success. If one fails, then no call is made after it, the worker ends with that
error, and the outcomes are success for the commands completed before, that error for the others that had left the
queue, and for the rest that the connection is closed. -/
theorem commands_answered {settings : WriterSettings} {keys : Nat → MaskKey} {transport : Transport} {writer : Writer}
    (begun : Writer.start? settings keys transport = some writer) (events : List WriterEvent) :
    let history := (start writer).afterAll events
    history.completed.map Prod.fst <+: history.accepted.map Command.ticket ∧
    (history.writer.ended ≠ none → history.completed.map Prod.fst = history.accepted.map Command.ticket) ∧
    (history.writer.handles = 0 → ∃ steps, (history.afterAll (List.replicate steps .step)).writer.ended ≠ none) ∧
    ((∀ front back, events = front ++ .step :: back → ((start writer).afterAll front).writer.fault? = none) →
      ∀ completion ∈ history.completed, completion.2 = .ok ()) ∧
    ∀ front back error, events = front ++ .step :: back →
      ((start writer).afterAll front).writer.fault? = some error →
      let before := (start writer).afterAll front
      history.writer.transport = before.work.writer.transport ∧
      (∀ n ticket outcome, history.completed[n]? = some (ticket, outcome) →
        outcome = dueOutcome before.completed.length (before.accepted.length - before.writer.queue.length) error n) ∧
      ∃ steps, (history.afterAll (List.replicate steps .step)).writer.ended = some (.error (.transport error)) := by
  intro history
  have started := kept_start begun
  have kept : history.Kept := started.afterAll events
  refine ⟨⟨_, kept.tickets⟩, kept.completed_of_ended, kept.ends, fun safe => ?_, ?_⟩
  · refine kept.well (started.sound_of_safe ?_ safe)
    unfold Writer.start? at begun
    split at begun <;> cases begun
    rfl
  · intro front back error split fault before
    have failed := ((started.afterAll front).work_fault fault).afterAll back
    have same : history = before.work.afterAll back := by
      simp only [history, before, split, afterAll, List.foldl_append, List.foldl_cons]
      rfl
    rw [← same] at failed
    obtain ⟨steps, rest⟩ := history.rests
    exact ⟨failed.transport, failed.outcomes,
      steps, Writer.ended_of_error (failed.afterAll _).wrong rest⟩

def peerReset : TransportError := ⟨.connectionReset, "connection reset by peer"⟩

/-- A server over a transport that fails in the middle of its second batch. -/
def breaking : Writer :=
  .start .standard (fun _ => ⟨0, 0, 0, 0⟩) { Transport.unlimited with writes := [.take 3, .take 2, .fail peerReset] }

/-- A frame that is written at once; then one that waits for a flush, the flush, and a frame that stays in the queue. -/
def breakingEvents : List WriterEvent :=
  [.command (.frame ⟨.binary, true, [7]⟩ 0 .off)] ++ List.replicate 6 .step ++
    [.command (.frame ⟨.text, true, [8]⟩ 1 .on), .command (.flush 2), .command (.frame ⟨.text, true, []⟩ 3 .off)] ++
    List.replicate 3 .step

theorem commands_answered_breaking :
    let before := (start breaking).afterAll breakingEvents
    let history := (start breaking).afterAll (breakingEvents ++ .step :: List.replicate 6 .step)
    Writer.start? breaking.settings breaking.keys breaking.transport = some breaking ∧
    before.writer.fault? = some peerReset ∧
    history.completed.map Prod.fst = [0, 1, 2, 3] ∧
    history.writer.transport = before.work.writer.transport ∧
    (∀ outcome, history.completed[2]? = some (2, outcome) → outcome = .error (.transport peerReset)) ∧
    ∃ steps, (history.afterAll (List.replicate steps .step)).writer.ended = some (.error (.transport peerReset)) := by
  intro before history
  have begun : Writer.start? breaking.settings breaking.keys breaking.transport = some breaking := rfl
  have fault : before.writer.fault? = some peerReset := rfl
  obtain ⟨_, all, _, _, failed⟩ := commands_answered begun (breakingEvents ++ .step :: List.replicate 6 .step)
  obtain ⟨silent, outcomes, ends⟩ := failed breakingEvents (List.replicate 6 .step) peerReset rfl fault
  have ended : history.writer.ended ≠ none := by
    have last : history.writer.ended = some (.error (.transport peerReset)) := rfl
    simp [last]
  exact ⟨begun, fault, (all ended).trans rfl, silent, fun outcome found => (outcomes 2 2 outcome found).trans rfl, ends⟩

end History
end Egress
