import Egress.Proofs.WriterPasses

/-!
The count of pending commands. Any number of calls may be under way at once on the handles of a writer: a call looks at
the count, adds its command to it, hands the command to the queue, and takes it off the count again if the queue does
not take it. Between any two of these moments other calls and the worker may go on. Until the worker goes wrong, the
count is at every moment the number of commands in the queue, of those taken in the pass, and of calls that have counted
theirs and are not over.
-/
namespace Egress

/-! ## What a step of the worker counts -/

namespace Writer

variable {writer after : Writer}

/-- What a step of the worker can do to its pass: it takes a command, ends the pass, or goes on. -/
inductive Pace (before after : Writer) : Prop where
  | takes (command : Command) (queue : before.queue = command :: after.queue) (taken : after.taken = before.taken + 1)
    (pending : after.pending = before.pending)
  | ends (queue : after.queue = before.queue) (taken : after.taken = 0)
    (pending : after.pending = before.pending - before.taken)
  | goesOn (queue : after.queue = before.queue) (taken : after.taken = before.taken)
    (pending : after.pending = before.pending)

theorem pace_writeOut (writer : Writer) {purpose : Purpose} (other : purpose ≠ .endPass) :
    writer.Pace (writer.writeOut purpose) := by
  obtain ⟨pending, taken⟩ := writer.counts_writeOut other
  exact .goesOn (alike_writeOut purpose).queue taken pending

theorem pace_goOn (writer : Writer) (purpose : Purpose) : writer.Pace (writer.goOn purpose) := by
  cases purpose with
  | endPass => exact .ends rfl rfl rfl
  | pass | flush | finish => exact .goesOn rfl rfl rfl

theorem pace_endPass (writer : Writer) : writer.Pace writer.endPass := by
  unfold endPass
  split
  · unfold writeOut
    split
    · exact .ends rfl rfl rfl
    · exact .goesOn rfl rfl rfl
  · exact writer.pace_goOn .endPass

theorem Steps.pace {completions : List (Ticket × Outcome)} (steps : writer.Steps completions after)
    (sound : after.activity.error? = none) : writer.Pace after := by
  cases steps with
  | advanced idle next =>
    rcases advance_cases next with ⟨command, rest, queue, rfl⟩ | ⟨_, rfl⟩ | ⟨_, _, _, rfl⟩
    · let popped : Writer := { writer with queue := rest, taken := writer.taken + 1 }
      obtain ⟨pending, taken⟩ := popped.counts_process command
      refine .takes command ?_ taken pending
      rw [popped.queue_process command]
      exact queue
    · exact writer.pace_endPass
    · exact writer.pace_writeOut nofun
  | wentOn => exact writer.pace_goOn _
  | called | completed => exact .goesOn rfl rfl rfl
  | failed | failedOne | failedAll | ended => cases sound
  | @drained command rest error busy =>
    have wrong : ({ writer with queue := rest } : Writer).activity.error? = some error := by
      show writer.activity.error? = _
      rw [busy]
      rfl
    cases wrong.symm.trans sound

end Writer

/-! ## Calls that are under way -/

/-- How far a call has come that is to hand in a command. -/
inductive CallStage where
  /-- It has seen that fewer commands are pending than may be. -/
  | admitted
  /-- Its command is counted. -/
  | counted
  /-- The queue has not taken the command, which is still counted. -/
  | refused (error : SendError)
  | ended (outcome : Outcome)

/-- Whether a command is counted on behalf of the call and of nobody else. -/
def CallStage.hasCounted : CallStage → Bool
  | .counted | .refused _ => true
  | .admitted | .ended _ => false

def CallStage.isOver : CallStage → Bool
  | .ended _ => true
  | _ => false

structure HandleCall where
  command : Command
  stage : CallStage

/-- A writer, and the calls on its handles in the order in which they began. -/
structure Callers where
  history : History
  calls : List HandleCall

inductive CallerEvent where
  /-- A call that nothing comes between, or what else may happen to a writer. -/
  | whole (event : WriterEvent)
  | begin (command : Command)
  /-- The call at this place goes one step further. -/
  | goOn (place : Nat)

/-- Hands a command that is counted to the queue; an error if the queue does not take it. -/
def History.hand (history : History) (command : Command) : Outcome × History :=
  if history.writer.isClosed then (.error .closed, history)
  else if history.writer.settings.queueCapacity ≤ history.writer.queue.length then (.error .backpressure, history)
  else
    (.ok (), { history with
      writer.queue := history.writer.queue ++ [command]
      accepted := history.accepted ++ [command] })

namespace Callers

def start (writer : Writer) : Callers := ⟨.start writer, []⟩

/-- No call is under way. -/
def Idle (callers : Callers) : Prop := ∀ call ∈ callers.calls, call.stage.isOver = true

instance (callers : Callers) : Decidable callers.Idle :=
  inferInstanceAs (Decidable (∀ call ∈ callers.calls, call.stage.isOver = true))

/-- How many calls have counted their commands and are not over. -/
def counted (callers : Callers) : Nat := callers.calls.countP (·.stage.hasCounted)

/-- A call begins with a look at the count. -/
def begin (callers : Callers) (command : Command) : Callers :=
  let stage := if callers.history.writer.isBackpressureActive then .ended (.error .backpressure) else .admitted
  { callers with calls := callers.calls ++ [⟨command, stage⟩] }

/-- A call counts its command, hands it in, or takes it off the count because it was refused. -/
def advance (history : History) (command : Command) : CallStage → CallStage × History
  | .admitted => (.counted, { history with writer.pending := history.writer.pending + 1 })
  | .counted =>
    match history.hand command with
    | (.ok (), history) => (.ended (.ok ()), history)
    | (.error error, history) => (.refused error, history)
  | .refused error => (.ended (.error error), { history with writer.pending := history.writer.pending - 1 })
  | .ended outcome => (.ended outcome, history)

/-- The call at a place goes on. -/
def goOn (callers : Callers) (place : Nat) : Callers :=
  match callers.calls[place]? with
  | some ⟨command, stage⟩ =>
    match advance callers.history command stage with
    | (stage, history) => ⟨history, callers.calls.set place ⟨command, stage⟩⟩
  | none => callers

/-- What becomes of the writer and the calls. A call needs a handle, so the last handle stays while calls are under way. -/
def after (callers : Callers) : CallerEvent → Callers
  | .whole .dropHandle =>
    if 1 < callers.history.writer.handles ∨ callers.Idle then
      { callers with history := callers.history.after .dropHandle }
    else callers
  | .whole event => { callers with history := callers.history.after event }
  | .begin command => if callers.history.writer.handles = 0 then callers else callers.begin command
  | .goOn place => callers.goOn place

def afterAll (callers : Callers) (events : List CallerEvent) : Callers := events.foldl after callers

/-! ## The count -/

variable {callers : Callers}

theorem counted_of_idle (idle : callers.Idle) : callers.counted = 0 := by
  refine List.countP_eq_zero.mpr fun call member counts => ?_
  have ended := idle call member
  revert counts ended
  cases call.stage <;> simp [CallStage.hasCounted, CallStage.isOver]

theorem counted_begin (callers : Callers) (command : Command) : (callers.begin command).counted = callers.counted := by
  unfold begin counted
  dsimp only
  rw [List.countP_append]
  split <;> simp [CallStage.hasCounted]

/-- Until the worker goes wrong, what is pending is accounted for. -/
structure Accounted (settings : WriterSettings) (counted : Nat) (history : History) : Prop where
  settings : history.writer.settings = settings
  count : history.writer.activity.error? = none →
    history.writer.pending = history.writer.taken + history.writer.queue.length + counted
  current : history.writer.activity.error? = none →
    ∃ gone current, history.accepted = gone ++ current ++ history.writer.queue ∧ current.length = history.writer.taken

variable {settings : WriterSettings} {counted : Nat} {history after : History}

theorem Accounted.aside (accounted : Accounted settings counted history) (apart : history.Aside after) :
    Accounted settings counted after := by
  obtain ⟨more, accepted, queue, _⟩ := apart.came
  refine ⟨apart.settings.trans accounted.settings, fun sound => ?_, fun sound => ?_⟩ <;> rw [apart.activity] at sound
  · have count := accounted.count sound
    have pending := apart.pending
    rw [accepted, List.length_append] at pending
    rw [apart.taken, queue, List.length_append]
    omega
  · obtain ⟨gone, current, split, taken⟩ := accounted.current sound
    refine ⟨gone, current, ?_, taken.trans apart.taken.symm⟩
    rw [accepted, queue, split, List.append_assoc]

theorem Accounted.steps (accounted : Accounted settings counted history) {completions : List (Ticket × Outcome)}
    {writer : Writer} (steps : history.writer.Steps completions writer) :
    Accounted settings counted ⟨writer, history.accepted, history.completed ++ completions⟩ := by
  have earlier (sound : writer.activity.error? = none) : history.writer.activity.error? = none := by
    cases wrong : history.writer.activity.error? with
    | none => rfl
    | some error => cases (steps.error_kept wrong).symm.trans sound
  refine ⟨steps.settled.1.trans accounted.settings, fun sound => ?_, fun sound => ?_⟩
  · have count := accounted.count (earlier sound)
    cases steps.pace sound with
    | takes command queue taken pending =>
      rw [queue, List.length_cons] at count
      dsimp only
      omega
    | ends queue taken pending =>
      dsimp only
      rw [queue]
      omega
    | goesOn queue taken pending =>
      dsimp only
      rw [queue]
      omega
  · obtain ⟨gone, current, split, taken⟩ := accounted.current (earlier sound)
    cases steps.pace sound with
    | takes command queue more pending =>
      refine ⟨gone, current ++ [command], ?_, ?_⟩
      · rw [split, queue]
        simp
      · simp [taken, more]
    | ends queue none pending => exact ⟨gone ++ current, [], by simp [split, queue], none.symm⟩
    | goesOn queue same pending => exact ⟨gone, current, by simp [split, queue], taken.trans same.symm⟩

theorem Accounted.whole (accounted : Accounted settings counted history) (event : WriterEvent) :
    Accounted settings counted (history.after event) := by
  rcases history.aside_or_steps event with apart | ⟨completions, writer, -, steps, same⟩
  · exact accounted.aside apart
  · rw [same]
    exact accounted.steps steps

/-- What a call does to the count is what changes in its stage. -/
theorem Accounted.advance (accounted : Accounted settings counted history) {stage : CallStage}
    {others : Nat} (shared : counted = others + if stage.hasCounted then 1 else 0) (command : Command) :
    Accounted settings (others + if (Callers.advance history command stage).1.hasCounted then 1 else 0)
      (Callers.advance history command stage).2 := by
  obtain ⟨same, count, current⟩ := accounted
  cases stage with
  | admitted =>
    refine ⟨same, fun sound => ?_, current⟩
    have before := count sound
    simp only [Callers.advance, CallStage.hasCounted] at shared ⊢
    simp at shared ⊢
    omega
  | counted =>
    unfold Callers.advance History.hand
    dsimp only
    by_cases closed : history.writer.isClosed
    · simp only [closed, if_true]
      exact ⟨same, shared ▸ count, current⟩
    · by_cases full : history.writer.settings.queueCapacity ≤ history.writer.queue.length
      · simp only [closed, full, if_true, Bool.false_eq_true, if_false]
        exact ⟨same, shared ▸ count, current⟩
      · simp only [closed, full, Bool.false_eq_true, if_false]
        refine ⟨same, fun sound => ?_, fun sound => ?_⟩
        · have before := count sound
          simp [CallStage.hasCounted] at shared ⊢
          omega
        · obtain ⟨gone, now, split, taken⟩ := current sound
          exact ⟨gone, now, by simp [split], taken⟩
  | refused error =>
    refine ⟨same, fun sound => ?_, current⟩
    have before := count sound
    simp [Callers.advance, CallStage.hasCounted] at shared ⊢
    omega
  | ended outcome => exact ⟨same, shared ▸ count, current⟩

theorem accounted_goOn (accounted : Accounted settings callers.counted callers.history) (place : Nat) :
    Accounted settings (callers.goOn place).counted (callers.goOn place).history := by
  unfold goOn
  cases found : callers.calls[place]? with
  | none => exact accounted
  | some call =>
    obtain ⟨command, stage⟩ := call
    obtain ⟨inside, same⟩ := List.getElem?_eq_some_iff.mp found
    let others := callers.counted - if stage.hasCounted then 1 else 0
    have share : callers.counted = others + if stage.hasCounted then 1 else 0 := by
      have some : stage.hasCounted = true → 0 < callers.counted := fun counts =>
        List.countP_pos_iff.mpr ⟨⟨command, stage⟩, List.mem_of_getElem? found, counts⟩
      cases counts : stage.hasCounted with
      | true => simp only [others, counts, if_true]; have := some counts; omega
      | false => simp [others, counts]
    have next := accounted.advance share command
    revert next
    dsimp only
    rcases advance callers.history command stage with ⟨later, history⟩
    intro next
    have now : Callers.counted ⟨history, callers.calls.set place ⟨command, later⟩⟩ =
        others + if later.hasCounted then 1 else 0 := by
      unfold counted
      rw [List.countP_set inside, same]
      rfl
    show Accounted settings (Callers.counted ⟨history, _⟩) history
    rw [now]
    exact next

theorem accounted_after (accounted : Accounted settings callers.counted callers.history) (event : CallerEvent) :
    Accounted settings (callers.after event).counted (callers.after event).history := by
  cases event with
  | whole event =>
    cases event with
    | dropHandle =>
      dsimp only [Callers.after]
      split
      · exact accounted.whole .dropHandle
      · exact accounted
    | command command => exact accounted.whole (.command command)
    | cloneHandle => exact accounted.whole .cloneHandle
    | setIdleTimeout span => exact accounted.whole (.setIdleTimeout span)
    | step => exact accounted.whole .step
  | begin command =>
    dsimp only [Callers.after]
    split
    · exact accounted
    · rw [counted_begin]
      exact accounted
  | goOn place => exact accounted_goOn accounted place

theorem accounted_afterAll (accounted : Accounted settings callers.counted callers.history) (events : List CallerEvent) :
    Accounted settings (callers.afterAll events).counted (callers.afterAll events).history := by
  induction events generalizing callers with
  | nil => exact accounted
  | cons event events ih => exact ih (accounted_after accounted event)

theorem accounted_start {keys : Nat → MaskKey} {transport : Transport} {writer : Writer}
    (begun : Writer.start? settings keys transport = some writer) :
    Accounted settings (start writer).counted (start writer).history := by
  unfold Writer.start? at begun
  split at begun <;> cases begun
  exact ⟨rfl, fun _ => rfl, fun _ => ⟨[], [], rfl, rfl⟩⟩

/-! ## Refusals -/

/-- A call that is made while no other is under way, and that nothing comes between, comes to what a whole call does. -/
theorem begin_goOn (callers : Callers) (held : callers.history.writer.handles ≠ 0) (command : Command) :
    let place := callers.calls.length
    callers.afterAll [.begin command, .goOn place, .goOn place, .goOn place] =
      ⟨(callers.history.submit command).2,
        callers.calls ++ [⟨command, .ended (callers.history.submit command).1⟩]⟩ := by
  obtain ⟨history, calls⟩ := callers
  simp only [afterAll, List.foldl_cons, List.foldl_nil, after, begin, held, if_false, History.submit, Writer.enqueue,
    Writer.isBackpressureActive]
  by_cases many : history.writer.settings.maxPending ≤ history.writer.pending
  · simp [many, goOn, advance]
  · by_cases closed : history.writer.isClosed = true
    · have still : ({ history.writer with pending := history.writer.pending + 1 } : Writer).isClosed = true := closed
      simp [many, goOn, advance, closed, History.hand, still]
    · have still : ¬ ({ history.writer with pending := history.writer.pending + 1 } : Writer).isClosed = true := closed
      by_cases full : history.writer.settings.queueCapacity ≤ history.writer.queue.length
      · simp [many, goOn, advance, closed, full, History.hand, still]
      · simp [many, goOn, advance, closed, full, History.hand, still]

/-- As long as a worker lives, a command is refused exactly if too many are pending or the queue is full. -/
theorem submit_of_unclosed (unclosed : history.writer.isClosed = false) (command : Command) :
    (history.submit command).1 =
      if history.writer.settings.maxPending ≤ history.writer.pending ∨
          history.writer.settings.queueCapacity ≤ history.writer.queue.length
      then .error .backpressure else .ok () := by
  unfold History.submit Writer.enqueue
  by_cases many : history.writer.settings.maxPending ≤ history.writer.pending
  · simp [many]
  · by_cases full : history.writer.settings.queueCapacity ≤ history.writer.queue.length
    · simp [many, unclosed, full]
    · simp [many, unclosed, full]

/-- A refused command leaves everything as it was. -/
theorem submit_of_refused {command : Command} (refused : (history.submit command).1 ≠ .ok ()) :
    (history.submit command).2 = history := by
  revert refused
  unfold History.submit
  rcases Writer.enqueue_cases history.writer command with ⟨_, taken⟩ | ⟨error, same⟩
  · rw [taken]
    exact fun refused => absurd rfl refused
  · rw [same]
    exact fun _ => rfl

/-- A call that was refused takes off the count what it had added. -/
theorem Accounted.takes_back (accounted : Accounted settings callers.counted callers.history)
    (sound : callers.history.writer.activity.error? = none) {place : Nat} {command : Command} {error : SendError}
    (refused : callers.calls[place]? = some ⟨command, .refused error⟩) :
    (callers.goOn place).history.writer.pending + 1 = callers.history.writer.pending ∧
      (callers.goOn place).history.writer.queue = callers.history.writer.queue := by
  have some : 0 < callers.counted := List.countP_pos_iff.mpr ⟨_, List.mem_of_getElem? refused, rfl⟩
  have count := accounted.count sound
  have same : (callers.goOn place).history =
      { callers.history with writer.pending := callers.history.writer.pending - 1 } := by
    unfold goOn
    rw [refused]
    rfl
  rw [same]
  refine ⟨?_, rfl⟩
  dsimp only
  omega

/-- Until a call on the transport fails, what is pending are the commands taken in the pass, those in the queue, and those
of calls that have counted theirs and are not over; the last are none while no call is under way. The worker never counts
off more than there is, and when it waits for commands it has counted off all that it took. A refused call leaves count
and queue as they were; a call that nothing comes between, and that finds the worker alive, is refused exactly if too many
are pending or the queue is full. -/
theorem pending_accounted {keys : Nat → MaskKey} {transport : Transport} {writer : Writer}
    (begun : Writer.start? settings keys transport = some writer) (events : List CallerEvent) :
    let callers := (start writer).afterAll events
    let history := callers.history
    let writer := history.writer
    writer.activity.error? = none →
      writer.pending = writer.taken + writer.queue.length + callers.counted ∧
      (callers.Idle → callers.counted = 0) ∧
      (∃ gone current, history.accepted = gone ++ current ++ writer.queue ∧ current.length = writer.taken) ∧
      (∀ completions after, writer.step? = some (completions, after) → after.activity.error? = none →
        writer.taken ≤ writer.pending ∧ writer.Pace after) ∧
      (writer.step? = none → writer.ended = none → writer.queue = [] ∧ writer.pending = callers.counted) ∧
      (∀ place command error, callers.calls[place]? = some ⟨command, .refused error⟩ →
        (callers.goOn place).history.writer.pending + 1 = writer.pending ∧
          (callers.goOn place).history.writer.queue = writer.queue) ∧
      ∀ command,
        ((history.submit command).1 ≠ .ok () → (history.submit command).2 = history) ∧
        (writer.isClosed = false → (history.submit command).1 =
          if settings.maxPending ≤ writer.pending ∨ settings.queueCapacity ≤ writer.queue.length
          then .error .backpressure else .ok ()) ∧
        (writer.handles ≠ 0 →
          let place := callers.calls.length
          callers.afterAll [.begin command, .goOn place, .goOn place, .goOn place] =
            ⟨(history.submit command).2, callers.calls ++ [⟨command, .ended (history.submit command).1⟩]⟩) := by
  intro callers history writer sound
  have accounted : Accounted settings callers.counted history := accounted_afterAll (accounted_start begun) events
  have count := accounted.count sound
  refine ⟨count, counted_of_idle, accounted.current sound, ?_, ?_, ?_, ?_⟩
  · intro completions after step still
    constructor
    · show history.writer.taken ≤ history.writer.pending
      omega
    · exact (Writer.steps_of_step step).pace still
  · intro rest unended
    obtain ⟨_, queue, untaken⟩ := Writer.idle_of_rest rest unended
    refine ⟨queue, ?_⟩
    rw [count, untaken, queue]
    simp
  · exact fun place command error refused => accounted.takes_back sound refused
  · intro command
    refine ⟨submit_of_refused, fun unclosed => ?_, fun held => callers.begin_goOn held command⟩
    rw [submit_of_unclosed unclosed, accounted.settings]

/-- A server whose queue holds one command. -/
def narrow : Writer :=
  .start { WriterSettings.standard with maxPending := 4, queueCapacity := 1 } (fun _ => ⟨0, 0, 0, 0⟩) .unlimited

/-- A frame that the worker has taken and that waits in the batch; then two calls at once, of which the first one gets the
last place in the queue. -/
def narrowEvents : List CallerEvent :=
  [.whole (.command (.frame ⟨.text, true, [97]⟩ 0 .on)), .whole .step, .begin (.flush 1), .begin (.flush 2), .goOn 0,
    .goOn 1, .goOn 0, .goOn 1]

theorem pending_accounted_narrow :
    let callers := (start narrow).afterAll narrowEvents
    let writer := callers.history.writer
    Writer.start? narrow.settings narrow.keys narrow.transport = some narrow ∧ writer.activity.error? = none ∧
    writer.pending = 3 ∧ writer.taken = 1 ∧ writer.queue.length = 1 ∧ callers.counted = 1 ∧
    (callers.goOn 1).history.writer.pending = 2 ∧
    (callers.history.submit (.flush 3)).1 = .error .backpressure ∧
    (callers.history.submit (.flush 3)).2 = callers.history := by
  intro callers writer
  have begun : Writer.start? narrow.settings narrow.keys narrow.transport = some narrow := rfl
  have sound : writer.activity.error? = none := rfl
  obtain ⟨count, _, _, _, _, back, refused⟩ := pending_accounted begun narrowEvents sound
  have busy : (callers.history.submit (.flush 3)).1 = .error .backpressure := (refused (.flush 3)).2.1 rfl
  have taken : (callers.goOn 1).history.writer.pending + 1 = writer.pending := (back 1 (.flush 2) .backpressure rfl).1
  have pending : writer.pending = 3 := count
  refine ⟨begun, sound, pending, rfl, rfl, rfl, ?_, busy, (refused (.flush 3)).1 ?_⟩
  · omega
  · rw [busy]
    exact nofun

end Callers
end Egress
