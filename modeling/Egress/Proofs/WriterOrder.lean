import Egress.Writer

/-!
The commands of a writer. Whatever its transport does, a step of the worker completes the tickets that are held in
their order and loses none. The worker goes wrong with the first call on the transport that fails: from then on it
calls no more, fails what it has at hand with that error, and then what is left in the queue.
-/
namespace Egress

namespace Activity

/-- Why the worker writes, while it does. -/
def purpose? : Activity → Option Purpose
  | .writing _ _ _ purpose | .flushing _ purpose | .completing _ purpose => some purpose
  | _ => none

/-- The error that ends the worker, once there is one. -/
def error? : Activity → Option SendError
  | .failing _ error | .closing error | .ended (.error error) => some error
  | _ => none

end Activity

namespace Writer

/-- The error of the call on the transport that the worker makes next, if it makes one and that one fails. -/
def fault? (writer : Writer) : Option TransportError :=
  match writer.activity with
  | .writing frames _ count _ =>
    match Batch.remaining frames count with
    | [] => none
    | slice :: rest =>
      match (writer.transport.write (slice :: rest)).1 with
      | .error error => some error
      | .ok reported => if reported = 0 then some Transport.writeZero else none
  | .flushing _ _ =>
    match writer.transport.flush.1 with
    | .error error => some error
    | .ok () => none
  | _ => none

structure Clear (writer : Writer) : Prop where
  frames : writer.batch.frames = []
  tickets : writer.batch.tickets = []

/-- Each frame of the batch waits with its ticket. -/
def Paired (writer : Writer) : Prop := writer.batch.tickets.length = writer.batch.frames.length

/-- The worker writes to end only when no command is left and none can come. -/
def Last (writer : Writer) (purpose : Purpose) : Prop :=
  purpose = .finish → writer.queue = [] ∧ writer.handles = 0

/-- Frames wait only while the worker takes commands. -/
def Filed (writer : Writer) : Prop :=
  match writer.activity with
  | .ready => writer.Paired
  | _ => writer.Clear

/-- How the commands stand to what the worker is about to do. -/
structure Tidy (writer : Writer) : Prop where
  filed : writer.Filed
  last : ∀ purpose, writer.activity.purpose? = some purpose → writer.Last purpose
  ended : writer.ended ≠ none → writer.queue = []

/-- The two writers differ at most in what the worker is at. -/
structure Alike (before after : Writer) : Prop where
  settings : after.settings = before.settings
  keys : after.keys = before.keys
  handles : after.handles = before.handles
  queue : after.queue = before.queue
  transport : after.transport = before.transport

theorem Alike.trans {first second third : Writer} (left : first.Alike second) (right : second.Alike third) :
    first.Alike third :=
  ⟨right.settings.trans left.settings, right.keys.trans left.keys, right.handles.trans left.handles,
    right.queue.trans left.queue, right.transport.trans left.transport⟩

variable {writer after : Writer}

/-- Where no frame waits, the tickets at hand are those of the activity and of the queue. -/
theorem Clear.held (clear : writer.Clear) : writer.tickets = writer.activity.tickets ++ writer.queue.map Command.ticket := by
  rw [Writer.tickets, clear.tickets, List.append_nil]

theorem Clear.paired (clear : writer.Clear) : writer.Paired := by
  rw [Paired, clear.frames, clear.tickets]
  rfl

theorem Paired.clear (paired : writer.Paired) (empty : writer.batch.frames.isEmpty) : writer.Clear := by
  have none := List.isEmpty_iff.mp empty
  exact ⟨none, List.eq_nil_of_length_eq_zero (by rw [paired, none]; rfl)⟩

/-- A busy worker has no frame that waits. -/
theorem Filed.clear (filed : writer.Filed) (busy : writer.activity ≠ .ready) : writer.Clear := by
  unfold Filed at filed
  split at filed
  · exact absurd ‹_› busy
  · exact filed

/-- A command is queued while the queue is open, or nothing changes. -/
theorem enqueue_cases (writer : Writer) (command : Command) :
    (writer.isClosed = false ∧ writer.enqueue command
      = (.ok (), { writer with pending := writer.pending + 1, queue := writer.queue ++ [command] })) ∨
    ∃ error, writer.enqueue command = (.error error, writer) := by
  unfold enqueue
  split
  · exact .inr ⟨_, rfl⟩
  · split
    · exact .inr ⟨_, rfl⟩
    · split
      · exact .inr ⟨_, rfl⟩
      · rename_i unclosed _
        exact .inl ⟨Bool.eq_false_iff.mpr unclosed, rfl⟩

/-! ## Beginning to write -/

theorem alike_goOn (purpose : Purpose) : writer.Alike (writer.goOn purpose) := by
  cases purpose <;> exact ⟨rfl, rfl, rfl, rfl, rfl⟩

theorem tickets_goOn (purpose : Purpose) :
    (writer.goOn purpose).tickets = purpose.tickets ++ writer.batch.tickets ++ writer.queue.map Command.ticket := by
  cases purpose <;> rfl

theorem error_goOn (purpose : Purpose) : (writer.goOn purpose).activity.error? = none := by
  cases purpose <;> rfl

/-- Once the batch has been written, the worker goes on with an empty one. -/
theorem tidy_goOn {purpose : Purpose} (clear : writer.Clear) (last : writer.Last purpose) :
    (writer.goOn purpose).Tidy := by
  cases purpose with
  | pass | endPass => exact ⟨clear.paired, nofun, nofun⟩
  | flush ticket => exact ⟨⟨clear.frames, clear.tickets⟩, fun _ same => by cases same; exact nofun, nofun⟩
  | finish => exact ⟨⟨clear.frames, clear.tickets⟩, nofun, fun _ => (last rfl).1⟩

theorem alike_writeOut (purpose : Purpose) : writer.Alike (writer.writeOut purpose) := by
  unfold writeOut
  split
  · exact alike_goOn purpose
  · exact ⟨rfl, rfl, rfl, rfl, rfl⟩

theorem tickets_writeOut (paired : writer.Paired) (purpose : Purpose) :
    (writer.writeOut purpose).tickets
      = writer.batch.tickets ++ purpose.tickets ++ writer.queue.map Command.ticket := by
  unfold writeOut
  split
  case isTrue empty => rw [tickets_goOn, (paired.clear empty).tickets]; simp
  case isFalse => simp [tickets, Activity.tickets, Batch.empty]

theorem error_writeOut (purpose : Purpose) : (writer.writeOut purpose).activity.error? = none := by
  unfold writeOut
  split
  · exact error_goOn purpose
  · rfl

theorem tidy_writeOut {purpose : Purpose} (paired : writer.Paired) (last : writer.Last purpose) :
    (writer.writeOut purpose).Tidy := by
  unfold writeOut
  split
  case isTrue empty => exact tidy_goOn (paired.clear empty) last
  case isFalse => exact ⟨⟨rfl, rfl⟩, fun _ same => by cases same; exact last, nofun⟩

/-! ## Taking commands -/

theorem tidy_of_idle (idle : writer.activity = .ready) (paired : writer.Paired) : writer.Tidy := by
  refine ⟨?_, ?_, ?_⟩
  · rw [Filed, idle]
    exact paired
  · rw [idle]
    exact nofun
  · rw [ended, idle]
    exact nofun

/-- What the worker comes to between two calls on the transport. -/
structure Advanced (held : List Ticket) (before after : Writer) : Prop where
  handles : after.handles = before.handles
  transport : after.transport = before.transport
  tickets : after.tickets = held
  tidy : after.Tidy
  well : after.activity.error? = none

theorem advanced_writeOut (paired : writer.Paired) (purpose : Purpose) (last : writer.Last purpose) :
    Advanced (writer.batch.tickets ++ purpose.tickets ++ writer.queue.map Command.ticket) writer
      (writer.writeOut purpose) :=
  ⟨(alike_writeOut purpose).handles, (alike_writeOut purpose).transport, tickets_writeOut paired purpose,
    tidy_writeOut paired last, error_writeOut purpose⟩

theorem process_advanced (paired : writer.Paired) (idle : writer.activity = .ready) (command : Command) :
    Advanced (writer.batch.tickets ++ [command.ticket] ++ writer.queue.map Command.ticket) writer
      (writer.process command) := by
  cases command with
  | flush ticket =>
    have quiet : Writer.Paired { writer with autoDue := false } := paired
    have written := advanced_writeOut quiet (.flush ticket) nofun
    exact ⟨written.handles, written.transport, written.tickets, written.tidy, written.well⟩
  | frame frame ticket mode =>
    let added := writer.addFrame frame ticket
    let marked := if mode = .auto then { added with autoDue := true } else added
    have same : marked.batch = added.batch ∧ marked.activity = .ready ∧ marked.handles = writer.handles ∧
        marked.queue = writer.queue ∧ marked.transport = writer.transport := by
      by_cases auto : mode = .auto <;> simp only [marked, auto] <;> exact ⟨rfl, idle, rfl, rfl, rfl⟩
    obtain ⟨batch, ready, handles, queue, transport⟩ := same
    have tickets : marked.batch.tickets = writer.batch.tickets ++ [ticket] := by rw [batch]; rfl
    have joined : marked.Paired := by
      have lengths : writer.batch.tickets.length = writer.batch.frames.length := paired
      simp [Paired, batch, added, addFrame, Batch.push, lengths]
    have carried : writer.process (.frame frame ticket mode)
        = if marked.mustWrite mode then { marked with autoDue := false }.writeOut .pass else marked := rfl
    rw [carried]
    by_cases due : marked.mustWrite mode
    · rw [if_pos due]
      have quiet : Writer.Paired { marked with autoDue := false } := joined
      have written := advanced_writeOut quiet .pass nofun
      refine ⟨written.handles.trans handles, written.transport.trans transport, ?_, written.tidy, written.well⟩
      rw [written.tickets]
      show marked.batch.tickets ++ [] ++ marked.queue.map Command.ticket = _
      rw [tickets, queue, List.append_nil]
      rfl
    · rw [if_neg due]
      refine ⟨handles, transport, ?_, tidy_of_idle ready joined, by rw [ready]; rfl⟩
      show marked.activity.tickets ++ marked.batch.tickets ++ marked.queue.map Command.ticket = _
      rw [ready, tickets, queue]
      rfl

theorem endPass_advanced (paired : writer.Paired) :
    Advanced (writer.batch.tickets ++ writer.queue.map Command.ticket) writer writer.endPass := by
  unfold endPass
  by_cases due : writer.autoDue
  · rw [if_pos due]
    have quiet : Writer.Paired { writer with autoDue := false } := paired
    have written := advanced_writeOut quiet .endPass nofun
    refine ⟨written.handles, written.transport, ?_, written.tidy, written.well⟩
    rw [written.tickets]
    simp [Purpose.tickets]
  · rw [if_neg due]
    exact ⟨rfl, rfl, rfl, tidy_of_idle rfl paired, rfl⟩

/-- What the worker can do when it is ready: take the next command, end its pass, or begin to end. -/
theorem advance_cases (next : writer.advance? = some after) :
    (∃ command rest, writer.queue = command :: rest ∧
      after = { writer with queue := rest, taken := writer.taken + 1 }.process command) ∨
    (0 < writer.taken ∧ after = writer.endPass) ∨
    (writer.queue = [] ∧ writer.taken = 0 ∧ writer.handles = 0 ∧ after = writer.writeOut .finish) := by
  unfold advance? at next
  split at next
  case h_1 command rest queue =>
    by_cases room : writer.taken < passLength
    · rw [if_pos room] at next
      cases next
      exact .inl ⟨command, rest, queue, rfl⟩
    · rw [if_neg room] at next
      cases next
      have full : passLength ≤ writer.taken := Nat.le_of_not_lt room
      refine .inr (.inl ⟨?_, rfl⟩)
      exact Nat.lt_of_lt_of_le (by decide : 0 < passLength) full
  case h_2 queue =>
    by_cases begun : 0 < writer.taken
    · rw [if_pos begun] at next
      cases next
      exact .inr (.inl ⟨begun, rfl⟩)
    · rw [if_neg begun] at next
      by_cases alone : writer.handles = 0
      · rw [if_pos alone] at next
        cases next
        exact .inr (.inr ⟨queue, Nat.eq_zero_of_not_pos begun, alone, rfl⟩)
      · rw [if_neg alone] at next
        cases next

/-- Taking a command, ending a pass, and beginning to end all keep the tickets as they are. -/
theorem advance_advanced (paired : writer.Paired) (idle : writer.activity = .ready)
    (next : writer.advance? = some after) : Advanced writer.tickets writer after := by
  have held : writer.tickets = writer.batch.tickets ++ writer.queue.map Command.ticket := by
    rw [tickets, idle]
    rfl
  rw [held]
  rcases advance_cases next with ⟨command, rest, queue, rfl⟩ | ⟨_, rfl⟩ | ⟨queue, _, alone, rfl⟩
  · let fewer : Writer := { writer with queue := rest, taken := writer.taken + 1 }
    have still : fewer.Paired := paired
    have popped := process_advanced still idle command
    refine ⟨popped.handles, popped.transport, ?_, popped.tidy, popped.well⟩
    rw [popped.tickets, queue]
    simp [fewer]
  · exact endPass_advanced paired
  · simpa [Purpose.tickets] using advanced_writeOut paired .finish fun _ => ⟨queue, alone⟩

/-! ## What a step can do -/

/-- What a step of the worker can be. -/
inductive Steps (writer : Writer) : List (Ticket × Outcome) → Writer → Prop where
  | advanced {after : Writer} : writer.activity = .ready → writer.advance? = some after → Steps writer [] after
  /-- A call on the transport fails. -/
  | failed {transport : Transport} {purpose : Purpose} {error : TransportError} :
    writer.activity.purpose? = some purpose → writer.fault? = some error →
      Steps writer [] (Writer.fail { writer with transport } writer.activity.tickets error)
  /-- A call on the transport goes well. -/
  | called {transport : Transport} {activity : Activity} {purpose : Purpose} :
    writer.activity.purpose? = some purpose → writer.fault? = none → activity.purpose? = some purpose →
      activity.tickets = writer.activity.tickets → Steps writer [] { writer with transport, activity }
  | completed {ticket : Ticket} {tickets : List Ticket} {purpose : Purpose} :
    writer.activity = .completing (ticket :: tickets) purpose →
      Steps writer [(ticket, .ok ())] { writer with activity := .completing tickets purpose }
  | wentOn {purpose : Purpose} : writer.activity = .completing [] purpose → Steps writer [] (writer.goOn purpose)
  | failedOne {ticket : Ticket} {tickets : List Ticket} {error : SendError} :
    writer.activity = .failing (ticket :: tickets) error →
      Steps writer [(ticket, .error error)] { writer with activity := .failing tickets error }
  | failedAll {error : SendError} : writer.activity = .failing [] error →
      Steps writer [] { writer with activity := .closing error }
  | drained {command : Command} {rest : List Command} {error : SendError} :
    writer.activity = .closing error → writer.queue = command :: rest →
      Steps writer [(command.ticket, .error .closed)] { writer with queue := rest }
  | ended {error : SendError} : writer.activity = .closing error → writer.queue = [] →
      Steps writer [] { writer with activity := .ended (.error error) }

theorem steps_writeOn {frames : List EncodedFrame} {tickets : List Ticket} {count : Nat} {purpose : Purpose}
    (busy : writer.activity = .writing frames tickets count purpose) :
    Steps writer [] (writer.writeOn frames tickets count purpose) := by
  have serves : writer.activity.purpose? = some purpose := by rw [busy]; rfl
  have held : tickets ++ purpose.tickets = writer.activity.tickets := by rw [busy]; rfl
  unfold writeOn
  split
  case h_1 none =>
    exact .called serves (by simp [fault?, busy, none]) rfl held
  case h_2 slice rest slices =>
    rcases answered : writer.transport.write (slice :: rest) with ⟨error | reported, transport⟩
    · dsimp only
      rw [held]
      exact .failed serves (by simp [fault?, busy, slices, answered])
    · dsimp only
      by_cases none : reported = 0
      · rw [if_pos none, held]
        exact .failed serves (by simp [fault?, busy, slices, answered, none])
      · rw [if_neg none]
        exact .called serves (by simp [fault?, busy, slices, answered, none]) rfl held

theorem steps_flushOut {tickets : List Ticket} {purpose : Purpose} (busy : writer.activity = .flushing tickets purpose) :
    Steps writer [] (writer.flushOut tickets purpose) := by
  have serves : writer.activity.purpose? = some purpose := by rw [busy]; rfl
  have held : tickets ++ purpose.tickets = writer.activity.tickets := by rw [busy]; rfl
  unfold flushOut
  rcases answered : writer.transport.flush with ⟨error | ⟨⟩, transport⟩
  · dsimp only
    rw [held]
    exact .failed serves (by simp [fault?, busy, answered])
  · exact .called serves (by simp [fault?, busy, answered]) rfl held

theorem steps_of_step {completions : List (Ticket × Outcome)} (step : writer.step? = some (completions, after)) :
    Steps writer completions after := by
  unfold step? at step
  cases busy : writer.activity with
  | ready =>
    rw [busy] at step
    obtain ⟨next, advance, same⟩ := Option.map_eq_some_iff.mp step
    cases same
    exact .advanced busy advance
  | writing frames tickets count purpose =>
    rw [busy] at step
    cases step
    exact steps_writeOn busy
  | flushing tickets purpose =>
    rw [busy] at step
    cases step
    exact steps_flushOut busy
  | completing tickets purpose =>
    rw [busy] at step
    cases tickets <;> cases step
    · exact .wentOn busy
    · exact .completed busy
  | failing tickets error =>
    rw [busy] at step
    cases tickets <;> cases step
    · exact .failedAll busy
    · exact .failedOne busy
  | closing error =>
    rw [busy] at step
    dsimp only at step
    split at step
    case h_1 none =>
      cases step
      exact .ended busy none
    case h_2 command rest queue =>
      cases step
      have kept : { writer with queue := rest, activity := .closing error } = { writer with queue := rest } := by
        rw [← busy]
      rw [kept]
      exact .drained busy queue
  | ended outcome =>
    rw [busy] at step
    cases step

theorem Clear.filed (clear : writer.Clear) : writer.Filed := by
  unfold Filed
  split
  · exact clear.paired
  · exact clear

/-- A worker that writes has no frame that waits. -/
theorem Filed.clear_of_purpose (filed : writer.Filed) {purpose : Purpose}
    (serves : writer.activity.purpose? = some purpose) : writer.Clear := by
  refine filed.clear fun idle => ?_
  rw [idle] at serves
  cases serves

namespace Steps

variable {completions : List (Ticket × Outcome)}

theorem handles (steps : writer.Steps completions after) (filed : writer.Filed) : after.handles = writer.handles := by
  cases steps with
  | advanced idle next =>
    rw [Filed, idle] at filed
    exact (advance_advanced filed idle next).handles
  | wentOn busy => exact (alike_goOn _).handles
  | failed | called | completed | failedOne | failedAll | drained | ended => rfl

/-- Tickets are completed in the order in which they are held, and none is lost. -/
theorem tickets (steps : writer.Steps completions after) (filed : writer.Filed) :
    completions.map Prod.fst ++ after.tickets = writer.tickets := by
  cases steps with
  | advanced idle next =>
    rw [Filed, idle] at filed
    exact (advance_advanced filed idle next).tickets
  | failed serves fault => simp [Writer.tickets, fail, Activity.tickets, (filed.clear_of_purpose serves).tickets]
  | called serves fault still held =>
    simp [Writer.tickets, held, (filed.clear_of_purpose serves).tickets]
  | completed busy => simp [Writer.tickets, busy, Activity.tickets]
  | wentOn busy =>
    have clear := filed.clear (by rw [busy]; exact nofun)
    rw [tickets_goOn, clear.held, clear.tickets, busy]
    simp [Activity.tickets]
  | failedOne busy => simp [Writer.tickets, busy, Activity.tickets]
  | failedAll busy => simp [Writer.tickets, busy, Activity.tickets]
  | drained busy queue =>
    have clear := filed.clear (by rw [busy]; exact nofun)
    simp [Writer.tickets, busy, queue, clear.tickets, Activity.tickets]
  | ended busy queue => simp [Writer.tickets, busy, queue, Activity.tickets]

theorem tidy (steps : writer.Steps completions after) (before : writer.Tidy) : after.Tidy := by
  have filed := before.filed
  cases steps with
  | advanced idle next =>
    rw [Filed, idle] at filed
    exact (advance_advanced filed idle next).tidy
  | failed serves fault =>
    have clear := filed.clear_of_purpose serves
    exact ⟨⟨clear.frames, clear.tickets⟩, nofun, nofun⟩
  | @called transport activity purpose serves fault still held =>
    have clear := filed.clear_of_purpose serves
    have same : Writer.Clear { writer with transport, activity } := ⟨clear.frames, clear.tickets⟩
    refine ⟨same.filed, ?_, ?_⟩
    · intro other serving
      obtain rfl : purpose = other := Option.some.inj (still.symm.trans serving)
      exact before.last purpose serves
    · intro stopped
      cases activity <;> first | exact absurd rfl stopped | cases still
  | @completed ticket tickets purpose busy =>
    have clear := filed.clear (by rw [busy]; exact nofun)
    have serves : writer.activity.purpose? = some purpose := by rw [busy]; rfl
    exact ⟨⟨clear.frames, clear.tickets⟩, fun _ same => by cases same; exact before.last purpose serves, nofun⟩
  | @wentOn purpose busy =>
    have serves : writer.activity.purpose? = some purpose := by rw [busy]; rfl
    exact tidy_goOn (filed.clear (by rw [busy]; exact nofun)) (before.last purpose serves)
  | failedOne busy | failedAll busy =>
    have clear := filed.clear (by rw [busy]; exact nofun)
    exact ⟨⟨clear.frames, clear.tickets⟩, nofun, nofun⟩
  | @drained command rest error busy queue =>
    have clear := filed.clear (by rw [busy]; exact nofun)
    have same : Writer.Clear { writer with queue := rest } := ⟨clear.frames, clear.tickets⟩
    refine ⟨same.filed, ?_, ?_⟩
    · rw [busy]
      exact nofun
    · rw [Writer.ended, busy]
      exact nofun
  | ended busy queue =>
    have clear := filed.clear (by rw [busy]; exact nofun)
    exact ⟨⟨clear.frames, clear.tickets⟩, nofun, fun _ => queue⟩

end Steps

/-! ## Going wrong -/

/-- Only a worker that writes or flushes calls on the transport. -/
theorem purpose_of_fault {error : TransportError} (fault : writer.fault? = some error) :
    (∃ frames tickets count purpose, writer.activity = .writing frames tickets count purpose) ∨
      ∃ tickets purpose, writer.activity = .flushing tickets purpose := by
  unfold fault? at fault
  split at fault
  · exact .inl ⟨_, _, _, _, ‹_›⟩
  · exact .inr ⟨_, _, ‹_›⟩
  · cases fault

theorem Filed.clear_of_fault (filed : writer.Filed) {error : TransportError} (fault : writer.fault? = some error) :
    writer.Clear := by
  rcases purpose_of_fault fault with ⟨frames, tickets, count, purpose, busy⟩ | ⟨tickets, purpose, busy⟩ <;>
    exact filed.clear (by rw [busy]; exact nofun)

namespace Steps

variable {completions : List (Ticket × Outcome)}

/-- A call that fails completes nothing; what is at hand is to be failed next. -/
theorem of_fault (steps : writer.Steps completions after) {error : TransportError}
    (fault : writer.fault? = some error) :
    completions = [] ∧ after.activity = .failing writer.activity.tickets (.transport error) := by
  cases steps with
  | failed serves failed =>
    obtain rfl := Option.some.inj (failed.symm.trans fault)
    exact ⟨rfl, rfl⟩
  | called serves safe => cases safe.symm.trans fault
  | advanced busy | completed busy | wentOn busy | failedOne busy | failedAll busy | drained busy | ended busy =>
    simp [fault?, busy] at fault

/-- A worker that has not gone wrong, and does not in this step, completes with success only. -/
theorem well (steps : writer.Steps completions after) (filed : writer.Filed)
    (sound : writer.activity.error? = none) (safe : writer.fault? = none) :
    after.activity.error? = none ∧ ∀ completion ∈ completions, completion.2 = .ok () := by
  cases steps with
  | advanced idle next =>
    rw [Filed, idle] at filed
    exact ⟨(advance_advanced filed idle next).well, nofun⟩
  | failed serves fault => cases safe.symm.trans fault
  | @called transport activity purpose serves fault still =>
    refine ⟨?_, nofun⟩
    cases activity <;> first | rfl | cases still
  | completed busy => exact ⟨rfl, by simp⟩
  | wentOn busy => exact ⟨error_goOn _, nofun⟩
  | failedOne busy | failedAll busy | drained busy | ended busy =>
    rw [busy] at sound
    cases sound

/-- A worker that has gone wrong calls on the transport no more. It fails the tickets at hand with its error, closes
the queue, and fails what is left there. -/
theorem of_error (steps : writer.Steps completions after) {error : SendError}
    (wrong : writer.activity.error? = some error) :
    after.transport = writer.transport ∧
      ((∃ ticket tickets, writer.activity = .failing (ticket :: tickets) error ∧
          completions = [(ticket, .error error)] ∧ after.activity = .failing tickets error) ∨
        (writer.activity = .failing [] error ∧ completions = [] ∧ after.activity = .closing error) ∨
        (∃ ticket, writer.activity = .closing error ∧ completions = [(ticket, .error .closed)] ∧
          after.activity = .closing error) ∨
        (writer.activity = .closing error ∧ completions = [] ∧ after.activity = .ended (.error error))) := by
  have silent : writer.activity.purpose? = none := by
    cases busy : writer.activity <;> rw [busy] at wrong <;> first | rfl | cases wrong
  cases steps with
  | advanced busy | completed busy | wentOn busy =>
    rw [busy] at wrong
    cases wrong
  | failed serves | called serves => cases silent.symm.trans serves
  | failedOne busy =>
    rw [busy] at wrong
    cases wrong
    exact ⟨rfl, .inl ⟨_, _, busy, rfl, rfl⟩⟩
  | failedAll busy =>
    rw [busy] at wrong
    cases wrong
    exact ⟨rfl, .inr (.inl ⟨busy, rfl, rfl⟩)⟩
  | drained busy =>
    rw [busy] at wrong
    cases wrong
    exact ⟨rfl, .inr (.inr (.inl ⟨_, busy, rfl, busy⟩))⟩
  | ended busy =>
    rw [busy] at wrong
    cases wrong
    exact ⟨rfl, .inr (.inr (.inr ⟨busy, rfl, rfl⟩))⟩

/-- Once the worker has gone wrong, it stays so. -/
theorem error_kept (steps : writer.Steps completions after) {error : SendError}
    (wrong : writer.activity.error? = some error) : after.activity.error? = some error := by
  rcases (steps.of_error wrong).2 with ⟨_, _, _, _, next⟩ | ⟨_, _, next⟩ | ⟨_, _, _, next⟩ | ⟨_, _, next⟩ <;>
    rw [next] <;> rfl

end Steps

end Writer
end Egress
