import Egress.Proofs.Output
import Egress.Proofs.WriterHistory
import Egress.Proofs.WriterOrder

/-!
What a step of the worker does. How the bytes that an output has taken stand to the commands that have left the queue
depends on what the worker is about to do; a step keeps that relation, completes tickets in the order in which they
are held, and completes one with success only when the output has been flushed past all that has left the queue.
-/
namespace Egress

@[simp] theorem EncodedFrame.flatten_slices (frame : EncodedFrame) : frame.slices.flatten = frame.bytes := by
  unfold slices bytes
  split
  case isTrue none => simp [List.isEmpty_iff.mp none]
  case isFalse => simp

/-- The bytes of some frames. -/
def Batch.content (frames : List EncodedFrame) : Bytes := (Batch.slices frames).flatten

@[simp] theorem Batch.content_append (front back : List EncodedFrame) :
    Batch.content (front ++ back) = Batch.content front ++ Batch.content back := by
  simp [Batch.content, Batch.slices]

@[simp] theorem Batch.content_ofFrame (frame : Frame) (key : Option MaskKey) :
    Batch.content [.ofFrame frame key] = frame.encode key := by
  simp [Batch.content, Batch.slices, EncodedFrame.bytes, EncodedFrame.ofFrame, Frame.encode]

theorem Batch.flatten_remaining (frames : List EncodedFrame) (count : Nat) :
    (Batch.remaining frames count).flatten = (Batch.content frames).drop count :=
  Transport.flatten_dropBytes count _

/-- Some call on the transport failed. -/
def Transport.HasFailed (transport : Transport) : Prop := ∃ call ∈ transport.calls.toList, call.Failed

theorem Transport.HasFailed.of_moved {before after : Transport} {calls : List TransportCall} {added : Bytes}
    (moved : before.Moved after calls added) (failed : ∃ call ∈ calls, call.Failed) : after.HasFailed := by
  obtain ⟨call, member, bad⟩ := failed
  exact ⟨call, moved.calls ▸ List.mem_append_right _ member, bad⟩

namespace Writer

/-- The writer has encoded the frames among some commands, and its transport has taken their bytes but for the last
ones. -/
structure Going (key : Nat → Option MaskKey) (gone : List Command) (left : Bytes) (writer : Writer) : Prop where
  encoded : writer.encoded = Command.frameCount gone
  bytes : writer.transport.bytes ++ left = Command.wire key gone

/-- The writer has gone wrong: its transport has failed, and what it has taken is a front part. -/
structure Broken (key : Nat → Option MaskKey) (gone : List Command) (writer : Writer) : Prop where
  clear : writer.Clear
  bytes : writer.transport.bytes <+: Command.wire key gone
  failed : writer.transport.HasFailed

structure Ready (key : Nat → Option MaskKey) (gone : List Command) (writer : Writer) : Prop where
  going : writer.Going key gone (Batch.content writer.batch.frames)
  lengths : writer.batch.tickets.length = writer.batch.frames.length

/-- How the transport stands to the commands that have left the queue. -/
def Standing (key : Nat → Option MaskKey) (gone : List Command) (writer : Writer) : Prop :=
  match writer.activity with
  | .ready => writer.Ready key gone
  | .writing frames _ count purpose =>
    writer.Going key gone ((Batch.content frames).drop count) ∧ writer.Clear ∧ writer.Last purpose
  | .flushing _ purpose => writer.Going key gone [] ∧ writer.Clear ∧ writer.Last purpose
  | .completing _ purpose =>
    writer.Going key gone [] ∧ writer.Clear ∧ writer.Last purpose ∧
      writer.transport.FlushedPast (Command.wire key gone).length
  | .failing _ _ | .closing _ | .ended (.error _) => writer.Broken key gone
  | .ended (.ok ()) => writer.Going key gone [] ∧ writer.Clear ∧ writer.queue = []

/-- What a step of the worker does for the commands that have left the queue. -/
structure Stepped (key : Nat → Option MaskKey) (gone : List Command) (before : Writer)
    (completions : List (Ticket × Outcome)) (after : Writer) : Prop where
  settings : after.settings = before.settings
  keys : after.keys = before.keys
  handles : after.handles = before.handles
  moved : ∃ calls added, before.transport.Moved after.transport calls added ∧
    Transport.reported calls = added.length
  tickets : completions.map Prod.fst ++ after.tickets = before.tickets
  standing : ∃ more, before.queue = more ++ after.queue ∧ after.Standing key (gone ++ more)
  flushed : ∀ ticket, (ticket, .ok ()) ∈ completions →
    completions = [(ticket, .ok ())] ∧ before.activity.tickets ≠ [] ∧
      after.transport.FlushedPast (Command.wire key gone).length

variable {key : Nat → Option MaskKey} {gone : List Command} {writer after : Writer}

theorem Going.of_alike {left : Bytes} (going : writer.Going key gone left) (alike : writer.Alike after)
    (encoded : after.encoded = writer.encoded) : after.Going key gone left :=
  ⟨encoded.trans going.encoded, by rw [alike.transport]; exact going.bytes⟩

theorem Standing.filed (standing : writer.Standing key gone) : writer.Filed := by
  unfold Standing at standing
  unfold Filed
  cases busy : writer.activity with
  | ready =>
    rw [busy] at standing
    exact standing.lengths
  | writing | flushing | completing =>
    rw [busy] at standing
    exact standing.2.1
  | failing | closing =>
    rw [busy] at standing
    exact standing.clear
  | ended outcome =>
    rw [busy] at standing
    rcases outcome with error | ⟨⟩
    · exact standing.clear
    · exact standing.2.1

/-- Once the batch has been written, the worker goes on with an empty one. -/
theorem standing_goOn {purpose : Purpose} (going : writer.Going key gone []) (clear : writer.Clear)
    (last : writer.Last purpose) : (writer.goOn purpose).Standing key gone := by
  have ready : ∀ after : Writer, writer.Alike after → after.batch = writer.batch →
      after.encoded = writer.encoded → after.Ready key gone := by
    intro after alike batch encoded
    refine ⟨?_, by rw [batch, clear.frames, clear.tickets]; rfl⟩
    rw [batch, clear.frames]
    exact going.of_alike alike encoded
  have alike := writer.alike_goOn purpose
  cases purpose with
  | pass => exact ready _ alike rfl rfl
  | endPass => exact ready _ alike rfl rfl
  | flush ticket => exact ⟨going.of_alike alike rfl, ⟨clear.frames, clear.tickets⟩, nofun⟩
  | finish => exact ⟨going.of_alike alike rfl, ⟨clear.frames, clear.tickets⟩, (last rfl).1⟩

theorem standing_writeOut {purpose : Purpose} (ready : writer.Ready key gone) (last : writer.Last purpose) :
    (writer.writeOut purpose).Standing key gone := by
  unfold writeOut
  split
  case isTrue empty =>
    have clear := Paired.clear ready.lengths empty
    have going := ready.going
    rw [clear.frames] at going
    exact standing_goOn going clear last
  case isFalse => exact ⟨⟨ready.going.encoded, ready.going.bytes⟩, ⟨rfl, rfl⟩, last⟩

/-- The transport is left alone. -/
theorem moved_of_eq {before after : Transport} (same : after = before) :
    ∃ calls added, before.Moved after calls added ∧ Transport.reported calls = added.length :=
  ⟨[], [], same ▸ .refl before, rfl⟩

/-- A step that neither completes a ticket nor takes a command off the queue. -/
theorem Stepped.of_alike (alike : writer.Alike after) (tickets : after.tickets = writer.tickets)
    (standing : after.Standing key gone) : Stepped key gone writer [] after where
  settings := alike.settings
  keys := alike.keys
  handles := alike.handles
  moved := moved_of_eq alike.transport
  tickets := tickets
  standing := ⟨[], by rw [alike.queue]; rfl, by rwa [List.append_nil]⟩
  flushed := fun _ none => absurd none List.not_mem_nil

/-! ## Taking commands -/

/-- The frame of a command joins the batch. -/
theorem ready_addFrame (keys : writer.settings.keyFor writer.keys = key) (ready : writer.Ready key gone)
    (frame : Frame) (ticket : Ticket) (mode : BatchMode) :
    (writer.addFrame frame ticket).Ready key (gone ++ [.frame frame ticket mode]) := by
  have next : writer.nextKey = key (Command.frameCount gone) := by
    rw [← ready.going.encoded, ← keys]
    rfl
  refine ⟨⟨?_, ?_⟩, ?_⟩
  · show writer.encoded + 1 = _
    rw [Command.frameCount_append, ready.going.encoded]
    rfl
  · show writer.transport.bytes ++ Batch.content (writer.batch.frames ++ [.ofFrame frame writer.nextKey]) = _
    rw [Batch.content_append, ← List.append_assoc, ready.going.bytes, Batch.content_ofFrame, next,
      Command.wire_append]
    simp [Command.wireFrom]
  · simp [addFrame, Batch.push, ready.lengths]

theorem Ready.of_alike (ready : writer.Ready key gone) (alike : writer.Alike after)
    (batch : after.batch = writer.batch) (encoded : after.encoded = writer.encoded) : after.Ready key gone :=
  ⟨by rw [batch]; exact ready.going.of_alike alike encoded, by rw [batch]; exact ready.lengths⟩

theorem standing_of_ready (idle : writer.activity = .ready) (ready : writer.Ready key gone) :
    writer.Standing key gone := by
  unfold Standing
  rw [idle]
  exact ready

theorem ready_of_flush (ready : writer.Ready key gone) (ticket : Ticket) :
    writer.Ready key (gone ++ [.flush ticket]) := by
  refine ⟨⟨?_, ?_⟩, ready.lengths⟩
  · rw [Command.frameCount_append, ready.going.encoded]
    rfl
  · rw [ready.going.bytes, Command.wire_append]
    simp [Command.wireFrom]

/-- What carrying out a command comes to. -/
structure Processed (key : Nat → Option MaskKey) (gone : List Command) (command : Command) (before after : Writer) :
    Prop where
  alike : before.Alike after
  tickets : after.tickets = before.batch.tickets ++ [command.ticket] ++ before.queue.map Command.ticket
  standing : after.Standing key (gone ++ [command])

theorem process_spec (keys : writer.settings.keyFor writer.keys = key) (ready : writer.Ready key gone)
    (idle : writer.activity = .ready) (command : Command) :
    Processed key gone command writer (writer.process command) := by
  have carried := process_advanced ready.lengths idle command
  cases command with
  | flush ticket =>
    let quiet : Writer := { writer with autoDue := false }
    have alike : writer.Alike quiet := ⟨rfl, rfl, rfl, rfl, rfl⟩
    have ready : quiet.Ready key (gone ++ [.flush ticket]) := (ready_of_flush ready ticket).of_alike alike rfl rfl
    exact ⟨alike.trans (alike_writeOut _), carried.tickets, standing_writeOut ready nofun⟩
  | frame frame ticket mode =>
    let added := writer.addFrame frame ticket
    let marked := if mode = .auto then { added with autoDue := true } else added
    have joined : added.Ready key (gone ++ [.frame frame ticket mode]) := ready_addFrame keys ready frame ticket mode
    have alike : added.Alike marked := by
      by_cases auto : mode = .auto <;> simp only [marked, auto] <;> exact ⟨rfl, rfl, rfl, rfl, rfl⟩
    have same : marked.batch = added.batch ∧ marked.encoded = added.encoded ∧ marked.activity = .ready := by
      by_cases auto : mode = .auto <;> simp only [marked, auto] <;> exact ⟨rfl, rfl, idle⟩
    have start : writer.Alike added := ⟨rfl, rfl, rfl, rfl, rfl⟩
    have before : writer.Alike marked := start.trans alike
    have ready : marked.Ready key (gone ++ [.frame frame ticket mode]) := joined.of_alike alike same.1 same.2.1
    refine ⟨?_, carried.tickets, ?_⟩
    · show writer.Alike (if marked.mustWrite mode then { marked with autoDue := false }.writeOut .pass else marked)
      split
      · have still : marked.Alike { marked with autoDue := false } := ⟨rfl, rfl, rfl, rfl, rfl⟩
        exact (before.trans still).trans (alike_writeOut _)
      · exact before
    · show Standing key _ (if marked.mustWrite mode then { marked with autoDue := false }.writeOut .pass else marked)
      split
      · have still : marked.Alike { marked with autoDue := false } := ⟨rfl, rfl, rfl, rfl, rfl⟩
        exact standing_writeOut (ready.of_alike still rfl rfl) nofun
      · exact standing_of_ready same.2.2 ready

/-- The end of a pass. -/
theorem stepped_endPass (ready : writer.Ready key gone) (ordered : writer.endPass.tickets = writer.tickets) :
    Stepped key gone writer [] writer.endPass := by
  revert ordered
  unfold endPass
  by_cases due : writer.autoDue
  · rw [if_pos due]
    let quiet : Writer := { writer with autoDue := false }
    have still : writer.Alike quiet := ⟨rfl, rfl, rfl, rfl, rfl⟩
    have ready : quiet.Ready key gone := ready.of_alike still rfl rfl
    exact fun ordered => .of_alike (still.trans (alike_writeOut _)) ordered (standing_writeOut ready nofun)
  · rw [if_neg due]
    exact fun ordered =>
      .of_alike (alike_goOn _) ordered (standing_of_ready rfl (ready.of_alike (alike_goOn _) rfl rfl))

theorem stepped_advance (keys : writer.settings.keyFor writer.keys = key) (ready : writer.Ready key gone)
    (idle : writer.activity = .ready) (next : writer.advance? = some after) : Stepped key gone writer [] after := by
  have ordered := (advance_advanced ready.lengths idle next).tickets
  rcases advance_cases next with ⟨command, rest, queue, rfl⟩ | ⟨_, rfl⟩ | ⟨queue, _, alone, rfl⟩
  · let popped : Writer := { writer with queue := rest, taken := writer.taken + 1 }
    have keyed : popped.settings.keyFor popped.keys = key := keys
    have ready : popped.Ready key gone := ⟨⟨ready.going.encoded, ready.going.bytes⟩, ready.lengths⟩
    have processed := process_spec keyed ready idle command
    have queued : (popped.process command).queue = rest := processed.alike.queue
    refine ⟨processed.alike.settings, processed.alike.keys, processed.alike.handles,
      moved_of_eq processed.alike.transport, ordered, ⟨[command], ?_, processed.standing⟩, nofun⟩
    rw [queue]
    exact congrArg (command :: ·) queued.symm
  · exact stepped_endPass ready ordered
  · exact .of_alike (alike_writeOut _) ordered (standing_writeOut ready fun _ => ⟨queue, alone⟩)

/-! ## Writing and flushing -/

theorem stepped_fail {transport : Transport} {calls : List TransportCall} {tickets : List Ticket}
    (moved : writer.transport.Moved transport calls []) (silent : Transport.reported calls = 0)
    (failed : ∃ call ∈ calls, call.Failed) (clear : writer.Clear)
    (bytes : writer.transport.bytes <+: Command.wire key gone) (error : TransportError)
    (ordered : (Writer.fail { writer with transport } tickets error).tickets = writer.tickets) :
    Stepped key gone writer [] (Writer.fail { writer with transport } tickets error) where
  settings := rfl
  keys := rfl
  handles := rfl
  moved := ⟨calls, [], moved, silent⟩
  tickets := ordered
  standing := by
    refine ⟨[], rfl, ⟨clear.frames, clear.tickets⟩, ?_, .of_moved moved failed⟩
    rw [List.append_nil]
    show transport.bytes <+: _
    rw [moved.bytes, List.append_nil]
    exact bytes
  flushed := nofun

theorem stepped_writeOn (honest : writer.transport.Honest) {frames : List EncodedFrame} {tickets : List Ticket}
    {count : Nat} {purpose : Purpose}
    (going : writer.Going key gone ((Batch.content frames).drop count)) (clear : writer.Clear)
    (last : writer.Last purpose)
    (ordered : (writer.writeOn frames tickets count purpose).tickets = writer.tickets) :
    Stepped key gone writer [] (writer.writeOn frames tickets count purpose) := by
  have front : writer.transport.bytes <+: Command.wire key gone := ⟨_, going.bytes⟩
  have left := Batch.flatten_remaining frames count
  revert ordered
  unfold writeOn
  split
  case h_1 none =>
    intro ordered
    rw [none, List.flatten_nil] at left
    refine .of_alike ⟨rfl, rfl, rfl, rfl, rfl⟩ ordered ⟨⟨going.encoded, ?_⟩, ⟨clear.frames, clear.tickets⟩, last⟩
    rw [left]
    exact going.bytes
  case h_2 slice rest slices =>
    rw [slices] at left
    obtain ⟨calls, added, moved, result⟩ := writer.transport.write_spec (slice :: rest) honest
    revert moved result
    rcases writer.transport.write (slice :: rest) with ⟨error | reported, transport⟩
    · rintro moved ⟨rfl, silent, failed⟩
      exact stepped_fail moved silent failed clear front error
    · rintro moved ⟨le, taken, told, zero⟩
      dsimp only
      by_cases none : reported = 0
      · rw [if_pos none]
        subst none
        rw [List.take_zero] at taken
        subst taken
        exact stepped_fail moved told (zero rfl) clear front Transport.writeZero
      · rw [if_neg none]
        intro ordered
        have counted : Transport.countAfter count (Transport.size (slice :: rest)) reported = count + reported :=
          if_pos le
        refine ⟨rfl, rfl, rfl, ⟨calls, added, moved, ?_⟩, ordered, ⟨[], rfl, ?_⟩, nofun⟩
        · rw [told, taken, List.length_take, ← Transport.size_eq_length_flatten, Nat.min_eq_left le]
        · rw [List.append_nil, counted]
          refine ⟨⟨going.encoded, ?_⟩, ⟨clear.frames, clear.tickets⟩, last⟩
          show transport.bytes ++ (Batch.content frames).drop (count + reported) = _
          rw [moved.bytes, taken, left, ← List.drop_drop, List.append_assoc, List.take_append_drop]
          exact going.bytes

theorem stepped_flushOut {tickets : List Ticket} {purpose : Purpose}
    (told : Transport.reported writer.transport.calls.toList = writer.transport.bytes.length)
    (going : writer.Going key gone []) (clear : writer.Clear) (last : writer.Last purpose)
    (ordered : (writer.flushOut tickets purpose).tickets = writer.tickets) :
    Stepped key gone writer [] (writer.flushOut tickets purpose) := by
  have whole : writer.transport.bytes = Command.wire key gone := by
    rw [← going.bytes, List.append_nil]
  obtain ⟨calls, moved, silent, result⟩ := writer.transport.flush_spec
  revert ordered
  unfold flushOut
  revert moved result
  rcases writer.transport.flush with ⟨error | ⟨⟩, transport⟩
  · intro moved failed
    exact stepped_fail moved silent failed clear (whole ▸ List.prefix_refl _) error
  · intro moved done ordered
    refine ⟨rfl, rfl, rfl, ⟨calls, [], moved, silent⟩, ordered, ⟨[], rfl, ?_⟩, nofun⟩
    · rw [List.append_nil]
      refine ⟨⟨going.encoded, ?_⟩, ⟨clear.frames, clear.tickets⟩, last, ?_⟩
      · show transport.bytes ++ [] = _
        rw [moved.bytes, List.append_nil, List.append_nil]
        exact whole
      · rw [← whole, ← told]
        exact Transport.flushedPast_of_flush moved done

/-! ## All steps -/

/-- A step that completes a ticket and leaves the transport alone. -/
theorem Stepped.of_completion {ticket : Ticket} {outcome : Outcome} {more : List Command}
    (settings : after.settings = writer.settings) (keys : after.keys = writer.keys)
    (handles : after.handles = writer.handles) (transport : after.transport = writer.transport)
    (tickets : ticket :: after.tickets = writer.tickets) (queue : writer.queue = more ++ after.queue)
    (standing : after.Standing key (gone ++ more))
    (flushed : outcome = .ok () → writer.activity.tickets ≠ [] ∧
      writer.transport.FlushedPast (Command.wire key gone).length) :
    Stepped key gone writer [(ticket, outcome)] after where
  settings := settings
  keys := keys
  handles := handles
  moved := moved_of_eq transport
  tickets := tickets
  standing := ⟨more, queue, standing⟩
  flushed := by
    intro other member
    cases List.mem_singleton.mp member
    rw [transport]
    exact ⟨rfl, flushed rfl⟩

theorem stepped_completing {completions : List (Ticket × Outcome)} {tickets : List Ticket} {purpose : Purpose}
    (busy : writer.activity = .completing tickets purpose) (standing : writer.Standing key gone)
    (ordered : completions.map Prod.fst ++ after.tickets = writer.tickets)
    (step : writer.step? = some (completions, after)) : Stepped key gone writer completions after := by
  unfold step? at step
  unfold Standing at standing
  rw [busy] at step standing
  obtain ⟨going, clear, last, flushed⟩ := standing
  cases tickets with
  | nil =>
    cases step
    exact .of_alike (alike_goOn _) ordered (standing_goOn going clear last)
  | cons ticket rest =>
    cases step
    refine .of_completion rfl rfl rfl rfl ordered (List.nil_append _).symm ?_ fun _ => ⟨?_, flushed⟩
    · rw [List.append_nil]
      exact ⟨⟨going.encoded, going.bytes⟩, ⟨clear.frames, clear.tickets⟩, last, flushed⟩
    · rw [busy]
      exact List.cons_ne_nil _ _

theorem stepped_failing {completions : List (Ticket × Outcome)} {tickets : List Ticket} {error : SendError}
    (busy : writer.activity = .failing tickets error) (broken : writer.Broken key gone)
    (ordered : completions.map Prod.fst ++ after.tickets = writer.tickets)
    (step : writer.step? = some (completions, after)) : Stepped key gone writer completions after := by
  unfold step? at step
  rw [busy] at step
  have clear := broken.clear
  cases tickets with
  | nil =>
    cases step
    exact .of_alike ⟨rfl, rfl, rfl, rfl, rfl⟩ ordered ⟨⟨clear.frames, clear.tickets⟩, broken.bytes, broken.failed⟩
  | cons ticket rest =>
    cases step
    refine .of_completion rfl rfl rfl rfl ordered (List.nil_append _).symm ?_ nofun
    rw [List.append_nil]
    exact ⟨⟨clear.frames, clear.tickets⟩, broken.bytes, broken.failed⟩

theorem stepped_closing {completions : List (Ticket × Outcome)} {error : SendError}
    (busy : writer.activity = .closing error) (broken : writer.Broken key gone)
    (ordered : completions.map Prod.fst ++ after.tickets = writer.tickets)
    (step : writer.step? = some (completions, after)) : Stepped key gone writer completions after := by
  unfold step? at step
  rw [busy] at step
  dsimp only at step
  have clear := broken.clear
  split at step
  case h_1 none =>
    cases step
    exact .of_alike ⟨rfl, rfl, rfl, rfl, rfl⟩ ordered ⟨⟨clear.frames, clear.tickets⟩, broken.bytes, broken.failed⟩
  case h_2 command rest queue =>
    cases step
    have queued : writer.queue = [command] ++ rest := queue
    refine .of_completion rfl rfl rfl rfl ordered queued ?_ nofun
    refine ⟨⟨clear.frames, clear.tickets⟩, ?_, broken.failed⟩
    exact broken.bytes.trans (Command.wire_prefix_of_prefix key (List.prefix_append _ _))

/-- Every step of the worker keeps the standing of the transport. -/
theorem step_spec {completions : List (Ticket × Outcome)} (keys : writer.settings.keyFor writer.keys = key)
    (honest : writer.transport.Honest)
    (told : Transport.reported writer.transport.calls.toList = writer.transport.bytes.length)
    (standing : writer.Standing key gone) (step : writer.step? = some (completions, after)) :
    Stepped key gone writer completions after := by
  have ordered := (steps_of_step step).tickets standing.filed
  cases busy : writer.activity with
  | ready =>
    simp only [Standing, step?, busy] at standing step
    obtain ⟨next, advance, same⟩ := Option.map_eq_some_iff.mp step
    cases same
    exact stepped_advance keys standing busy advance
  | writing frames tickets count purpose =>
    simp only [Standing, step?, busy] at standing step
    cases step
    obtain ⟨going, clear, last⟩ := standing
    exact stepped_writeOn honest going clear last ordered
  | flushing tickets purpose =>
    simp only [Standing, step?, busy] at standing step
    cases step
    obtain ⟨going, clear, last⟩ := standing
    exact stepped_flushOut told going clear last ordered
  | completing tickets purpose => exact stepped_completing busy standing ordered step
  | failing tickets error =>
    simp only [Standing, busy] at standing
    exact stepped_failing busy standing ordered step
  | closing error =>
    simp only [Standing, busy] at standing
    exact stepped_closing busy standing ordered step
  | ended outcome =>
    unfold step? at step
    rw [busy] at step
    cases step

end Writer
end Egress
