import Egress.Proofs.WriterRest
import Egress.Proofs.WriterSteps

/-!
The law of the wire. In every history of a writer, the bytes that its transport has taken are a front part of the
frames that were accepted, each encoded under its own key, and a ticket is completed with success only when the
transport has been flushed past its command.
-/
namespace Egress

/-- The transport was flushed with success when it had taken some bytes, these at the front. -/
def Transport.Flushed (transport : Transport) (content : Bytes) : Prop :=
  ∃ front back, transport.calls.toList = front ++ .flush (.done 0) :: back ∧
    content <+: transport.bytes.take (Transport.reported front)

/-- The transport has not been used. -/
structure Transport.Unused (transport : Transport) : Prop where
  taken : transport.taken = #[]
  calls : transport.calls = #[]

namespace Writer

variable {key : Nat → Option MaskKey} {gone : List Command} {writer : Writer}

/-- What happens at the handles leaves the standing as it is: no command joins a closed queue, and no handle comes back
once all are gone. -/
theorem Standing.of_same {after : Writer} (standing : writer.Standing key gone)
    (activity : after.activity = writer.activity) (batch : after.batch = writer.batch)
    (encoded : after.encoded = writer.encoded) (transport : after.transport = writer.transport)
    (alone : writer.handles = 0 → after.handles = 0 ∧ after.queue = writer.queue)
    (queue : after.queue = writer.queue ∨ writer.isClosed = false) : after.Standing key gone := by
  have going : ∀ left, writer.Going key gone left → after.Going key gone left :=
    fun left before => ⟨encoded.trans before.encoded, by rw [transport]; exact before.bytes⟩
  have clear : writer.Clear → after.Clear := fun before => ⟨batch ▸ before.frames, batch ▸ before.tickets⟩
  have last : ∀ purpose, writer.Last purpose → after.Last purpose := by
    intro purpose before finish
    obtain ⟨none, zero⟩ := before finish
    exact ⟨(alone zero).2.trans none, (alone zero).1⟩
  have broken : writer.Broken key gone → after.Broken key gone :=
    fun before => ⟨clear before.clear, transport ▸ before.bytes, transport ▸ before.failed⟩
  unfold Standing at standing ⊢
  rw [activity]
  cases doing : writer.activity with
  | ready =>
    rw [doing] at standing
    exact ⟨batch ▸ going _ standing.going, batch ▸ standing.lengths⟩
  | writing frames tickets count purpose =>
    rw [doing] at standing
    exact ⟨going _ standing.1, clear standing.2.1, last _ standing.2.2⟩
  | flushing tickets purpose =>
    rw [doing] at standing
    exact ⟨going _ standing.1, clear standing.2.1, last _ standing.2.2⟩
  | completing tickets purpose =>
    rw [doing] at standing
    obtain ⟨before, empty, ending, flushed⟩ := standing
    exact ⟨going _ before, clear empty, last _ ending, transport ▸ flushed⟩
  | failing tickets error | closing error =>
    rw [doing] at standing
    exact broken standing
  | ended outcome =>
    rw [doing] at standing
    rcases outcome with error | ⟨⟩
    · exact broken standing
    · obtain ⟨before, empty, none⟩ := standing
      refine ⟨going _ before, clear empty, ?_⟩
      rcases queue with same | unclosed
      · exact same.trans none
      · rw [isClosed, doing] at unclosed
        cases unclosed

end Writer

/-! ## Histories -/

/-- What holds in every history of a writer. -/
structure History.Sound (key : Nat → Option MaskKey) (history : History) : Prop where
  keys : history.writer.settings.keyFor history.writer.keys = key
  honest : history.writer.transport.Honest
  told : Transport.reported history.writer.transport.calls.toList = history.writer.transport.bytes.length
  tickets : history.completed.map Prod.fst ++ history.writer.tickets = history.accepted.map Command.ticket
  standing : ∃ gone, history.accepted = gone ++ history.writer.queue ∧ history.writer.Standing key gone
  flushed : ∀ n ticket, history.completed[n]? = some (ticket, .ok ()) →
    history.writer.transport.FlushedPast (Command.wire key (history.accepted.take (n + 1))).length

namespace History

variable {key : Nat → Option MaskKey} {history : History}

theorem sound_start {settings : WriterSettings} {keys : Nat → MaskKey} {transport : Transport} {writer : Writer}
    (begun : Writer.start? settings keys transport = some writer) (honest : transport.Honest)
    (unused : transport.Unused) : (start writer).Sound (settings.keyFor keys) := by
  unfold Writer.start? at begun
  split at begun
  · cases begun
  · cases begun
    refine ⟨rfl, honest, ?_, rfl, ⟨[], rfl, ⟨rfl, ?_⟩, rfl⟩, nofun⟩
    · show Transport.reported transport.calls.toList = transport.taken.toList.length
      rw [unused.calls, unused.taken]
      rfl
    · show transport.taken.toList ++ [] = []
      rw [unused.taken]
      rfl

/-- As many commands have left the queue as tickets have been completed or are at hand. -/
theorem Sound.gone_length (sound : history.Sound key) {gone : List Command}
    (accepted : history.accepted = gone ++ history.writer.queue) :
    gone.length = history.completed.length + history.writer.activity.tickets.length
      + history.writer.batch.tickets.length := by
  have lengths := congrArg List.length sound.tickets
  simp only [Writer.tickets, accepted, List.length_append, List.length_map] at lengths
  omega

theorem Sound.work (sound : history.Sound key) : history.work.Sound key := by
  unfold History.work
  split
  case h_2 => exact sound
  case h_1 completions after step =>
    obtain ⟨gone, accepted, standing⟩ := sound.standing
    have stepped := Writer.step_spec sound.keys sound.honest sound.told standing step
    obtain ⟨calls, added, moved, told⟩ := stepped.moved
    obtain ⟨more, queue, standing⟩ := stepped.standing
    refine ⟨?_, moved.honest sound.honest, ?_, ?_, ⟨gone ++ more, ?_, standing⟩, ?_⟩
    · rw [stepped.settings, stepped.keys]
      exact sound.keys
    · rw [moved.calls, moved.bytes, Transport.reported_append, sound.told, told, List.length_append]
    · rw [List.map_append, List.append_assoc, stepped.tickets]
      exact sound.tickets
    · rw [accepted, queue, List.append_assoc]
    · intro n ticket completion
      by_cases earlier : n < history.completed.length
      · rw [List.getElem?_append_left earlier] at completion
        exact (sound.flushed n ticket completion).of_calls moved.calls
      · rw [List.getElem?_append_right (by omega)] at completion
        obtain ⟨single, busy, flushed⟩ := stepped.flushed ticket (List.mem_of_getElem? completion)
        have last : n = history.completed.length := by
          have inside := (List.getElem?_eq_some_iff.mp completion).1
          rw [single, List.length_singleton] at inside
          omega
        have longer := sound.gone_length accepted
        have held := List.length_pos_iff.mpr busy
        refine flushed.mono (Command.wire_prefix_of_prefix key ?_).length_le
        show history.accepted.take (n + 1) <+: gone
        rw [accepted, List.take_append_of_le_length (by omega)]
        exact List.take_prefix _ _

theorem Sound.submit (sound : history.Sound key) (held : history.writer.handles ≠ 0) (command : Command) :
    (history.submit command).2.Sound key := by
  unfold History.submit
  rcases Writer.enqueue_cases history.writer command with ⟨unclosed, taken⟩ | ⟨error, refused⟩
  · rw [taken]
    obtain ⟨gone, accepted, standing⟩ := sound.standing
    refine ⟨sound.keys, sound.honest, sound.told, ?_, ⟨gone, ?_, ?_⟩, ?_⟩
    · simp only [Writer.tickets, List.map_append, ← sound.tickets, List.append_assoc]
    · rw [accepted, List.append_assoc]
    · exact standing.of_same rfl rfl rfl rfl (fun none => absurd none held) (.inr unclosed)
    · intro n ticket completion
      have inside : n < history.completed.length := (List.getElem?_eq_some_iff.mp completion).1
      have longer := sound.gone_length accepted
      have enough : n + 1 ≤ history.accepted.length := by
        rw [accepted, List.length_append]
        omega
      rw [List.take_append_of_le_length enough]
      exact sound.flushed n ticket completion
  · rw [refused]
    exact sound

theorem Sound.after (sound : history.Sound key) (event : WriterEvent) : (history.after event).Sound key := by
  unfold History.after
  cases event with
  | step => exact sound.work
  | command command =>
    dsimp only
    split
    case isTrue => exact sound
    case isFalse held => exact sound.submit held command
  | cloneHandle =>
    dsimp only
    split
    case isTrue => exact sound
    case isFalse held =>
      obtain ⟨gone, accepted, standing⟩ := sound.standing
      refine ⟨sound.keys, sound.honest, sound.told, sound.tickets, ⟨gone, accepted, ?_⟩, sound.flushed⟩
      exact standing.of_same rfl rfl rfl rfl (fun none => absurd none held) (.inl rfl)
  | dropHandle =>
    obtain ⟨gone, accepted, standing⟩ := sound.standing
    refine ⟨sound.keys, sound.honest, sound.told, sound.tickets, ⟨gone, accepted, ?_⟩, sound.flushed⟩
    exact standing.of_same rfl rfl rfl rfl (fun none => ⟨congrArg (· - 1) none, rfl⟩) (.inl rfl)
  | setIdleTimeout span =>
    obtain ⟨gone, accepted, standing⟩ := sound.standing
    refine ⟨sound.keys, sound.honest, sound.told, sound.tickets, ⟨gone, accepted, ?_⟩, sound.flushed⟩
    exact standing.of_same rfl rfl rfl rfl (fun none => ⟨none, rfl⟩) (.inl rfl)

theorem Sound.afterAll (sound : history.Sound key) (events : List WriterEvent) :
    (history.afterAll events).Sound key := by
  induction events generalizing history with
  | nil => exact sound
  | cons event events ih => exact ih (sound.after event)

/-- The transport has taken a front part of what was accepted. -/
theorem Sound.bytes_prefix (sound : history.Sound key) :
    history.writer.transport.bytes <+: Command.wire key history.accepted := by
  obtain ⟨gone, accepted, standing⟩ := sound.standing
  have front : Command.wire key gone <+: Command.wire key history.accepted :=
    Command.wire_prefix_of_prefix key (accepted ▸ List.prefix_append _ _)
  refine List.IsPrefix.trans ?_ front
  unfold Writer.Standing at standing
  split at standing
  · exact ⟨_, standing.going.bytes⟩
  · exact ⟨_, standing.1.bytes⟩
  · exact ⟨_, standing.1.bytes⟩
  · exact ⟨_, standing.1.bytes⟩
  · exact standing.bytes
  · exact standing.bytes
  · exact standing.bytes
  · exact ⟨_, standing.1.bytes⟩

/-- What is completed with success has been flushed, and all that came before it too. -/
theorem Sound.ok_flushed (sound : history.Sound key) {n : Nat} {ticket : Ticket}
    (completion : history.completed[n]? = some (ticket, .ok ())) :
    (history.accepted[n]?).map Command.ticket = some ticket ∧
      history.writer.transport.Flushed (Command.wire key (history.accepted.take (n + 1))) := by
  constructor
  · rw [← List.getElem?_map, ← sound.tickets]
    have inside := (List.getElem?_eq_some_iff.mp completion).1
    rw [List.getElem?_append_left (by rwa [List.length_map]), List.getElem?_map, completion]
    rfl
  · obtain ⟨front, back, calls, past⟩ := sound.flushed n ticket completion
    refine ⟨front, back, calls, ?_⟩
    have early : Command.wire key (history.accepted.take (n + 1)) <+: Command.wire key history.accepted :=
      Command.wire_prefix_of_prefix key (List.take_prefix _ _)
    have taken : history.writer.transport.bytes.take (Transport.reported front) <+: Command.wire key history.accepted :=
      (List.take_prefix _ _).trans sound.bytes_prefix
    refine List.prefix_of_prefix_length_le early taken ?_
    have told := sound.told
    rw [calls, Transport.reported_append] at told
    rw [List.length_take]
    omega

/-- A worker that ends without a failed call has written all that was accepted. -/
theorem Sound.ended_bytes (sound : history.Sound key) (well : ¬ history.writer.transport.HasFailed)
    {outcome : Outcome} (ended : history.writer.ended = some outcome) :
    outcome = .ok () ∧ history.writer.transport.bytes = Command.wire key history.accepted := by
  obtain ⟨gone, accepted, standing⟩ := sound.standing
  unfold Writer.ended at ended
  split at ended
  case h_2 => cases ended
  case h_1 last doing =>
    cases ended
    unfold Writer.Standing at standing
    rw [doing] at standing
    rcases outcome with error | ⟨⟩
    · exact absurd standing.failed well
    · obtain ⟨going, _, none⟩ := standing
      rw [accepted, none, List.append_nil, ← going.bytes, List.append_nil]
      exact ⟨rfl, rfl⟩

/-- Without a handle, the worker ends after some steps. -/
theorem Sound.ends (sound : history.Sound key) (alone : history.writer.handles = 0) :
    ∃ steps, (history.afterAll (List.replicate steps .step)).writer.ended ≠ none := by
  induction effort : history.writer.effort using Nat.strongRecOn generalizing history with
  | ind bound ih =>
    cases step : history.writer.step? with
    | none => exact ⟨0, Writer.ended_of_rest step alone⟩
    | some next =>
      obtain ⟨gone, _, standing⟩ := sound.standing
      have stepped := Writer.step_spec sound.keys sound.honest sound.told standing step
      have worked : history.work.writer = next.2 := by
        unfold History.work
        rw [step]
      have less : history.work.writer.effort < bound := by
        rw [worked, ← effort]
        exact Writer.step_effort step
      have none : history.work.writer.handles = 0 := by
        rw [worked, stepped.handles]
        exact alone
      obtain ⟨steps, ended⟩ := ih _ less sound.work none rfl
      exact ⟨steps + 1, ended⟩

/-- In every history of a writer over a transport that reports what it takes: the transport has taken a front part of
the frames that were accepted; the `n`-th success completes the `n`-th command, and only when this and all before it
have been taken and flushed; a worker that ends without a failed call has written everything; and the worker ends
when all handles are gone. -/
theorem wire_law {settings : WriterSettings} {keys : Nat → MaskKey} {transport : Transport} {writer : Writer}
    (begun : Writer.start? settings keys transport = some writer) (honest : transport.Honest)
    (unused : transport.Unused) (events : List WriterEvent) :
    let key := settings.keyFor keys
    let history := (start writer).afterAll events
    history.writer.transport.bytes <+: Command.wire key history.accepted ∧
    (∀ n ticket, history.completed[n]? = some (ticket, .ok ()) →
      (history.accepted[n]?).map Command.ticket = some ticket ∧
        history.writer.transport.Flushed (Command.wire key (history.accepted.take (n + 1)))) ∧
    (¬ history.writer.transport.HasFailed → ∀ outcome, history.writer.ended = some outcome →
      outcome = .ok () ∧ history.writer.transport.bytes = Command.wire key history.accepted) ∧
    (history.writer.handles = 0 → ∃ steps, (history.afterAll (List.replicate steps .step)).writer.ended ≠ none) := by
  have sound := (sound_start begun honest unused).afterAll events
  exact ⟨sound.bytes_prefix, fun _ _ completion => sound.ok_flushed completion,
    fun well _ ended => sound.ended_bytes well ended, sound.ends⟩

/-- A client over a transport that takes what it is given in three pieces. -/
def masking : Writer :=
  .start { WriterSettings.standard with role := .client } (fun n => ⟨UInt8.ofNat n, 1, 2, 3⟩)
    { Transport.unlimited with writes := [.take 3, .take 2] }

/-- A frame that waits for the end of its pass, one that waits for a flush, the flush, and the end. -/
def maskingEvents : List WriterEvent :=
  [.command (.frame ⟨.binary, true, [7]⟩ 0 .auto), .step, .command (.frame ⟨.text, true, []⟩ 1 .on), .command (.flush 2),
    .dropHandle] ++ List.replicate 16 .step

theorem wire_law_masked :
    let history := (start masking).afterAll maskingEvents
    Writer.start? masking.settings masking.keys masking.transport = some masking ∧ masking.transport.Honest ∧
    masking.transport.Unused ∧
    (history.accepted[1]?).map Command.ticket = some 1 ∧
    history.writer.transport.Flushed [130, 129, 0, 1, 2, 3, 7, 129, 128, 1, 1, 2, 3] ∧
    history.writer.transport.bytes = [130, 129, 0, 1, 2, 3, 7, 129, 128, 1, 1, 2, 3] ∧
    ∃ steps, (history.afterAll (List.replicate steps .step)).writer.ended ≠ none := by
  have begun : Writer.start? masking.settings masking.keys masking.transport = some masking := rfl
  have honest : masking.transport.Honest := by
    intro answer member
    rcases List.mem_cons.mp member with rfl | member
    · trivial
    · cases List.mem_singleton.mp member
      trivial
  have unused : masking.transport.Unused := ⟨rfl, rfl⟩
  have well : ¬ ((start masking).afterAll maskingEvents).writer.transport.HasFailed := by
    rintro ⟨call, member, failed⟩
    have calls : ((start masking).afterAll maskingEvents).writer.transport.calls.toList
        = [.write 3 13 (.done 3), .write 3 10 (.done 2), .write 3 8 (.done 8), .flush (.done 0), .flush (.done 0)] := rfl
    rw [calls] at member
    simp only [List.mem_cons, List.not_mem_nil, or_false] at member
    rcases member with rfl | rfl | rfl | rfl | rfl <;> simp [TransportCall.Failed] at failed
  obtain ⟨_, completed, written, ends⟩ := wire_law begun honest unused maskingEvents
  obtain ⟨second, flushed⟩ := completed 1 1 rfl
  exact ⟨begun, honest, unused, second, flushed, (written well _ rfl).2, ends rfl⟩

end History
end Egress
