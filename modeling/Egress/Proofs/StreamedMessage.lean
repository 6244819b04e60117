import Egress.Proofs.HandingOver

/-!
Streamed messages over a writer. As long as a message has not failed, its frames have all been taken, and together with
the buffer they hold what was written. A frame that is refused is a failure, so a message that is closed without one
has been taken whole. Its ticket succeeds only with its last frame, and that one only when everything before it has
been flushed.
-/
namespace Egress

open Ledger (Deed Evolves)

/-- What can happen to a message before it is closed. Meanwhile the worker may have its turn. -/
def StreamEvent.Open : StreamEvent → Prop
  | .close => False
  | .elsewhere event => event = .work
  | _ => True

/-- The frames begin a message and go on with it. -/
def MessageKind.Sequence (kind : MessageKind) (frames : List Frame) : Prop :=
  ∀ n frame, frames[n]? = some frame → frame.opcode = if n = 0 then kind.opcode else .continuation

/-- The frames are one message, of which the last frame only is final. -/
structure MessageKind.Whole (kind : MessageKind) (frames : List Frame) : Prop where
  opcodes : kind.Sequence frames
  ends : ∃ front last, frames = front ++ [last] ∧ last.final = true ∧ ∀ frame ∈ front, frame.final = false

theorem MessageKind.Sequence.append {kind : MessageKind} {frames : List Frame} (begun : kind.Sequence frames)
    {next : Frame} (opcode : next.opcode = if frames.length = 0 then kind.opcode else .continuation) :
    kind.Sequence (frames ++ [next]) := by
  intro n frame member
  by_cases inside : n < frames.length
  · rw [List.getElem?_append_left inside] at member
    exact begun n frame member
  · have last : n = frames.length := by
      have bound := (List.getElem?_eq_some_iff.mp member).1
      simp only [List.length_append, List.length_singleton] at bound
      omega
    subst last
    simp at member
    rw [← member, opcode]

variable {types : ValueTypes} {key : Nat → Option MaskKey} {ticket : Ticket}

namespace MessageStream

/-- A stream of which everything so far has been taken. -/
structure Intact (before : Sender types (Logged (Scheduled key))) (data : Bytes) (message : List Handover)
    (stream : MessageStream types (Logged (Scheduled key))) : Prop where
  conveyed : before.Conveyed message stream.sender
  sent : stream.framesSent = message.length
  opcodes : stream.kind.Sequence (message.map Handover.frame)
  unended : ∀ handover ∈ message, handover.frame.final = false
  content : message.flatMap (·.frame.payload) ++ stream.buffer.toBytes = data

/-- A stream that is not closed: what it has sent is what was written, unless it has failed. -/
structure Faithful (before : Sender types (Logged (Scheduled key))) (ticket : Ticket) (kind : MessageKind) (data : Bytes)
    (stream : MessageStream types (Logged (Scheduled key))) : Prop where
  fresh : stream.sender.Fresh ticket
  sound : stream.sender.ledger.Sound
  begun : stream.message < stream.sender.ledger.failures.size
  numbered : stream.sender.Numbered
  kind : stream.kind = kind
  unclosed : stream.closed = false
  unrejected : stream.rejected = false
  fitting : stream.Fitting
  intact : stream.failure = none → ∃ message, stream.Intact before data message

variable {before : Sender types (Logged (Scheduled key))} {kind : MessageKind} {data : Bytes}
  {stream : MessageStream types (Logged (Scheduled key))}

/-- Once a message has failed, nothing is said about its data. -/
theorem Faithful.of_failed (faithful : stream.Faithful before ticket kind data) (failed : stream.failure ≠ none)
    (other : Bytes) : stream.Faithful before ticket kind other :=
  { faithful with intact := fun none => absurd none failed }

/-- What the ledger has to do with it stays as it is while the ticket is spared. -/
theorem Faithful.later {after : MessageStream types (Logged (Scheduled key))}
    (faithful : stream.Faithful before ticket kind data) (goes : stream.Goes (Deed.Spares ticket) after)
    (numbered : after.sender.Numbered) (same : after.kind = stream.kind) (closed : after.closed = stream.closed)
    (rejected : after.rejected = stream.rejected) (fitting : after.Fitting) {more : Bytes}
    (intact : after.failure = none → ∀ message, stream.Intact before data message →
      ∃ message, after.Intact before more message) : after.Faithful before ticket kind more where
  fresh := faithful.fresh.goes goes.sender
  sound := goes.sender.ledger.sound faithful.sound
  begun := by
    rw [goes.message]
    exact Nat.lt_of_lt_of_le faithful.begun goes.sender.ledger.extended.messages
  numbered := numbered
  kind := same.trans faithful.kind
  unclosed := closed.trans faithful.unclosed
  unrejected := rejected.trans faithful.unrejected
  fitting := fitting
  intact := by
    intro none
    cases failed : stream.failure with
    | none =>
      obtain ⟨message, before⟩ := faithful.intact failed
      exact intact none message before
    | some error =>
      have still := goes.sender.ledger.extended.failures _ _ failed
      rw [← goes.message] at still
      exact absurd (none.symm.trans still) nofun

/-- A frame before the last that is taken. -/
theorem Intact.handOver {message : List Handover} (intact : stream.Intact before data message)
    (fitting : stream.Fitting) {next : Handover} (taken : (stream.answer false).1 = .ok ())
    (same : next.frame = stream.nextFrame false) (takes : stream.sender.Takes next (stream.answer false).2) :
    (stream.handOver false).Intact before data (message ++ [next]) := by
  rw [fitting.handOver_of_taken taken]
  refine ⟨intact.conveyed.append takes, ?_, ?_, ?_, ?_⟩
  · simp [intact.sent]
  · rw [List.map_append]
    refine intact.opcodes.append ?_
    rw [same, List.length_map, ← intact.sent]
    rfl
  · intro handover member
    rcases List.mem_append.mp member with old | new
    · exact intact.unended handover old
    · cases List.mem_singleton.mp new
      rw [same]
      rfl
  · rw [← intact.content]
    simp [same, nextFrame]

/-- A frame before the last. -/
theorem Faithful.handOver (faithful : stream.Faithful before ticket kind data) :
    (stream.handOver false).Faithful before ticket kind data := by
  have goes : stream.Goes (Deed.Spares ticket) (stream.handOver false) :=
    goes_handOver faithful.fresh.allows false nofun ((Sender.begins_spares ticket).issue _ rfl)
  have older : (stream.recipient false).next? ≠ some stream.sender.ledger.slots.size := nofun
  have closed := stream.closed_handOver false
  have same := (stream.handOver_keeps false).1
  rcases answer_cases faithful.sound faithful.numbered older with ⟨taken, takes⟩ | ⟨⟨error, refused⟩, accepted, messages, pending⟩
  · have handed := faithful.fitting.handOver_of_taken taken
    refine faithful.later goes ?_ same closed ?_ ?_ fun _ message intact =>
      ⟨_, intact.handOver faithful.fitting taken rfl takes⟩
    · rw [handed]
      exact faithful.numbered.takes takes
    · rw [handed]
    · rw [handed]
      rfl
  · obtain ⟨ledger, carrier, rejected, fitting⟩ := faithful.fitting.handOver_of_refused refused
    have failed : (stream.handOver false).failure ≠ none := by
      obtain ⟨first, failed⟩ := Ledger.failure_complete_fragment pending (Nat.lt_of_lt_of_le faithful.begun messages) error
      unfold failure
      rw [goes.message, ledger, Ledger.fail, failed]
      exact nofun
    have unsent : (stream.handOver false).sender.accepted = stream.sender.accepted := by
      rw [← accepted]
      show (stream.handOver false).sender.carrier.carrier.history.accepted = _
      rw [carrier]
      rfl
    refine faithful.later goes ?_ same closed rejected (fitting rfl) fun none => absurd none failed
    exact faithful.numbered.same unsent goes.sender.ledger.extended.size_le

/-! ## Events before the end -/

theorem Faithful.filled (faithful : stream.Faithful before ticket kind data) (bytes : Bytes) :
    ({ stream with buffer := stream.buffer.write bytes } : MessageStream types _).Faithful before ticket kind (data ++ bytes) := by
  refine { faithful with intact := fun none => ?_ }
  obtain ⟨message, intact⟩ := faithful.intact none
  exact ⟨message, { intact with content := by simp [← intact.content] }⟩

theorem Faithful.fail (faithful : stream.Faithful before ticket kind data) (error : SendError) :
    (stream.fail error).Faithful before ticket kind data := by
  have goes : stream.Goes (Deed.Spares ticket) (stream.fail error) := goes_fail faithful.fresh.allows trivial
  obtain ⟨first, failed⟩ := Ledger.failure_recordFailure_self faithful.begun error
  have failed : (stream.fail error).failure = some first := failed
  refine faithful.later goes ?_ rfl rfl rfl faithful.fitting fun none => ?_
  · exact faithful.numbered.same rfl goes.sender.ledger.extended.size_le
  · rw [failed] at none
    cases none

theorem Faithful.letWork (faithful : stream.Faithful before ticket kind data) : stream.letWork.Faithful before ticket kind data := by
  have goes : stream.Goes (Deed.Spares ticket) stream.letWork := goes_letWork faithful.fresh.allows
  have accepted : stream.letWork.sender.accepted = stream.sender.accepted :=
    stream.sender.carries_letWork.accepted.trans (List.append_nil _)
  refine faithful.later goes ?_ rfl rfl rfl faithful.fitting fun _ message intact => ⟨message, ?_⟩
  · exact faithful.numbered.same accepted goes.sender.ledger.extended.size_le
  · obtain ⟨log, before, taken⟩ := intact.conveyed
    exact ⟨⟨log, accepted.trans before, taken⟩, intact.sent, intact.opcodes, intact.unended, intact.content⟩

/-- A stream stays faithful until it is closed. -/
theorem endures_faithful :
    Endures StreamEvent.Open fun data (stream : MessageStream types (Logged (Scheduled key))) =>
      stream.Faithful before ticket kind data where
  joins bytes faithful _ := faithful.filled bytes
  sends faithful := faithful.handOver
  stops _ faithful failed := faithful.of_failed failed _
  unclosing := id
  unclosed := Faithful.unclosed
  fails error faithful := faithful.fail error
  attaches ticket faithful := by
    refine { faithful with intact := fun none => ?_ }
    obtain ⟨message, intact⟩ := faithful.intact none
    exact ⟨message, { intact with }⟩
  elsewhere only faithful := by
    cases only
    exact faithful.letWork

/-! ## The beginning and the end -/

/-- A message that is begun with a ticket of its own while no message is open. -/
theorem faithful_start {before sender : Sender types (Logged (Scheduled key))} (fresh : sender.Fresh ticket)
    (sound : sender.ledger.Sound) (numbered : sender.Numbered) (closed : sender.openMessage = none)
    (log : sender.log = before.log) (accepted : sender.accepted = before.accepted) (kind : MessageKind) (bufferSize : Nat) :
    (start sender kind bufferSize).Faithful before ticket kind [] := by
  have goes := Sender.goes_start (Sender.begins_spares ticket) fresh.allows kind bufferSize
  have still := fresh.goes goes
  have sound := goes.ledger.sound sound
  have larger := goes.ledger.extended.size_le
  rw [start_eq] at still sound larger ⊢
  refine ⟨still, sound, ?_, numbered.same (Sender.accepted_of_carrier rfl) larger, rfl, rfl, rfl, closed, fun _ => ⟨[], ?_⟩⟩
  · show sender.ledger.failures.size < (sender.ledger.failures.push none).size
    simp
  · have nothing : before.Conveyed [] sender := ⟨by simpa using log, by simpa using accepted, by simp⟩
    exact ⟨nothing.of_carrier rfl, rfl, by simp [MessageKind.Sequence], by simp, BufferPool.toBytes_acquire _ _⟩

/-- As its last frame is handed over, a message's ticket has not succeeded, and nothing else leads to it. -/
theorem backed_opened (fresh : stream.sender.Fresh ticket) (sound : stream.sender.ledger.Sound)
    (own : stream.ticket = ticket) (success : Prop) :
    (stream.opened true).ledger.Backed success stream.sender.ledger.slots.size ticket := by
  have apart : ticket ≠ stream.sender.ledger.slots.size := Nat.ne_of_lt fresh.issued
  have slots : ∀ other, (stream.opened true).ledger.slots[other]? = if other = stream.sender.ledger.slots.size then
      some ⟨.last stream.message stream.ticket, none⟩ else stream.sender.ledger.slots[other]? :=
    stream.sender.ledger.slots_issue _
  refine ⟨(sound.toTold.alone_of_new (Nat.le_refl _)).issue ?_, ?_, ?_, ?_⟩
  · intro leads
    exact apart (own ▸ Option.some.inj leads)
  · intro other slot issued leads
    rw [slots] at issued
    split at issued
    case isTrue same => exact same
    case isFalse => exact absurd leads (fresh.alone other slot issued)
  · intro known
    rw [Ledger.outcome?, slots, if_pos rfl] at known
    cases known
  · intro known
    rw [Ledger.outcome?, slots, if_neg apart] at known
    have none := fresh.outcome.symm.trans known
    cases none

/-- Once the last frame has been handed over, the message's ticket succeeds only with it. -/
theorem backed_answer (fresh : stream.sender.Fresh ticket) (sound : stream.sender.ledger.Sound)
    (own : stream.ticket = ticket) :
    (stream.answer true).2.ledger.Backed
      ((stream.sender.ledger.slots.size, .ok ()) ∈ (stream.answer true).2.traffic.history.completed)
      stream.sender.ledger.slots.size ticket := by
  let last := stream.sender.ledger.slots.size
  let success := (last, .ok ()) ∈ (stream.answer true).2.traffic.history.completed
  obtain ⟨sent, carries, cases⟩ := (stream.opened true).carries_submit (stream.nextFrame true) last stream.sender.batchMode
  have came : ∀ command ∈ sent, command.ticket = last := by
    rcases cases with ⟨_, rfl⟩ | ⟨_, rfl⟩
    · intro command member
      cases List.mem_singleton.mp member
      rfl
    · simp
  have evolves : Evolves (Deed.Backs success last ticket) (stream.opened true).ledger (stream.answer true).2.ledger := by
    refine carries.evolves (stream.opened true).sound_history (stream.answer true).2.sound_history ?_
    rintro completion member held (same | same) ok
    · have whole : completion = (last, .ok ()) := Prod.ext same ok
      rwa [whole] at member
    · rcases List.mem_append.mp held with old | new
      · exact absurd same (fresh.allows.held _ old completion.2)
      · obtain ⟨command, new, ticket⟩ := List.mem_map.mp new
        have late : completion.1 = last := ticket.symm.trans (came command new)
        exact absurd (late.symm.trans same) (Nat.ne_of_gt fresh.issued)
  exact evolves.keeps (Ledger.Backed success last ticket) (fun _ _ backed _ backs => backed.after backs)
    (backed_opened fresh sound own success)

/-- A last frame that the writer refuses cannot succeed any more, nor can the message. -/
theorem backed_refused (fitting : stream.Fitting) (fresh : stream.sender.Fresh ticket) (sound : stream.sender.ledger.Sound)
    (numbered : stream.sender.Numbered) (own : stream.ticket = ticket) {error : SendError}
    (refused : (stream.answer true).1 = .error error) (accepted : (stream.answer true).2.accepted = stream.sender.accepted)
    (pending : (stream.answer true).2.ledger.pending? stream.sender.ledger.slots.size = some (stream.recipient true)) :
    let last := stream.sender.ledger.slots.size
    let after := (stream.handOver true).sender
    last < after.ledger.slots.size ∧
      after.ledger.Backed ((last, .ok ()) ∈ after.traffic.history.completed) last ticket ∧
      ∀ command ∈ after.accepted, command.ticket ≠ last := by
  intro last after
  obtain ⟨ledger, carrier, _, _⟩ := fitting.handOver_of_refused refused
  have late : after.traffic.history = (stream.answer true).2.traffic.history :=
    congrArg (fun logged => logged.carrier.history) carrier
  have failed : after.ledger = (stream.answer true).2.ledger.after (.complete last (.error error)) := ledger
  refine ⟨?_, ?_, ?_⟩
  · obtain ⟨inside, _⟩ := Array.getElem?_eq_some_iff.mp (Ledger.pending?_eq_some.mp pending)
    rw [failed]
    exact Nat.lt_of_lt_of_le inside (Ledger.extends_complete _ _ _).size_le
  · rw [late, failed]
    refine (backed_answer fresh sound own).after fun _ ok => ?_
    cases ok
  · intro command member
    change command ∈ after.traffic.history.accepted at member
    rw [late] at member
    exact Nat.ne_of_lt (numbered command (accepted ▸ member))

/-- A message was taken whole, its last frame with the ticket `last`. -/
structure Delivered (before : Sender types (Logged (Scheduled key))) (kind : MessageKind) (data : Bytes) (last : Ticket)
    (message : List Handover) (after : Sender types (Logged (Scheduled key))) : Prop where
  conveyed : before.Conveyed message after
  whole : kind.Whole (message.map Handover.frame)
  content : message.flatMap (·.frame.payload) = data
  ends : ∃ front final, after.accepted = front ++ [final] ∧ final.ticket = last ∧
    ∀ command ∈ front, command.ticket ≠ last

/-- The last frame of a message of which everything before it has been taken. -/
theorem Intact.handOver_true {message : List Handover} (intact : stream.Intact before data message)
    (fitting : stream.Fitting) (numbered : stream.sender.Numbered) {next : Handover}
    (taken : (stream.answer true).1 = .ok ()) (same : next.frame = stream.nextFrame true)
    (takes : stream.sender.Takes next (stream.answer true).2) :
    Delivered before stream.kind data next.ticket (message ++ [next]) (stream.handOver true).sender := by
  rw [fitting.handOver_of_taken taken]
  have conveyed := intact.conveyed.append takes
  refine ⟨⟨conveyed.log, conveyed.accepted, conveyed.taken⟩, ⟨?_, ?_⟩, ?_, ?_⟩
  · rw [List.map_append]
    refine intact.opcodes.append ?_
    rw [same, List.length_map, ← intact.sent]
    rfl
  · refine ⟨message.map Handover.frame, next.frame, by simp, by rw [same]; rfl, ?_⟩
    intro frame member
    obtain ⟨handover, sent, rfl⟩ := List.mem_map.mp member
    exact intact.unended handover sent
  · rw [← intact.content]
    simp [same, nextFrame]
  · refine ⟨stream.sender.accepted, next.command, takes.accepted, rfl, ?_⟩
    intro command member
    rw [takes.new]
    exact Nat.ne_of_lt (numbered command member)

/-- A message that is closed has failed for good, or has not been taken whole, or has been; in the last two cases its
ticket can succeed only with its last frame. -/
theorem Faithful.close (faithful : stream.Faithful before ticket kind data) (own : stream.ticket = ticket) :
    stream.close.sender.ledger.Doomed stream.message ticket ∨
    ∃ last, stream.sender.ledger.slots.size ≤ last ∧ last < stream.close.sender.ledger.slots.size ∧
      stream.close.sender.ledger.Backed ((last, .ok ()) ∈ stream.close.sender.traffic.history.completed) last ticket ∧
      ((∀ command ∈ stream.close.sender.accepted, command.ticket ≠ last) ∨
        ∃ message, Delivered before kind data last message stream.close.sender) := by
  cases failed : stream.failure with
  | some error => exact .inl (faithful.fresh.doomed_close own failed)
  | none =>
    obtain ⟨message, intact⟩ := faithful.intact failed
    let closing : MessageStream types (Logged (Scheduled key)) := { stream with closed := true }
    have closed : stream.close = (closing.handOver true).returnBuffer := by
      have failed : closing.failure = none := failed
      unfold MessageStream.close
      rw [faithful.unclosed]
      exact congrArg returnBuffer (sendLast_of_unfailed failed faithful.unrejected)
    have fitting : closing.Fitting := faithful.fitting
    have intact : closing.Intact before data message := { intact with }
    have fresh : closing.sender.Fresh ticket := faithful.fresh
    have sound : closing.sender.ledger.Sound := faithful.sound
    have numbered : closing.sender.Numbered := faithful.numbered
    have owned : closing.ticket = ticket := own
    have older : (closing.recipient true).next? ≠ some closing.sender.ledger.slots.size := by
      intro leads
      exact Nat.ne_of_lt fresh.issued (owned ▸ Option.some.inj leads)
    refine .inr ⟨closing.sender.ledger.slots.size, Nat.le_refl _, ?_⟩
    rw [closed]
    rcases answer_cases sound numbered older with ⟨taken, takes⟩ | ⟨⟨error, refused⟩, accepted, _, pending⟩
    · have delivered := intact.handOver_true fitting numbered taken rfl takes
      rw [fitting.handOver_of_taken taken, show closing.kind = kind from faithful.kind] at delivered
      rw [fitting.handOver_of_taken taken]
      exact ⟨takes.issued, backed_answer fresh sound owned, .inr ⟨_, ⟨delivered.conveyed.log, delivered.conveyed.accepted, delivered.conveyed.taken⟩,
        delivered.whole, delivered.content, delivered.ends⟩⟩
    · obtain ⟨inside, still, apart⟩ := backed_refused fitting fresh sound numbered owned refused accepted pending
      exact ⟨inside, still, .inl apart⟩

/-- After a message is closed the writer does not hold its ticket. -/
theorem Faithful.apart_close (faithful : stream.Faithful before ticket kind data) (own : stream.ticket = ticket) :
    stream.close.sender.traffic.Apart key ticket := by
  refine ⟨stream.close.sender.carrier.carrier.arises, ?_⟩
  rintro other held rfl
  obtain ⟨error, same⟩ := (faithful.fresh.denies_close own).sender.allows.held other held (.ok ()) rfl
  cases same

/-- When the last frame of a message has been completed with success, the whole message has been flushed. -/
theorem Delivered.flushed {last : Ticket} {message : List Handover} {closed : Sender types (Logged (Scheduled key))}
    (delivered : Delivered before kind data last message closed) {history : History} (sound : history.Sound key)
    {more : List Command} (accepted : history.accepted = closed.accepted ++ more)
    (apart : ∀ command ∈ more, command.ticket ≠ last) (completed : (last, .ok ()) ∈ history.completed) :
    history.writer.transport.Flushed (Command.wire key (before.accepted ++ message.map Handover.command)) := by
  obtain ⟨front, final, ends, own, others⟩ := delivered.ends
  obtain ⟨n, completion⟩ := List.getElem?_of_mem completed
  obtain ⟨same, flushed⟩ := sound.ok_flushed completion
  obtain ⟨command, place, ticket⟩ := Option.map_eq_some_iff.mp same
  have position : n = front.length := by
    rw [accepted, ends, List.append_assoc] at place
    by_cases early : n < front.length
    · rw [List.getElem?_append_left early] at place
      exact absurd ticket (others command (List.mem_of_getElem? place))
    · by_cases late : n = front.length
      · exact late
      · have beyond : front.length + 1 ≤ n := by omega
        rw [← List.append_assoc, List.getElem?_append_right (by simpa using beyond)] at place
        exact absurd ticket (apart command (List.mem_of_getElem? place))
  have whole : history.accepted.take (n + 1) = before.accepted ++ message.map Handover.command := by
    have size : n + 1 = closed.accepted.length := by
      rw [ends, position]
      simp
    rw [size, accepted, List.take_left, delivered.conveyed.accepted]
  rwa [whole] at flushed

/-- A streamed message whose ticket succeeds is wholly on the wire. A ticket is issued, a message begun while no message
is open, and whatever is done with its stream until it is dropped, the worker making steps in between; then anything
may happen that does not touch the tickets issued meanwhile. If the ticket has succeeded by then, the frames of the
message were handed over one after the other and all taken, they are one message with what was written, and the
transport has been flushed with success after it had taken them and all before them. -/
theorem written_whole {sender : Sender types (Logged (Scheduled key))} (reached : sender.ledger.Reached)
    (numbered : sender.Numbered) (closed : sender.openMessage = none) {recipient : Recipient}
    (older : ∀ target, recipient.next? = some target → target < sender.ledger.slots.size) (kind : MessageKind)
    (bufferSize : Nat) {events : List StreamEvent} (unclosing : ∀ event ∈ events, event.Open) :
    let ticket := (sender.issue recipient).1
    let stream := (start (sender.issue recipient).2 kind bufferSize).afterAll events
    let finished := stream.finish
    let message := finished.log.drop sender.log.length
    stream.ticket = ticket →
    ∀ later : List TrafficEvent,
      (∀ event ∈ later, event.Foreign fun own => ticket ≤ own ∧ own < finished.ledger.slots.size) →
      let traffic := finished.traffic.afterAll later
      traffic.ledger.outcome? ticket = some (.ok ()) →
      finished.log = sender.log ++ message ∧ (∀ handover ∈ message, handover.taken = true) ∧
      kind.Whole (message.map Handover.frame) ∧
      message.flatMap (·.frame.payload) = events.flatMap StreamEvent.written ∧
      ∃ back, traffic.history.accepted = sender.accepted ++ message.map Handover.command ++ back ∧
        traffic.history.writer.transport.Flushed (Command.wire key (sender.accepted ++ message.map Handover.command)) := by
  intro ticket stream finished message attached later foreign traffic succeeded
  have fresh : (sender.issue recipient).2.Fresh ticket :=
    Sender.fresh_issue reached.sound (fun _ held => numbered.held held) older
  have issued : (sender.issue recipient).2.Numbered := numbered.same rfl (sender.ledger.extends_issue recipient).size_le
  have logged : (sender.issue recipient).2.log = sender.log := rfl
  have accepted : (sender.issue recipient).2.accepted = sender.accepted := rfl
  have faithful : stream.Faithful sender ticket kind ([] ++ events.flatMap StreamEvent.written) :=
    endures_faithful.afterAll unclosing
      (faithful_start fresh (reached.sound.issue older) issued closed logged accepted kind bufferSize) (roomy_start _ _ _)
  rw [List.nil_append] at faithful
  have apart : finished.traffic.Apart key ticket := faithful.apart_close attached
  have mine : ticket ≤ ticket ∧ ticket < finished.ledger.slots.size :=
    ⟨Nat.le_refl _, Nat.lt_of_lt_of_le faithful.fresh.issued (faithful.fresh.denies_close attached).sender.ledger.extended.size_le⟩
  rcases faithful.close attached with doomed | ⟨last, old, new, backed, cases⟩
  · exact absurd succeeded (apart.doomed_afterAll foreign mine doomed).unsuccessful
  have ends : ticket ≤ last ∧ last < finished.ledger.slots.size :=
    ⟨Nat.le_trans (Nat.le_of_lt faithful.fresh.issued) old, new⟩
  have completed := (apart.backed_afterAll foreign mine ends backed).message succeeded
  obtain ⟨more, accepted, others⟩ := finished.traffic.accepted_afterAll foreign
  have sound : traffic.history.Sound key := (apart.afterAll foreign mine).arises.sound
  have unlike : ∀ command ∈ more, command.ticket ≠ last := by
    rintro command member rfl
    exact others command member ends
  rcases cases with refused | ⟨sent, delivered⟩
  · -- the last frame was refused, so nothing with its ticket was ever accepted
    obtain ⟨n, completion⟩ := List.getElem?_of_mem completed
    obtain ⟨command, place, same⟩ := Option.map_eq_some_iff.mp (sound.ok_flushed completion).1
    have member : command ∈ finished.accepted ++ more := accepted ▸ List.mem_of_getElem? place
    rcases List.mem_append.mp member with early | late
    · exact absurd same (refused command early)
    · exact absurd same (unlike command late)
  · have same : message = sent := by
      show finished.log.drop sender.log.length = sent
      rw [show finished.log = sender.log ++ sent from delivered.conveyed.log, List.drop_left]
    rw [same]
    refine ⟨delivered.conveyed.log, delivered.conveyed.taken, delivered.whole, delivered.content, more, ?_, ?_⟩
    · rw [← delivered.conveyed.accepted]
      exact accepted
    · exact delivered.flushed sound accepted unlike completed

/-- A server over a transport that takes what it is given in three pieces. -/
def serving : Writer := .start .standard (fun _ => ⟨0, 0, 0, 0⟩) { Transport.unlimited with writes := [.take 3, .take 2] }

theorem arises_serving : (History.start serving).Arises (WriterSettings.standard.keyFor serving.keys) := by
  refine .start rfl ?_ ⟨rfl, rfl⟩
  intro answer member
  rcases List.mem_cons.mp member with rfl | member
  · trivial
  · cases List.mem_singleton.mp member
    trivial

/-- A sender whose writer has its turn now and then. -/
def scheduled : Sender catalogue (Logged (Scheduled (WriterSettings.standard.keyFor serving.keys))) :=
  .start (.ofRegistry .empty) (.fresh ⟨.start serving, arises_serving, by decide, [1, 3, 0, 2]⟩) .empty

/-- Four letters for a message of short frames, with a flush in between. -/
def scheduledEvents : List StreamEvent := [.attach 0, .write [97, 98, 99], .elsewhere .work, .flush, .write [100]]

theorem written_whole_scheduled :
    let stream := (start (scheduled.issue .listener).2 .text 2).afterAll scheduledEvents
    let traffic := stream.finish.traffic.afterAll (List.replicate 40 (.writer .step))
    scheduled.ledger.Reached ∧ scheduled.Numbered ∧ stream.ticket = 0 ∧ traffic.ledger.outcome? 0 = some (.ok ()) ∧
    MessageKind.text.Whole (stream.finish.log.map Handover.frame) ∧
    traffic.history.writer.transport.Flushed [1, 2, 97, 98, 0, 1, 99, 128, 1, 100] := by
  intro stream traffic
  have reached : scheduled.ledger.Reached := .refl _
  have numbered : scheduled.Numbered := by
    intro command member
    change command ∈ [] at member
    cases member
  have older : ∀ target, Recipient.listener.next? = some target → target < scheduled.ledger.slots.size := nofun
  have unclosing : ∀ event ∈ scheduledEvents, event.Open := by
    intro event member
    simp only [scheduledEvents, List.mem_cons, List.not_mem_nil, or_false] at member
    rcases member with rfl | rfl | rfl | rfl | rfl <;> trivial
  have attached : stream.ticket = (scheduled.issue .listener).1 := by decide +kernel
  have foreign : ∀ event ∈ List.replicate 40 (TrafficEvent.writer .step),
      event.Foreign fun own => (scheduled.issue .listener).1 ≤ own ∧ own < stream.finish.ledger.slots.size := by
    intro event member
    cases List.eq_of_mem_replicate member
    trivial
  have known : traffic.ledger.outcome? 0 = some (.ok ()) := by
    have done : (traffic.ledger.outcome? 0).map Except.isOk = some true := by decide +kernel
    obtain ⟨outcome, same, ok⟩ := Option.map_eq_some_iff.mp done
    rcases outcome with error | ⟨⟩
    · cases ok
    · exact same
  obtain ⟨_, _, whole, _, _, _, flushed⟩ :=
    written_whole reached numbered rfl older .text 2 unclosing attached _ foreign known
  have wire : Command.wire (WriterSettings.standard.keyFor serving.keys)
      (scheduled.accepted ++ (stream.finish.log.drop scheduled.log.length).map Handover.command)
        = [1, 2, 97, 98, 0, 1, 99, 128, 1, 100] := by decide +kernel
  rw [wire] at flushed
  have unused : scheduled.log = [] := rfl
  rw [unused, List.length_nil, List.drop_zero] at whole
  refine ⟨reached, numbered, attached, known, whole, ?_⟩
  unfold traffic stream
  exact flushed

end MessageStream
end Egress
