import Egress.Proofs.Completion
import Egress.Proofs.Filling

/-!
What a carrier takes of a streamed message. As long as every refusal is recorded as a failure, the frames taken hold the
beginning of what was written: after a failure a frame may be missing, but then nothing more is written, and the last
frame is empty. A carrier can hide a refusal only by having the ticket of the refused frame succeed before.
-/
namespace Egress

open Ledger (Deed Evolves)

namespace Ledger

variable {ledger : Ledger} {message : MessageId} {ticket : Ticket}

/-- The ticket is that of a fragment, and if it has failed, its message has. -/
structure Fragment (message : MessageId) (ticket : Ticket) (ledger : Ledger) : Prop where
  begun : message < ledger.failures.size
  slot : ∃ outcome, ledger.slots[ticket]? = some ⟨.fragment message, outcome⟩
  failed : ∀ error, ledger.outcome? ticket = some (.error error) → ledger.failure message ≠ none

theorem Fragment.later {after : Ledger} (fragment : ledger.Fragment message ticket) (more : ledger.Extends after)
    (failed : ∀ error, after.outcome? ticket = some (.error error) → ledger.outcome? ticket = some (.error error) ∨
      after.failure message ≠ none) : after.Fragment message ticket := by
  obtain ⟨outcome, slot⟩ := fragment.slot
  obtain ⟨later, kept, _⟩ := more.slots _ _ _ slot
  refine ⟨Nat.lt_of_lt_of_le fragment.begun more.messages, ⟨later, kept⟩, ?_⟩
  intro error known
  rcases failed error known with old | recorded
  · exact more.failed (fragment.failed error old)
  · exact recorded

theorem Fragment.settle {other : Ticket} {recipient : Recipient} {outcome : Outcome}
    (fragment : ledger.Fragment message ticket) (pending : ledger.pending? other = some recipient) :
    (ledger.settle other recipient outcome).Fragment message ticket := by
  refine fragment.later (extends_settle pending) ?_
  intro error known
  rcases outcome?_settle_cases pending known with ⟨rfl, rfl⟩ | old
  · -- the recipient of the ticket records the failure
    obtain ⟨_, slot⟩ := fragment.slot
    cases slot.symm.trans (pending?_eq_some.mp pending)
    let marked : Ledger := { ledger with slots := ledger.slots.setIfInBounds other ⟨.fragment message, some (.error error)⟩ }
    have begun : message < marked.failures.size := fragment.begun
    obtain ⟨first, recorded⟩ := failure_recordFailure_self begun error
    exact .inr (Option.ne_none_iff_exists'.mpr ⟨first, recorded⟩)
  · exact .inl old

theorem Fragment.complete (fragment : ledger.Fragment message ticket) (other : Ticket) (outcome : Outcome) :
    (ledger.complete other outcome).Fragment message ticket :=
  completeWithin_keeps (Fragment message ticket) (fun _ _ _ => True)
    (fun _ _ _ _ fragment _ pending => ⟨fragment.settle pending, fun _ _ _ => trivial⟩) _ fragment trivial

theorem Fragment.after (fragment : ledger.Fragment message ticket) (deed : Deed) :
    (ledger.after deed).Fragment message ticket := by
  cases deed with
  | issue recipient => exact fragment.later (extends_issue _ _) fun _ known => .inl (outcome?_of_issue known)
  | beginMessage => exact fragment.later (ledger.extends_after .beginMessage) fun _ known => .inl known
  | recordFailure other error =>
    refine fragment.later (ledger.extends_after (.recordFailure other error)) fun _ known => .inl ?_
    unfold outcome? at known ⊢
    rwa [show (ledger.after (.recordFailure other error)).slots = ledger.slots from slots_recordFailure other error] at known
  | complete other outcome => exact fragment.complete other outcome

theorem Fragment.evolves {May : Deed → Prop} {after : Ledger} (fragment : ledger.Fragment message ticket)
    (evolves : Evolves May ledger after) : after.Fragment message ticket :=
  evolves.keeps (Fragment message ticket) (fun _ deed fragment _ _ => fragment.after deed) fragment

/-- The ticket of a new fragment. -/
theorem fragment_issue (begun : message < ledger.failures.size) :
    (ledger.issue (.fragment message)).2.Fragment message ledger.slots.size := by
  have slot : (ledger.issue (.fragment message)).2.slots[ledger.slots.size]? = some ⟨.fragment message, none⟩ := by
    rw [slots_issue, if_pos rfl]
  refine ⟨begun, ⟨none, slot⟩, ?_⟩
  intro error known
  rw [outcome?, slot] at known
  cases known

/-- A fragment that is failed has failed its message, unless it had succeeded before. -/
theorem Fragment.fail (fragment : ledger.Fragment message ticket) (error : SendError) :
    (ledger.fail ticket error).outcome? ticket = some (.ok ()) ∨ (ledger.fail ticket error).failure message ≠ none := by
  obtain ⟨_, slot⟩ := fragment.slot
  have issued := (Array.getElem?_eq_some_iff.mp slot).1
  obtain ⟨outcome, known⟩ := Option.isSome_iff_exists.mp (outcome?_isSome_complete issued (.error error))
  rcases outcome with first | ⟨⟩
  · exact .inr ((fragment.complete ticket (.error error)).failed first known)
  · exact .inl known

/-- A frame was refused whose ticket has succeeded all the same. -/
def Misled (message : List Handover) (ledger : Ledger) : Prop :=
  ∃ handover ∈ message, handover.taken = false ∧ ledger.outcome? handover.ticket = some (.ok ())

instance (message : List Handover) (ledger : Ledger) : Decidable (ledger.Misled message) :=
  inferInstanceAs (Decidable (∃ handover ∈ message, handover.taken = false ∧ ledger.outcome? handover.ticket = some (.ok ())))

theorem Misled.later {message : List Handover} {after : Ledger} (misled : ledger.Misled message)
    (more : ledger.Extends after) : after.Misled message := by
  obtain ⟨handover, member, refused, succeeded⟩ := misled
  exact ⟨handover, member, refused, more.outcome? succeeded⟩

theorem Misled.mono {message more : List Handover} (misled : ledger.Misled message) (within : message ⊆ more) :
    ledger.Misled more := by
  obtain ⟨handover, member, rest⟩ := misled
  exact ⟨handover, within member, rest⟩

end Ledger

/-- What the frames hold that were taken. -/
def takenBytes (message : List Handover) : Bytes := (message.filter Handover.taken).flatMap (·.frame.payload)

theorem takenBytes_concat (message : List Handover) (next : Handover) :
    takenBytes (message ++ [next]) = takenBytes message ++ if next.taken then next.frame.payload else [] := by
  cases taken : next.taken <;> simp [takenBytes, taken]

/-- A final frame was taken. -/
def EndTaken (message : List Handover) : Prop :=
  ∃ handover ∈ message, handover.frame.final = true ∧ handover.taken = true

instance (message : List Handover) : Decidable (EndTaken message) :=
  inferInstanceAs (Decidable (∃ handover ∈ message, handover.frame.final = true ∧ handover.taken = true))

/-- What was taken of a message is the beginning of the data; and all of it, if the last frame was taken and nothing had
failed before. -/
structure Arrived (data : Bytes) (unfailed : Prop) (message : List Handover) : Prop where
  start : takenBytes message <+: data
  whole : unfailed → EndTaken message → takenBytes message = data

namespace Sender

variable {types : ValueTypes} {σ : Type}

/-- Since the log was as given, the frames of a message have been handed over, and unless the carrier has hidden a
refusal, its data has arrived. -/
def Transmits (log : List Handover) (data : Bytes) (unfailed : Prop) (sender : Sender types (Logged σ)) : Prop :=
  ∃ message, sender.log = log ++ message ∧ (¬ sender.ledger.Misled message → Arrived data unfailed message)

theorem Transmits.later {sender after : Sender types (Logged σ)} {log : List Handover} {data : Bytes} {unfailed fewer : Prop}
    (transmits : sender.Transmits log data unfailed) (same : after.log = sender.log)
    (more : sender.ledger.Extends after.ledger) (weaker : fewer → unfailed) : after.Transmits log data fewer := by
  obtain ⟨message, sent, arrived⟩ := transmits
  refine ⟨message, same.trans sent, fun honest => ?_⟩
  obtain ⟨start, whole⟩ := arrived fun misled => honest (misled.later more)
  exact ⟨start, fun unfailed => whole (weaker unfailed)⟩

variable [Carrier σ]

/-- A frame was handed over. If it was refused, its ticket was failed in the end. -/
structure Hands (next : Handover) (before after : Sender types (Logged σ)) : Prop where
  log : after.log = before.log ++ [next]
  refused : next.taken = false → ∃ (later : Ledger) (error : SendError),
    Evolves (fun _ => True) before.ledger later ∧ after.ledger = later.fail next.ticket error

variable [LawfulCarrier σ]

theorem hands_offer (sender : Sender types (Logged σ)) (frame : Frame) (ticket : Ticket) (mode : BatchMode) :
    ∃ next : Handover, next.frame = frame ∧ next.ticket = ticket ∧ sender.Hands next (sender.offer frame ticket mode).2 := by
  have went : sender.Goes (fun _ => True) (sender.submit frame ticket mode).2 :=
    goes_submit sender.allows_all frame mode fun _ => trivial
  refine ⟨⟨frame, ticket, mode, (sender.submit frame ticket mode).1⟩, rfl, rfl, ?_⟩
  have logged := log_submit sender frame ticket mode
  revert went logged
  unfold offer
  rcases sender.submit frame ticket mode with ⟨error | ⟨⟩, after⟩
  · exact fun went logged => ⟨logged, fun _ => ⟨after.ledger, error, went.ledger, rfl⟩⟩
  · exact fun _ logged => ⟨logged, nofun⟩

/-- A data frame is rejected, or it is handed over as it is. -/
theorem hands_dispatch (sender : Sender types (Logged σ)) {frame : Frame} (data : frame.isData = true) (ticket : Ticket)
    (mode : BatchMode) :
    (∃ error, (sender.dispatch frame ticket mode).2 = sender.fail ticket error) ∨
      ∃ next : Handover, next.frame = frame ∧ next.ticket = ticket ∧ sender.Hands next (sender.dispatch frame ticket mode).2 := by
  unfold dispatch
  rw [if_pos data]
  split
  case h_1 error _ => exact .inl ⟨_, rfl⟩
  case h_2 openMessage _ =>
    obtain ⟨next, same, own, handed⟩ := hands_offer { sender with openMessage } frame ticket mode
    refine .inr ⟨next, same, own, ?_⟩
    show sender.Hands next (afterData _ frame)
    unfold afterData
    split <;> exact ⟨handed.log, handed.refused⟩

end Sender

namespace MessageStream

variable {types : ValueTypes} {σ : Type} [Carrier σ] [LawfulCarrier σ] {log : List Handover} {data : Bytes}
  {stream : MessageStream types (Logged σ)} {message : List Handover}

/-- The next frame of a stream is rejected, or it is handed over with a ticket of its own. -/
theorem hands_handOver (stream : MessageStream types (Logged σ)) (final : Bool) :
    let own := stream.sender.ledger.slots.size
    let issued := (stream.sender.issue (stream.recipient final)).2
    ((stream.handOver final).sender.log = stream.sender.log ∧
      ∃ error, (stream.handOver final).sender.ledger = issued.ledger.fail own error) ∨
    ∃ next : Handover, next.frame = stream.nextFrame final ∧ next.ticket = own ∧ issued.Hands next (stream.handOver final).sender := by
  intro own issued
  have data : (stream.nextFrame final).isData = true := stream.isData_opcode
  obtain ⟨carrier, ledger⟩ := stream.handOver_frames final
  have log : (stream.handOver final).sender.log = (stream.sendNext final).2.log := congrArg Logged.log carrier
  rw [log, ledger]
  rcases issued.hands_dispatch data own stream.sender.batchMode with ⟨error, rejected⟩ | ⟨next, same, ticket, handed⟩
  · have sent : (stream.sendNext final).2 = issued.fail own error := rejected
    rw [sent]
    exact .inl ⟨rfl, error, rfl⟩
  · exact .inr ⟨next, same, ticket, log.trans handed.log, fun refused => ledger.symm ▸ handed.refused refused⟩

theorem extends_handOver (stream : MessageStream types (Logged σ)) (final : Bool) :
    stream.sender.ledger.Extends (stream.handOver final).sender.ledger := by
  let issued := (stream.sender.issue (stream.recipient final)).2
  have sent : issued.Goes (fun _ => True) (stream.sendNext final).2 :=
    Sender.goes_dispatch issued.allows_all (stream.nextFrame final) stream.sender.batchMode fun _ => trivial
  rw [(stream.handOver_frames final).2]
  exact (Ledger.extends_issue _ _).trans sent.ledger.extended

/-- What was taken, and what is in the buffer, is the beginning of the data, and all of it unless the message has
failed; or the carrier has hidden a refusal. -/
structure Relayed (log : List Handover) (data : Bytes) (message : List Handover)
    (stream : MessageStream types (Logged σ)) : Prop where
  sent : stream.sender.log = log ++ message
  unended : ∀ handover ∈ message, handover.frame.final = false
  content : stream.sender.ledger.Misled message ∨
    takenBytes message ++ stream.buffer.toBytes <+: data ∧
      (stream.failure = none → takenBytes message ++ stream.buffer.toBytes = data)

omit [Carrier σ] [LawfulCarrier σ] in
theorem failure_none_of_extends {after : MessageStream types (Logged σ)}
    (more : stream.sender.ledger.Extends after.sender.ledger) (same : after.message = stream.message)
    (unfailed : after.failure = none) : stream.failure = none := by
  refine Decidable.byContradiction fun failed => ?_
  have still := more.failed failed
  rw [← same] at still
  exact still unfailed

omit [Carrier σ] [LawfulCarrier σ] in
/-- Nothing is lost while no frame is handed over. -/
theorem Relayed.later {after : MessageStream types (Logged σ)} (relayed : stream.Relayed log data message)
    (more : stream.sender.ledger.Extends after.sender.ledger) (same : after.message = stream.message)
    (logged : after.sender.log = stream.sender.log) (buffer : after.buffer = stream.buffer) :
    after.Relayed log data message where
  sent := logged.trans relayed.sent
  unended := relayed.unended
  content := by
    rw [buffer]
    rcases relayed.content with misled | ⟨start, whole⟩
    · exact .inl (misled.later more)
    · exact .inr ⟨start, fun unfailed => whole (failure_none_of_extends more same unfailed)⟩

/-- A fragment is taken, or else its message has failed, unless the carrier hides that it has refused the fragment. -/
theorem handOver_fragment (begun : stream.message < stream.sender.ledger.failures.size) :
    ((stream.handOver false).sender.log = stream.sender.log ∧ (stream.handOver false).failure ≠ none) ∨
    ∃ next : Handover, next.frame = stream.nextFrame false ∧
      (stream.handOver false).sender.log = stream.sender.log ++ [next] ∧
      (next.taken = false → (stream.handOver false).sender.ledger.Misled [next] ∨ (stream.handOver false).failure ≠ none) := by
  let own := stream.sender.ledger.slots.size
  let issued : Ledger := (stream.sender.ledger.issue (.fragment stream.message)).2
  have same : (stream.handOver false).message = stream.message :=
    (goes_handOver stream.sender.allows_all false nofun trivial).message
  unfold failure
  rw [same]
  rcases stream.hands_handOver false with ⟨log, error, ledger⟩ | ⟨next, frame, ticket, handed⟩
  · have pending : issued.pending? own = some (.fragment stream.message) :=
      stream.sender.ledger.pending?_issue_self _
    obtain ⟨first, recorded⟩ := Ledger.failure_complete_fragment pending begun error
    rw [ledger]
    exact .inl ⟨log, Option.ne_none_iff_exists'.mpr ⟨first, recorded⟩⟩
  · refine .inr ⟨next, frame, handed.log, fun refused => ?_⟩
    obtain ⟨later, error, evolves, ledger⟩ := handed.refused refused
    have fragment : later.Fragment stream.message next.ticket :=
      ticket ▸ (Ledger.fragment_issue begun).evolves evolves
    rw [ledger]
    rcases fragment.fail error with succeeded | failed
    · exact .inl ⟨next, List.mem_singleton_self next, refused, succeeded⟩
    · exact .inr failed

/-- A frame before the last. If it is lost, the message has failed. -/
theorem Relayed.handOver (relayed : stream.Relayed log data message)
    (begun : stream.message < stream.sender.ledger.failures.size) :
    ∃ message, (stream.handOver false).Relayed log data message := by
  have more := stream.extends_handOver false
  have same : (stream.handOver false).message = stream.message :=
    (goes_handOver stream.sender.allows_all false nofun trivial).message
  have emptied : (stream.handOver false).buffer.toBytes = [] := by
    rw [(stream.handOver_keeps false).2.2, Buffer.toBytes_drained]
  -- nothing is missing from a message that has not failed
  have short (failed : (stream.handOver false).failure ≠ none) (part : takenBytes message ++ stream.buffer.toBytes <+: data) :
      takenBytes message <+: data ∧ ((stream.handOver false).failure = none → takenBytes message = data) :=
    ⟨(List.prefix_append _ _).trans part, fun unfailed => absurd unfailed failed⟩
  rcases handOver_fragment begun with ⟨log, failed⟩ | ⟨next, frame, log, lost⟩
  · refine ⟨message, log.trans relayed.sent, relayed.unended, ?_⟩
    rw [emptied, List.append_nil]
    rcases relayed.content with misled | ⟨start, _⟩
    · exact .inl (misled.later more)
    · exact .inr (short failed start)
  · refine ⟨message ++ [next], ?_, ?_, ?_⟩
    · rw [log, relayed.sent, List.append_assoc]
    · intro handover member
      rcases List.mem_append.mp member with old | new
      · exact relayed.unended handover old
      · cases List.mem_singleton.mp new
        rw [frame]
        rfl
    · rw [emptied, List.append_nil, takenBytes_concat, frame]
      rcases relayed.content with misled | ⟨start, whole⟩
      · exact .inl ((misled.later more).mono (List.subset_append_left _ _))
      · cases taken : next.taken with
        | true => exact .inr ⟨start, fun unfailed => whole (failure_none_of_extends more same unfailed)⟩
        | false =>
          rw [if_neg nofun, List.append_nil]
          rcases lost taken with misled | failed
          · exact .inl (misled.mono (List.subset_append_right _ _))
          · exact .inr (short failed start)

/-! ## Events before the end -/

/-- A stream that is not closed. -/
structure Writing (log : List Handover) (data : Bytes) (stream : MessageStream types (Logged σ)) : Prop where
  begun : stream.message < stream.sender.ledger.failures.size
  unclosed : stream.closed = false
  relayed : ∃ message, stream.Relayed log data message

omit [Carrier σ] [LawfulCarrier σ] in
theorem Writing.later {after : MessageStream types (Logged σ)} (writing : stream.Writing log data)
    (more : stream.sender.ledger.Extends after.sender.ledger) (same : after.message = stream.message)
    (logged : after.sender.log = stream.sender.log) (buffer : after.buffer = stream.buffer)
    (closed : after.closed = stream.closed) : after.Writing log data where
  begun := same ▸ Nat.lt_of_lt_of_le writing.begun more.messages
  unclosed := closed.trans writing.unclosed
  relayed := by
    obtain ⟨message, relayed⟩ := writing.relayed
    exact ⟨message, relayed.later more same logged buffer⟩

theorem Writing.elsewhere (writing : stream.Writing log data) (event : Elsewhere) :
    (stream.after (.elsewhere event)).Writing log data := by
  cases event with
  | work =>
    have goes : stream.sender.Goes (fun _ => True) stream.sender.letWork := Sender.goes_letWork stream.sender.allows_all
    exact writing.later goes.ledger.extended rfl rfl rfl rfl
  | issue recipient => exact writing.later (Ledger.extends_issue _ recipient) rfl rfl rfl rfl
  | complete ticket outcome => exact writing.later (Ledger.extends_complete _ ticket outcome) rfl rfl rfl rfl
  | share pool turn => exact writing.later (.refl _) rfl rfl rfl rfl

/-- What is taken stays the beginning of the data. A message that has failed takes no more. -/
theorem endures_writing :
    Endures (· ≠ .close) fun data (stream : MessageStream types (Logged σ)) => stream.Writing log data where
  joins := by
    intro data stream bytes writing unfailed
    obtain ⟨message, relayed⟩ := writing.relayed
    refine ⟨writing.begun, writing.unclosed, message, relayed.sent, relayed.unended, ?_⟩
    rw [Buffer.toBytes_write, ← List.append_assoc]
    rcases relayed.content with misled | ⟨_, whole⟩
    · exact .inl misled
    · rw [whole unfailed]
      exact .inr ⟨List.prefix_refl _, fun _ => rfl⟩
  sends := by
    intro data stream writing
    obtain ⟨message, relayed⟩ := writing.relayed
    have goes : stream.Goes (fun _ => True) (stream.handOver false) :=
      goes_handOver stream.sender.allows_all false nofun trivial
    refine ⟨?_, (stream.closed_handOver false).trans writing.unclosed, relayed.handOver writing.begun⟩
    rw [goes.message]
    exact Nat.lt_of_lt_of_le writing.begun goes.sender.ledger.extended.messages
  stops := by
    intro data stream more writing failed
    obtain ⟨message, relayed⟩ := writing.relayed
    refine ⟨writing.begun, writing.unclosed, message, relayed.sent, relayed.unended, ?_⟩
    rcases relayed.content with misled | ⟨start, _⟩
    · exact .inl misled
    · exact .inr ⟨start.trans (List.prefix_append _ _), fun unfailed => absurd unfailed failed⟩
  unclosing closing := closing rfl
  unclosed := Writing.unclosed
  fails error writing := writing.later (Ledger.extends_after _ (.recordFailure _ error)) rfl rfl rfl rfl
  attaches _ writing := writing.later (.refl _) rfl rfl rfl rfl
  elsewhere _ writing := writing.elsewhere _

omit [Carrier σ] [LawfulCarrier σ] in
/-- A message that is begun. -/
theorem writing_start (sender : Sender types (Logged σ)) (kind : MessageKind) (bufferSize : Nat) :
    (start sender kind bufferSize).Writing sender.log [] := by
  rw [start_eq]
  refine ⟨?_, rfl, [], (List.append_nil _).symm, by simp, .inr ?_⟩
  · show sender.ledger.failures.size < (sender.ledger.failures.push none).size
    simp
  · rw [BufferPool.toBytes_acquire]
    exact ⟨List.prefix_refl _, fun _ => rfl⟩

/-! ## The end -/

omit [Carrier σ] [LawfulCarrier σ] in
/-- Without its last frame a message has not ended. -/
theorem Relayed.transmits (relayed : stream.Relayed log data message) {after : Sender types (Logged σ)}
    (same : after.log = stream.sender.log) (more : stream.sender.ledger.Extends after.ledger) (unfailed : Prop) :
    after.Transmits log data unfailed := by
  refine ⟨message, same.trans relayed.sent, fun honest => ?_⟩
  obtain ⟨start, _⟩ := relayed.content.resolve_left fun misled => honest (misled.later more)
  refine ⟨(List.prefix_append _ _).trans start, ?_⟩
  rintro _ ⟨handover, member, final, _⟩
  exact absurd (relayed.unended handover member) (by simp [final])

/-- The last frame holds what is left. -/
theorem Relayed.handOver_true (relayed : stream.Relayed log data message) :
    (stream.handOver true).sender.Transmits log data (stream.failure = none) := by
  have more := stream.extends_handOver true
  rcases stream.hands_handOver true with ⟨same, _⟩ | ⟨last, frame, _, handed⟩
  · exact relayed.transmits same more _
  · refine ⟨message ++ [last], ?_, fun honest => ?_⟩
    · rw [handed.log, Sender.log_issue, relayed.sent, List.append_assoc]
    · obtain ⟨start, whole⟩ := relayed.content.resolve_left fun misled => honest ((misled.later more).mono (List.subset_append_left _ _))
      have payload : last.frame.payload = stream.buffer.toBytes := by rw [frame]; rfl
      refine ⟨?_, ?_⟩
      · rw [takenBytes_concat, payload]
        split
        · exact start
        · rw [List.append_nil]
          exact (List.prefix_append _ _).trans start
      · rintro unfailed ⟨handover, member, final, taken⟩
        rcases List.mem_append.mp member with old | new
        · exact absurd (relayed.unended handover old) (by simp [final])
        · cases List.mem_singleton.mp new
          rw [takenBytes_concat, payload, if_pos taken]
          exact whole unfailed

omit [Carrier σ] [LawfulCarrier σ] in
/-- A message that has failed goes on without what is left in the buffer. -/
theorem Relayed.clear (relayed : stream.Relayed log data message) (failed : stream.failure ≠ none) :
    ({ stream with buffer := stream.buffer.clear } : MessageStream types (Logged σ)).Relayed log data message := by
  refine ⟨relayed.sent, relayed.unended, ?_⟩
  rcases relayed.content with misled | ⟨start, _⟩
  · exact .inl misled
  · refine .inr ⟨?_, fun unfailed => absurd unfailed failed⟩
    show takenBytes message ++ [] <+: data
    rw [List.append_nil]
    exact (List.prefix_append _ _).trans start

theorem Relayed.sendLast (relayed : stream.Relayed log data message) :
    stream.sendLast.sender.Transmits log data (stream.failure = none) := by
  have without (error : SendError) : (stream.sender.fail stream.ticket error).Transmits log data (stream.failure = none) :=
    relayed.transmits (Sender.log_fail _ _ _) (Ledger.extends_complete _ _ _) _
  unfold MessageStream.sendLast
  split
  case h_1 =>
    split
    · exact without _
    · rw [emit_snd]
      exact relayed.handOver_true
  case h_2 error failed =>
    split
    · rw [emit_snd]
      exact (relayed.clear (by simp [failed])).handOver_true
    · exact without _

theorem Writing.finish (writing : stream.Writing log data) :
    stream.finish.Transmits log data (stream.failure = none) := by
  obtain ⟨message, relayed⟩ := writing.relayed
  have closing : ({ stream with closed := true } : MessageStream types (Logged σ)).Relayed log data message :=
    { relayed with }
  unfold MessageStream.finish MessageStream.close
  rw [if_neg (by simp [writing.unclosed])]
  exact closing.sendLast

end MessageStream
end Egress
