import Egress.Proofs.AnsweredOnce
import Egress.Proofs.Filling
import Egress.Proofs.OrderlyCarrier
import Egress.Proofs.StreamedMessage

/-!
The first failure. Over a carrier that completes in order what it takes, the ticket of a streamed object is given the first
failure of its message, with one exception: when the encoder fails after the message has failed, and the last frame has
been taken but is not completed yet, then the encoder's own error comes first.
-/
namespace Egress

open Ledger (Deed Evolves InTurn)

namespace Ledger

variable {ledger : Ledger} {ticket own : Ticket} {message : MessageId} {line rest : List Ticket}

/-! ## A message in line -/

/-- While a message is streamed its ticket waits and nothing leads to it, and the fragments that wait stand in line. -/
structure InLine (line : List Ticket) (message : MessageId) (ticket : Ticket) (ledger : Ledger) : Prop where
  sound : ledger.Sound
  alone : ledger.Alone ticket
  pending : ∃ recipient, ledger.pending? ticket = some recipient
  begun : message < ledger.failures.size
  waiting : ∀ own ∈ line, own < ledger.slots.size ∧ own ≠ ticket
  fragments : ∀ own, ledger.pending? own = some (.fragment message) → own ∈ line
  young : ledger.Young message ticket
  unended : ∀ (own : Ticket) (slot : Slot) (target : Ticket), ledger.slots[own]? = some slot →
    slot.recipient ≠ .last message target

theorem InLine.issued (inLine : ledger.InLine line message ticket) : ticket < ledger.slots.size := by
  obtain ⟨recipient, pending⟩ := inLine.pending
  exact (Array.getElem?_eq_some_iff.mp (pending?_eq_some.mp pending)).1

/-- What is completed leaves the line. -/
theorem InLine.complete (inLine : ledger.InLine line message ticket) (mine : own ∈ line)
    (left : ∀ other ∈ line, other = own ∨ other ∈ rest) (within : ∀ other ∈ rest, other ∈ line) (outcome : Outcome) :
    (ledger.complete own outcome).InLine rest message ticket := by
  have larger := ledger.extends_complete own outcome
  obtain ⟨alone, slot⟩ :=
    slot_spared (.one (.complete own outcome) trivial (inLine.waiting own mine).2) inLine.alone inLine.issued
  obtain ⟨recipient, pending⟩ := inLine.pending
  refine ⟨inLine.sound.complete own outcome, alone, ⟨recipient, ?_⟩, Nat.lt_of_lt_of_le inLine.begun larger.messages,
    ?_, ?_, ?_, ?_⟩
  · exact pending?_eq_some.mpr (Eq.trans slot (pending?_eq_some.mp pending))
  · intro other member
    obtain ⟨inside, apart⟩ := inLine.waiting other (within other member)
    exact ⟨Nat.lt_of_lt_of_le inside larger.size_le, apart⟩
  · intro other waits
    obtain ⟨before, apart⟩ := pending?_of_complete waits
    exact (left other (inLine.fragments other before)).resolve_left apart
  · intro other slot after fragment
    obtain ⟨before, there, equal⟩ := slot_of_complete after
    exact inLine.young other before there (equal ▸ fragment)
  · intro other slot target after
    obtain ⟨before, there, equal⟩ := slot_of_complete after
    rw [equal]
    exact inLine.unended other before target there

theorem InLine.completeEach {completions : List (Ticket × Outcome)}
    (inLine : ledger.InLine (completions.map Prod.fst ++ rest) message ticket) :
    (ledger.completeEach completions).InLine rest message ticket := by
  induction completions generalizing ledger with
  | nil => exact inLine
  | cons completion completions ih =>
    refine ih (inLine.complete List.mem_cons_self ?_ ?_ completion.2)
    · exact fun other member => List.mem_cons.mp member
    · exact fun other member => List.mem_cons_of_mem _ member

theorem InLine.issue (inLine : ledger.InLine line message ticket) {recipient : Recipient}
    (nowhere : recipient.next? = none) :
    (ledger.issue recipient).2.InLine (line ++ [ledger.slots.size]) message ticket := by
  have issued := inLine.issued
  obtain ⟨waits, pending⟩ := inLine.pending
  have size : (ledger.issue recipient).2.slots.size = ledger.slots.size + 1 := Array.size_push _
  refine ⟨inLine.sound.issue (by simp [nowhere]), inLine.alone.issue (by simp [nowhere]),
    ⟨waits, pending?_issue pending recipient⟩, inLine.begun, ?_, ?_, ?_, ?_⟩
  · intro other member
    rw [size]
    rcases List.mem_append.mp member with old | new
    · obtain ⟨inside, apart⟩ := inLine.waiting other old
      exact ⟨Nat.lt_succ_of_lt inside, apart⟩
    · cases List.mem_singleton.mp new
      exact ⟨Nat.lt_succ_self _, Nat.ne_of_gt issued⟩
  · intro other after
    rcases pending?_of_issue after with ⟨new, _⟩ | old
    · exact List.mem_append_right _ (List.mem_singleton.mpr new)
    · exact List.mem_append_left _ (inLine.fragments other old)
  · intro other slot there fragment
    rcases slot_of_issue there with ⟨rfl, _⟩ | old
    · exact issued
    · exact inLine.young other slot old fragment
  · intro other slot target there
    rcases slot_of_issue there with ⟨_, rfl⟩ | old
    · rintro rfl
      cases nowhere
    · exact inLine.unended other slot target old

theorem InLine.of_slots {after : Ledger} (inLine : ledger.InLine line message ticket) (slots : after.slots = ledger.slots)
    (reports : after.reports = ledger.reports) (messages : ledger.failures.size ≤ after.failures.size) :
    after.InLine line message ticket := by
  have pending : after.pending? = ledger.pending? := by
    funext own
    unfold pending?
    rw [slots]
  refine ⟨inLine.sound.of_slots slots reports, ?_, pending ▸ inLine.pending, Nat.lt_of_lt_of_le inLine.begun messages,
    slots ▸ inLine.waiting, pending ▸ inLine.fragments, ?_, slots ▸ inLine.unended⟩
  · unfold Alone
    exact slots ▸ inLine.alone
  · unfold Young
    exact slots ▸ inLine.young

/-- A ticket that was issued last, and not completed, still waits. -/
theorem pending?_completeEach {completions : List (Ticket × Outcome)} (recipient : Recipient) (told : ledger.Told)
    (older : ∀ target, recipient.next? = some target → target < ledger.slots.size)
    (apart : ∀ completion ∈ completions, completion.1 < ledger.slots.size) :
    ((ledger.issue recipient).2.completeEach completions).pending? ledger.slots.size = some recipient := by
  have alone : (ledger.issue recipient).2.Alone ledger.slots.size :=
    (told.alone_of_new (Nat.le_refl _)).issue fun leads => absurd (older _ leads) (Nat.lt_irrefl _)
  have closed : (ledger.issue recipient).2.Closed (· = ledger.slots.size) := by
    rintro other slot target issued leads rfl
    exact absurd leads (alone other slot issued)
  have kept := slots_closed closed (fun completion member => Nat.ne_of_lt (apart completion member)) rfl
  rw [pending?_eq_some, kept, ← pending?_eq_some]
  exact pending?_issue_self ledger recipient

/-- The ticket has been given the first failure of its message. -/
def Failed (message : MessageId) (ticket : Ticket) (ledger : Ledger) : Prop :=
  ∃ error, ledger.outcome? ticket = some (.error error) ∧
    (ledger.failure message = none ∨ ledger.failure message = some error)

namespace InLine

variable (inLine : ledger.InLine line message ticket)
include inLine

/-- The last frame of the message is the only ticket that leads to the message's own. -/
theorem last_of_next {slot : Slot} (there : (ledger.issue (.last message ticket)).2.slots[own]? = some slot)
    (leads : slot.recipient.next? = some ticket) : own = ledger.slots.size ∧ slot.recipient = .last message ticket := by
  rcases slot_of_issue there with ⟨new, rfl⟩ | old
  · exact ⟨new, rfl⟩
  · exact absurd leads (inLine.alone own slot old)

theorem alone_last : (ledger.issue (.last message ticket)).2.Alone ledger.slots.size := by
  refine (inLine.sound.toTold.alone_of_new (Nat.le_refl _)).issue fun leads => ?_
  exact absurd (Option.some.inj leads) (Nat.ne_of_lt inLine.issued)

theorem young_last : (ledger.issue (.last message ticket)).2.Young message ticket := by
  intro own slot there fragment
  rcases slot_of_issue there with ⟨_, rfl⟩ | old
  · cases fragment
  · exact inLine.young own slot old fragment

theorem due_issue : (ledger.issue (.last message ticket)).2.Due message ticket := by
  refine ⟨fun own slot there leads => (inLine.last_of_next there leads).2, fun outcome known => ?_⟩
  obtain ⟨waits, pending⟩ := inLine.pending
  obtain ⟨_, slot⟩ := outcome?_eq_some.mp known
  rw [pending?_eq_some.mp (pending?_issue pending (.last message ticket))] at slot
  cases slot

/-- A last frame that is taken is completed in its turn. -/
theorem due_taken {completions : List (Ticket × Outcome)}
    (passed : completions.map Prod.fst ++ rest = line ++ [ledger.slots.size]) :
    ((ledger.issue (.last message ticket)).2.completeEach completions).Due message ticket := by
  refine inLine.due_issue.later (inTurn_completeEach passed ?_ ?_ inLine.alone_last ?_ ?_ ?_)
  · intro own after
    rcases pending?_of_issue after with ⟨_, other⟩ | old
    · cases other
    · exact inLine.fragments own old
  · intro own target after
    rcases pending?_of_issue after with ⟨new, _⟩ | old
    · exact new
    · exact absurd rfl (inLine.unended own _ target (pending?_eq_some.mp old))
  · exact Nat.lt_of_lt_of_eq (Nat.lt_succ_self _) (Array.size_push _).symm
  · exact fun member => absurd (inLine.waiting _ member).1 (Nat.lt_irrefl _)
  · intro own member
    rcases List.mem_append.mp member with held | new
    · exact (inLine.waiting own held).2
    · cases List.mem_singleton.mp new
      exact Nat.ne_of_gt inLine.issued

/-- The last frame and the ticket of the message wait while others in the line are completed. -/
theorem pending_untaken {completions : List (Ticket × Outcome)} (passed : completions.map Prod.fst ++ rest = line) :
    let between := (ledger.issue (.last message ticket)).2.completeEach completions
    between.pending? ledger.slots.size = some (.last message ticket) ∧
      ∃ waits, between.pending? ticket = some waits := by
  intro between
  have closed : (ledger.issue (.last message ticket)).2.Closed fun own => own = ledger.slots.size ∨ own = ticket := by
    rintro own slot target there leads (rfl | rfl)
    · exact absurd leads (inLine.alone_last own slot there)
    · exact .inl (inLine.last_of_next there leads).1
  have apart : ∀ completion ∈ completions, ¬ (completion.1 = ledger.slots.size ∨ completion.1 = ticket) := by
    intro completion member
    obtain ⟨older, other⟩ := inLine.waiting completion.1 (passed ▸ List.mem_append_left _ (List.mem_map_of_mem member))
    exact not_or.mpr ⟨Nat.ne_of_lt older, other⟩
  obtain ⟨waits, pending⟩ := inLine.pending
  refine ⟨?_, waits, ?_⟩
  · rw [pending?_eq_some, slots_closed closed apart (.inl rfl), ← pending?_eq_some]
    exact pending?_issue_self ledger _
  · rw [pending?_eq_some, slots_closed closed apart (.inr rfl), ← pending?_eq_some]
    exact pending?_issue pending _

/-- A last frame that is not taken gives the message its first failure. -/
theorem failed_untaken {completions : List (Ticket × Outcome)} (passed : completions.map Prod.fst ++ rest = line)
    (refusal : SendError) :
    let after :=
      ((ledger.issue (.last message ticket)).2.completeEach completions).complete ledger.slots.size (.error refusal)
    after.Failed message ticket := by
  intro after
  let issued := (ledger.issue (.last message ticket)).2
  let between := issued.completeEach completions
  obtain ⟨last, waits, own⟩ := inLine.pending_untaken passed
  have sound : issued.Sound := by
    refine inLine.sound.issue fun target leads => ?_
    cases leads
    exact inLine.issued
  have told : between.Told :=
    ((Evolves.completeEach issued completions fun _ _ => trivial : Evolves (fun _ => True) _ _).sound sound).toTold
  have young : between.Young message ticket := inLine.young_last.completeEach completions
  obtain ⟨given, same⟩ := complete_last told young last own (.error refusal)
  change after.failure message = between.failure message at same
  cases failed : between.failure message with
  | none =>
    refine ⟨refusal, ?_, .inl (same.trans failed)⟩
    rw [verdict, failed] at given
    exact given
  | some first =>
    refine ⟨first, ?_, .inr (same.trans failed)⟩
    rw [verdict_eq failed] at given
    exact given

end InLine

/-- No ticket is a part of the message. -/
def Unheard (message : MessageId) (ledger : Ledger) : Prop :=
  ∀ (own : Ticket) (slot : Slot), ledger.slots[own]? = some slot → slot.recipient.message? ≠ some message

end Ledger

namespace MessageStream

variable {types : ValueTypes} {σ : Type} [Carrier σ] {stream : MessageStream types σ} {ticket : Ticket} {message : MessageId}

/-- A stream that sends the message of a ticket. -/
structure Underway (message : MessageId) (ticket : Ticket) (stream : MessageStream types σ) : Prop where
  same : stream.message = message
  own : stream.ticket = ticket
  unclosed : stream.closed = false
  inLine : stream.sender.ledger.InLine (Carrier.held stream.sender.carrier) message ticket
  failed : stream.rejected = true → stream.failure ≠ none

theorem rejected_handOver (stream : MessageStream types σ) (final : Bool) (taken : (stream.sendNext final).1 ≠ .rejected) :
    (stream.handOver final).rejected = stream.rejected := by
  unfold handOver
  revert taken
  rcases stream.sendNext final with ⟨delivery, sender⟩
  intro taken
  cases delivery with
  | accepted => rfl
  | rejected => exact absurd rfl taken
  | refused =>
    unfold afterDelivery
    dsimp only
    split <;> rfl

variable [OrderlyCarrier σ]

/-- The next frame of a stream joins the line, or its ticket fails. -/
theorem passes_handOver (stream : MessageStream types σ) (final : Bool) :
    let issued := (stream.sender.ledger.issue (stream.recipient final)).2
    ((stream.handOver final).rejected = stream.rejected ∧
      Carrier.Passes (Carrier.held stream.sender.carrier ++ [stream.sender.ledger.slots.size]) issued
        (stream.handOver final).sender.carrier (stream.handOver final).sender.ledger) ∨
    ∃ between error,
      Carrier.Passes (Carrier.held stream.sender.carrier) issued (stream.handOver final).sender.carrier between ∧
      (stream.handOver final).sender.ledger = between.fail stream.sender.ledger.slots.size error := by
  intro issued
  have data : (stream.nextFrame final).isData = true := stream.isData_opcode
  obtain ⟨carrier, ledger⟩ := stream.handOver_frames final
  have kept := stream.rejected_handOver final
  rw [carrier, ledger]
  rcases (stream.sender.issue (stream.recipient final)).2.passes_dispatch data
      (stream.sender.issue (stream.recipient final)).1
      stream.sender.batchMode with ⟨accepted, passes⟩ | ⟨_, between, error, passes, failed⟩
  · exact .inl ⟨kept fun rejected => absurd (accepted.symm.trans rejected) nofun, passes⟩
  · exact .inr ⟨between, error, passes, failed⟩

namespace Underway

omit [OrderlyCarrier σ] in
theorem filled (underway : stream.Underway message ticket) (buffer : Buffer) :
    ({ stream with buffer } : MessageStream types σ).Underway message ticket :=
  ⟨underway.same, underway.own, underway.unclosed, underway.inLine, underway.failed⟩

theorem handOver (underway : stream.Underway message ticket) : (stream.handOver false).Underway message ticket := by
  obtain ⟨same, own, closed⟩ := stream.handOver_own false
  let next : Ticket := stream.sender.ledger.slots.size
  let issued := (stream.sender.ledger.issue (.fragment stream.message)).2
  have inLine : issued.InLine (Carrier.held stream.sender.carrier ++ [next]) message ticket := underway.inLine.issue rfl
  refine ⟨same.trans underway.same, own.trans underway.own, closed.trans underway.unclosed, ?_, ?_⟩
  all_goals rcases stream.passes_handOver false with
    ⟨kept, completions, after, line⟩ | ⟨_, error, ⟨completions, rfl, line⟩, after⟩
  · change (stream.handOver false).sender.ledger = issued.completeEach completions at after
    rw [after]
    exact (line ▸ inLine).completeEach
  · change (stream.handOver false).sender.ledger = (issued.completeEach completions).complete next (.error error) at after
    rw [after]
    have between : (issued.completeEach completions).InLine (Carrier.held (stream.handOver false).sender.carrier ++ [next])
        message ticket := by
      rw [← line, List.append_assoc] at inLine
      exact inLine.completeEach
    refine between.complete (List.mem_append_right _ (List.mem_singleton.mpr rfl)) ?_ ?_ _
    · intro other member
      rcases List.mem_append.mp member with held | new
      · exact .inr held
      · exact .inl (List.mem_singleton.mp new)
    · exact fun other held => List.mem_append_left _ held
  · intro rejected
    have failed : issued.failure stream.message ≠ none := underway.failed (kept ▸ rejected)
    rw [failure, same, after]
    exact (issued.extends_completeEach completions).failed failed
  · intro _
    have older : ∀ completion ∈ completions, completion.1 < next := by
      intro completion member
      refine (underway.inLine.waiting completion.1 ?_).1
      rw [← line]
      exact List.mem_append_left _ (List.mem_map_of_mem member)
    have pending := Ledger.pending?_completeEach (.fragment stream.message) underway.inLine.sound.toTold nofun older
    have begun : stream.message < (issued.completeEach completions).failures.size := by
      rw [underway.same]
      exact Nat.lt_of_lt_of_le underway.inLine.begun (issued.extends_completeEach completions).messages
    obtain ⟨first, failed⟩ := Ledger.failure_complete_fragment pending begun error
    rw [failure, same, after]
    exact Option.ne_none_iff_exists'.mpr ⟨first, failed⟩

theorem letWork (underway : stream.Underway message ticket) : stream.letWork.Underway message ticket := by
  obtain ⟨completions, after, line⟩ := OrderlyCarrier.works stream.sender.carrier stream.sender.ledger
  refine ⟨underway.same, underway.own, underway.unclosed, ?_, fun rejected => ?_⟩
  · show (Carrier.work stream.sender.carrier stream.sender.ledger).2.InLine _ message ticket
    rw [after]
    exact (line ▸ underway.inLine).completeEach
  · show (Carrier.work stream.sender.carrier stream.sender.ledger).2.failure stream.message ≠ none
    rw [after]
    exact (stream.sender.ledger.extends_completeEach completions).failed (underway.failed rejected)

theorem write (underway : stream.Underway message ticket) (data : Bytes) : (stream.write data).2.Underway message ticket :=
  write_keeps (Underway message ticket) (fun _ underway => underway.filled _) (fun underway _ => underway.handOver)
    underway data

theorem flush (underway : stream.Underway message ticket) : stream.flush.2.Underway message ticket := by
  unfold MessageStream.flush
  split
  · exact underway
  · split
    · exact underway
    · rw [emit_snd]
      exact underway.handOver

theorem writeText (underway : stream.Underway message ticket) (text : String) :
    (stream.writeText text).2.Underway message ticket := by
  have written := underway.write (Bytes.ofText text)
  unfold MessageStream.writeText
  split
  · rename_i answer
    rwa [answer] at written
  · rename_i answer
    rwa [answer] at written

theorem act (underway : stream.Underway message ticket) (action : ByteAction) :
    (stream.act action).2.Underway message ticket := by
  cases action with
  | write bytes =>
    show (stream.writeBytes bytes).2.Underway message ticket
    unfold writeBytes
    split
    · exact underway
    · exact underway.write bytes
  | call bytes => exact underway.write bytes
  | flush => exact underway.flush

/-- An encoder does what it does to its stream. -/
theorem run {Action Refusal : Type} {answer : MessageStream types σ → Action → Except Refusal Unit × MessageStream types σ}
    (keeps : ∀ (stream : MessageStream types σ) action, stream.Underway message ticket →
      (answer stream action).2.Underway message ticket)
    (underway : stream.Underway message ticket) (emission : Emission Action Refusal) :
    (Sender.streamObject answer stream emission).2.Underway message ticket := by
  have run := emission.run_keeps (Underway message ticket)
    (fun (state : MessageStream types σ) action underway => keeps state.letWork action underway.letWork) underway
  exact run.letWork

omit [OrderlyCarrier σ] in
theorem fail (underway : stream.Underway message ticket) (error : SendError) :
    (stream.fail error).Underway message ticket := by
  refine ⟨underway.same, underway.own, underway.unclosed, ?_, ?_⟩
  · exact underway.inLine.of_slots (Ledger.slots_recordFailure _ _) (Ledger.reports_recordFailure _ _)
      (Nat.le_of_eq (Ledger.size_failures_recordFailure _ _).symm)
  · exact fun rejected =>
      (stream.sender.ledger.extends_after (.recordFailure stream.message error)).failed (underway.failed rejected)

end Underway

/-- With its last frame a message is given its first failure, in turn or at once. -/
theorem given_handOver
    (inLine : stream.sender.ledger.InLine (Carrier.held stream.sender.carrier) stream.message stream.ticket) :
    (stream.handOver true).sender.ledger.Due stream.message stream.ticket ∨
      (stream.handOver true).sender.ledger.Failed stream.message stream.ticket := by
  rcases stream.passes_handOver true with ⟨_, completions, after, line⟩ | ⟨_, error, ⟨completions, rfl, line⟩, after⟩
  · rw [after]
    exact .inl (inLine.due_taken line)
  · rw [after]
    exact .inr (inLine.failed_untaken line error)

theorem given_sendLast
    (inLine : stream.sender.ledger.InLine (Carrier.held stream.sender.carrier) stream.message stream.ticket)
    (failed : stream.rejected = true → stream.failure ≠ none) :
    stream.sendLast.sender.ledger.Due stream.message stream.ticket ∨
      stream.sendLast.sender.ledger.Failed stream.message stream.ticket := by
  unfold sendLast
  split
  case h_1 unfailed =>
    split
    case isTrue rejected => exact absurd unfailed (failed rejected)
    case isFalse =>
      rw [emit_snd]
      exact given_handOver inLine
  case h_2 error first =>
    split
    · rw [emit_snd]
      let cleared : MessageStream types σ := { stream with buffer := stream.buffer.clear }
      have same : cleared.sender.ledger.InLine (Carrier.held cleared.sender.carrier) cleared.message cleared.ticket := inLine
      exact given_handOver same
    · obtain ⟨waits, pending⟩ := inLine.pending
      refine .inr ⟨error, Ledger.outcome?_complete pending, .inr ?_⟩
      exact (Ledger.extends_complete _ _ _).failures stream.message error first

theorem Underway.close (underway : stream.Underway message ticket) :
    stream.close.sender.ledger.Due message ticket ∨ stream.close.sender.ledger.Failed message ticket := by
  let closing : MessageStream types σ := { stream with closed := true }
  have same : closing.sender.ledger.InLine (Carrier.held closing.sender.carrier) closing.message closing.ticket := by
    rw [show closing.message = message from underway.same, show closing.ticket = ticket from underway.own]
    exact underway.inLine
  have given := given_sendLast same underway.failed
  have ledger : stream.close.sender.ledger = closing.sendLast.sender.ledger := by
    unfold MessageStream.close
    rw [if_neg (by simp [underway.unclosed])]
    rfl
  rw [show closing.message = message from underway.same, show closing.ticket = ticket from underway.own] at given
  rwa [ledger]

end MessageStream

namespace Sender

variable {types : ValueTypes} {σ : Type} {ticket : Ticket} [Carrier σ]

theorem underway_stream {sender : Sender types σ} (fresh : sender.Fresh ticket) (sound : sender.ledger.Sound)
    (held : ∀ own ∈ Carrier.held sender.carrier, own < sender.ledger.slots.size)
    (unheard : sender.ledger.Unheard sender.ledger.failures.size) (kind : MessageKind) :
    (sender.stream kind ticket).Underway sender.ledger.failures.size ticket := by
  let begun : Ledger := sender.ledger.beginMessage.2
  have slots : ∀ own, (begun.issue .nobody).2.slots[own]? =
      if own = sender.ledger.slots.size then some ⟨.nobody, none⟩ else sender.ledger.slots[own]? := begun.slots_issue .nobody
  have size : (begun.issue .nobody).2.slots.size = sender.ledger.slots.size + 1 := Array.size_push _
  have quiet : (begun.issue .nobody).2.Unheard sender.ledger.failures.size := by
    intro own slot there
    rw [slots] at there
    split at there
    · cases there
      exact nofun
    · exact unheard own slot there
  refine ⟨rfl, rfl, rfl, ?_, nofun⟩
  show (begun.issue .nobody).2.InLine (Carrier.held sender.carrier) _ _
  have old : begun.Sound := sound.of_slots rfl rfl
  refine ⟨old.issue nofun, ?_, ?_, ?_, ?_, ?_, ?_, ?_⟩
  · have alone : begun.Alone ticket := fresh.alone
    exact alone.issue nofun
  · obtain ⟨recipient, slot⟩ := fresh.pending
    refine ⟨recipient, ?_⟩
    rw [Ledger.pending?_eq_some, slots, if_neg (Nat.ne_of_lt fresh.issued)]
    exact slot
  · exact Nat.lt_of_lt_of_eq (Nat.lt_succ_self _) (Array.size_push _).symm
  · intro own member
    exact ⟨size ▸ Nat.lt_succ_of_lt (held own member), fresh.allows.held own member (.ok ())⟩
  · intro own pending
    exact absurd rfl (quiet own _ (Ledger.pending?_eq_some.mp pending))
  · intro own slot there fragment
    exact absurd (congrArg Recipient.message? fragment) (quiet own slot there)
  · intro own slot target there last
    exact quiet own slot there (congrArg Recipient.message? last)

/-- The encoder's own error comes while the last frame is on its way, and the message had failed for another reason. -/
def Overtakes (sender : Sender types σ) (object : Option types.Object) (ticket : Ticket) : Prop :=
  ∃ error first, (sender.encodeObject object ticket).1 = .error error ∧
    (sender.encodeObject object ticket).2.ledger.outcome? ticket = none ∧
    (sender.encodeObject object ticket).2.ledger.failure sender.ledger.failures.size = some first ∧ first ≠ error

variable [OrderlyCarrier σ]

/-- What a streamed object comes to before its own error is told: its first failure is given to the ticket in turn, or has
been given, and an error of the encoder is a failure of the message. -/
structure Streamed (message : MessageId) (ticket : Ticket) (result : Outcome) (ledger : Ledger) : Prop where
  given : ledger.Due message ticket ∨ ledger.Failed message ticket
  failed : ∀ error, result = .error error → ∃ first, ledger.failure message = some first

theorem streamed_endObject {Action Refusal : Type}
    {answer : MessageStream types σ → Action → Except Refusal Unit × MessageStream types σ} {message : MessageId}
    (keeps : ∀ (stream : MessageStream types σ) action, stream.Underway message ticket →
      (answer stream action).2.Underway message ticket)
    {stream : MessageStream types σ} (underway : stream.Underway message ticket) (emission : Emission Action Refusal)
    (typeName : String) :
    Streamed message ticket (endObject typeName (streamObject answer stream emission)).1
      (endObject typeName (streamObject answer stream emission)).2.ledger := by
  have run := underway.run keeps emission
  revert run
  rcases streamObject answer stream emission with ⟨fault | ⟨⟩, after⟩
  · intro run
    have marked := run.fail (fault.toSendError typeName)
    refine ⟨marked.close, fun _ _ => ?_⟩
    have begun : after.message < after.sender.ledger.failures.size := run.same ▸ run.inLine.begun
    obtain ⟨first, failed⟩ := Ledger.failure_recordFailure_self begun (fault.toSendError typeName)
    have closes :
        (after.fail (fault.toSendError typeName)).Goes (fun _ => True) (after.fail (fault.toSendError typeName)).close :=
      MessageStream.goes_close ⟨fun _ _ _ => trivial, fun _ _ _ => trivial⟩ (marked.own ▸ marked.inLine.issued)
        trivial fun _ => trivial
    refine ⟨first, closes.sender.ledger.extended.failures message first ?_⟩
    rw [← run.same]
    exact failed
  · exact fun run => ⟨run.close, nofun⟩

/-- An object with a streaming encoder is streamed. -/
theorem streamed_encodeObject {sender : Sender types σ} (fresh : sender.Fresh ticket) (sound : sender.ledger.Sound)
    (held : ∀ own ∈ Carrier.held sender.carrier, own < sender.ledger.slots.size)
    (unheard : sender.ledger.Unheard sender.ledger.failures.size) {object : types.Object}
    (streams : sender.opensStream (.object (some object) ticket) = true) :
    Streamed sender.ledger.failures.size ticket (sender.encodeObject (some object) ticket).1
      (sender.encodeObject (some object) ticket).2.ledger := by
  revert streams
  unfold opensStream encodeObject
  dsimp only
  rcases sender.session.registry.lookup object with _ | ⟨kind, encode | encode | encode | encode⟩
  case some.textStream =>
    intro _
    exact streamed_endObject (fun _ text underway => underway.writeText text)
      (underway_stream fresh sound held unheard .text) (encode object) _
  case some.binaryStream =>
    intro _
    exact streamed_endObject (fun _ action underway => underway.act action)
      (underway_stream fresh sound held unheard .binary) (encode object) _
  all_goals exact nofun

end Sender

/-- At a moment after a message was sent: if its ticket has an outcome and the message has failed, then the outcome is
this failure. A last frame that failed at once, before any other failure, had been the first. -/
def Ledger.ReportsFirst (message : MessageId) (ticket : Ticket) (returned later : Ledger) : Prop :=
  ∀ outcome first, later.outcome? ticket = some outcome → later.failure message = some first →
    outcome = .error first ∨ returned.failure message = none ∧ ∃ error, returned.outcome? ticket = some (.error error)

namespace Ledger

variable {returned later : Ledger} {ticket : Ticket} {message : MessageId}

theorem Due.reportsFirst (due : returned.Due message ticket) (turn : InTurn message ticket returned later) :
    ReportsFirst message ticket returned later :=
  fun outcome first known failed => .inl (((due.later turn).answer outcome known).2 first failed)

theorem Failed.reportsFirst (failed : returned.Failed message ticket) (turn : InTurn message ticket returned later) :
    ReportsFirst message ticket returned later := by
  intro outcome first known recorded
  obtain ⟨error, given, unrecorded | same⟩ := failed
  · exact .inr ⟨unrecorded, error, given⟩
  · have more := turn.evolves.extended
    rw [more.outcome? given] at known
    rw [more.failures message error same] at recorded
    cases known
    cases recorded
    exact .inl rfl

/-- What is due or given is the first failure, at every later moment. -/
theorem reportsFirst_of_given (given : returned.Due message ticket ∨ returned.Failed message ticket)
    (turn : InTurn message ticket returned later) : ReportsFirst message ticket returned later :=
  given.elim (·.reportsFirst turn) (·.reportsFirst turn)

end Ledger

namespace Sender

variable {types : ValueTypes} {σ : Type} {ticket : Ticket} [Carrier σ] {sender after : Sender types σ}
  {object : Option types.Object}

/-- An encoder that ends well overtakes nothing. -/
theorem not_overtakes_of_ok (encoded : sender.encodeObject object ticket = (.ok (), after)) :
    ¬ sender.Overtakes object ticket := by
  rintro ⟨error, _, failed, _⟩
  rw [encoded] at failed
  cases failed

theorem overtakes_of_error {error : SendError} (encoded : sender.encodeObject object ticket = (.error error, after)) :
    sender.Overtakes object ticket ↔ after.ledger.outcome? ticket = none ∧
      ∃ first, after.ledger.failure sender.ledger.failures.size = some first ∧ first ≠ error := by
  unfold Overtakes
  rw [encoded]
  constructor
  · rintro ⟨other, first, same, unknown, failed, apart⟩
    cases same
    exact ⟨unknown, first, failed, apart⟩
  · rintro ⟨unknown, first, failed, apart⟩
    exact ⟨error, first, rfl, unknown, failed, apart⟩

/-- An error of the encoder that comes before the outcome is what the ticket is given, whatever the first failure is. -/
theorem Streamed.reportsFirst_of_unknown {error : SendError} {message : MessageId} {ledger : Ledger}
    (streamed : Streamed message ticket (.error error) ledger) (issued : ticket < ledger.slots.size)
    (unknown : ledger.outcome? ticket = none) :
    (∀ later, Ledger.InTurn message ticket (ledger.complete ticket (.error error)) later →
      Ledger.ReportsFirst message ticket (ledger.complete ticket (.error error)) later) ↔
      ∀ first, ledger.failure message = some first → first = error := by
  have outcome := Ledger.outcome?_complete_of_unknown issued unknown (.error error)
  have kept := (Ledger.extends_complete ledger ticket (.error error)).failures message
  obtain ⟨first, failed⟩ := streamed.failed error rfl
  constructor
  · intro reports other recorded
    rcases reports _ (.refl _) _ other outcome (kept other recorded) with same | ⟨unrecorded, _⟩
    · cases same
      rfl
    · rw [kept other recorded] at unrecorded
      cases unrecorded
  · intro same later turn
    have recorded := same first failed ▸ kept first failed
    exact Ledger.reportsFirst_of_given (.inr ⟨error, outcome, .inr recorded⟩) turn

/-- What is sent reports its first failure, unless the encoder's own error overtakes it. -/
theorem Streamed.reportsFirst (issued : ticket < (sender.encodeObject object ticket).2.ledger.slots.size)
    (streamed : Streamed sender.ledger.failures.size ticket (sender.encodeObject object ticket).1
      (sender.encodeObject object ticket).2.ledger) :
    let returned := (sender.sendObject object ticket).2.ledger
    (∀ later, InTurn sender.ledger.failures.size ticket returned later →
      Ledger.ReportsFirst sender.ledger.failures.size ticket returned later) ↔ ¬ sender.Overtakes object ticket := by
  rcases encoded : sender.encodeObject object ticket with ⟨error | ⟨⟩, after⟩
  case ok =>
    have same : (sender.sendObject object ticket).2.ledger = after.ledger := by
      unfold sendObject
      rw [encoded]
    rw [encoded] at streamed
    rw [same]
    exact iff_of_true (fun _ turn => Ledger.reportsFirst_of_given streamed.given turn) (not_overtakes_of_ok encoded)
  case error =>
    have told : (sender.sendObject object ticket).2.ledger = after.ledger.complete ticket (.error error) := by
      rw [sendObject_of_error encoded]
      rfl
    rw [encoded] at streamed issued
    rw [told, overtakes_of_error encoded]
    cases known : after.ledger.outcome? ticket with
    | some outcome =>
      rw [Ledger.complete_of_known known]
      exact iff_of_true (fun _ turn => Ledger.reportsFirst_of_given streamed.given turn) nofun
    | none =>
      refine (streamed.reportsFirst_of_unknown issued known).trans ?_
      simp

/-- The first failure of a streamed object. A ticket is issued and an object is streamed with it, over any carrier that
completes in order what it takes. As soon as the frames that were taken have been completed, the ticket has an outcome.
And if the message has failed, this outcome is its first failure, whenever the last frame is completed, exactly if the
encoder does not end with an error of its own when the message has failed before and the last frame is on its way. -/
theorem first_failure_reported_iff [OrderlyCarrier σ] {sender : Sender types (Logged σ)} (reached : sender.ledger.Reached)
    (held : ∀ own ∈ Carrier.held sender.carrier, own < sender.ledger.slots.size) {recipient : Recipient}
    (older : ∀ target, recipient.next? = some target → target < sender.ledger.slots.size)
    (unheard : (sender.issue recipient).2.ledger.Unheard sender.ledger.failures.size) {object : types.Object}
    (streams : (sender.issue recipient).2.opensStream (.object (some object) (sender.issue recipient).1) = true) :
    let message := sender.ledger.failures.size
    let ticket := (sender.issue recipient).1
    let issued := (sender.issue recipient).2
    let sent := (issued.sendObject (some object) ticket).2
    (∀ later, InTurn message ticket sent.ledger later →
      (∀ handover ∈ sent.log.drop sender.log.length, handover.taken = true → (later.outcome? handover.ticket).isSome) →
      (later.outcome? ticket).isSome) ∧
    ((∀ later, InTurn message ticket sent.ledger later → Ledger.ReportsFirst message ticket sent.ledger later) ↔
      ¬ issued.Overtakes (some object) ticket) := by
  intro message ticket issued sent
  have fresh : issued.Fresh ticket := fresh_issue reached.sound held older
  have sound : issued.ledger.Sound := reached.sound.issue older
  have answered : issued.Sent ticket sent := sent_sendObject fresh.issued sound (some object)
  have bounded : ∀ own ∈ Carrier.held issued.carrier, own < issued.ledger.slots.size :=
    fun own member => Nat.lt_of_lt_of_eq (Nat.lt_succ_of_lt (held own member)) (Array.size_push _).symm
  refine ⟨fun later turn completed => ?_, ?_⟩
  · have after : later.Sound := turn.evolves.sound answered.sound
    rcases answered.answered.answer with known | ⟨handover, member, taken, leads⟩
    · obtain ⟨outcome, known⟩ := Option.isSome_iff_exists.mp known
      rw [turn.evolves.extended.outcome? known]
      rfl
    · exact after.outcome?_isSome_of_leadsTo (leads.later turn.evolves.extended) (completed handover member taken)
  · have streamed := streamed_encodeObject fresh sound bounded unheard streams
    refine streamed.reportsFirst ?_
    rcases encodeObject_cases fresh.issued sound (some object) with ⟨error, unsent⟩ | encoded
    · rw [unsent]
      exact fresh.issued
    · exact Nat.lt_of_lt_of_le fresh.issued encoded.extended.size_le

/-- What a sender needs to stream notes in frames of one byte. -/
def noteSession : Session catalogue :=
  { Session.ofRegistry ((Registry.empty : Registry catalogue).register ⟨"note", .recipe⟩ Recipe.textStreamEncoder) with
    settings := { Settings.standard with textBufferSize := 1 } }

/-- A sender of notes over a writer that has its turn now and then. -/
def noteServer : Sender catalogue (Logged (Scheduled (WriterSettings.standard.keyFor MessageStream.serving.keys))) :=
  .start noteSession (.fresh ⟨.start MessageStream.serving, MessageStream.arises_serving, Nat.one_ne_zero, [1, 3, 0, 2]⟩) .empty

/-- The ticket of a note. -/
abbrev noteTicket : Ticket := (noteServer.issue .listener).1

/-- The sender that has issued it. -/
abbrev noteIssued : Sender catalogue (Logged (Scheduled (WriterSettings.standard.keyFor MessageStream.serving.keys))) :=
  (noteServer.issue .listener).2

/-- The tickets when a note that breaks off has been sent with it. -/
abbrev noteReturned : Ledger := (noteIssued.sendObject (some brokenNote) noteTicket).2.ledger

/-- The encoder breaks off while frames wait with the writer, and this is the first failure. -/
theorem first_failure_reported_server :
    noteServer.ledger.Reached ∧ (∀ own ∈ Carrier.held noteServer.carrier, own < noteServer.ledger.slots.size) ∧
    noteIssued.ledger.Unheard noteServer.ledger.failures.size ∧
    noteIssued.opensStream (.object (some brokenNote) noteTicket) = true ∧
    noteReturned.failure noteServer.ledger.failures.size = some (.unexpected "encoder panicked") ∧
    ∀ later, InTurn noteServer.ledger.failures.size noteTicket noteReturned later →
      Ledger.ReportsFirst noteServer.ledger.failures.size noteTicket noteReturned later := by
  have reached : noteServer.ledger.Reached := .refl _
  have held : ∀ own ∈ Carrier.held noteServer.carrier, own < noteServer.ledger.slots.size :=
    fun _ member => absurd member List.not_mem_nil
  have older : ∀ target, Recipient.listener.next? = some target → target < noteServer.ledger.slots.size := by
    intro target leads
    cases leads
  have unheard : noteIssued.ledger.Unheard noteServer.ledger.failures.size := by
    intro own slot there
    rcases Ledger.slot_of_issue there with ⟨_, rfl⟩ | old
    · intro same
      cases same
    · cases old
  have streams : noteIssued.opensStream (.object (some brokenNote) noteTicket) = true := by decide +kernel
  have failed : noteReturned.failure noteServer.ledger.failures.size = some (.unexpected "encoder panicked") := by
    decide +kernel
  have recorded : (noteIssued.encodeObject (some brokenNote) noteTicket).2.ledger.failure noteIssued.ledger.failures.size =
      some (.unexpected "encoder panicked") := by decide +kernel
  have ended : (noteIssued.encodeObject (some brokenNote) noteTicket).1 = .error (.unexpected "encoder panicked") := by
    decide +kernel
  obtain ⟨_, reports⟩ := first_failure_reported_iff reached held older unheard streams
  refine ⟨reached, held, unheard, streams, failed, reports.mpr ?_⟩
  rintro ⟨error, first, own, _, earlier, apart⟩
  rw [ended] at own
  rw [recorded] at earlier
  cases own
  cases earlier
  exact apart rfl

/-- A sender of notes whose carrier takes the first frame, refuses the second, and answers the last as is laid down. -/
def noteSender (last : Reply) : Sender catalogue ScriptedCarrier :=
  .start noteSession { ScriptedCarrier.accepting with nextReplies := [.accept, .refuse .backpressure, last] } .empty

/-- The note is refused a frame, and its encoder says so. If the last frame is completed at once, the ticket is given the
refusal, which came first; if it is held, the ticket is given the error of the encoder. -/
theorem first_failure_overtaken :
    let sent (last : Reply) := (((noteSender last).issue .listener).2.sendObject (some brokenNote) 0).2.ledger
    (sent .accept).outcome? 0 = some (.error .backpressure) ∧
    (sent .hold).outcome? 0 = some (.error (Recipe.writeRefused.toSendError "note")) ∧
    (sent .hold).failure 0 = some .backpressure ∧ ¬ Ledger.ReportsFirst 0 0 (sent .hold) (sent .hold) := by
  intro sent
  have given : (sent .hold).outcome? 0 = some (.error (Recipe.writeRefused.toSendError "note")) := by rfl
  have recorded : (sent .hold).failure 0 = some .backpressure := by rfl
  refine ⟨by rfl, given, recorded, fun reports => ?_⟩
  rcases reports _ _ given recorded with same | ⟨unrecorded, _⟩
  · exact absurd same nofun
  · rw [recorded] at unrecorded
    cases unrecorded

end Sender
end Egress
