import Egress.Proofs.OwnTicket

/-!
Messages completed in turn. A carrier that completes what it took in the order in which it took it completes the last frame
of a message after the fragments. Then no failure of the message is recorded any more, so that what its ticket is given
with the last frame is the first failure of the message, if it has failed at all.
-/
namespace Egress

/-- The message of which a ticket is a part. -/
def Recipient.message? : Recipient → Option MessageId
  | .fragment message | .last message _ => some message
  | _ => none

namespace Ledger

variable {ledger first second : Ledger} {ticket last other : Ticket} {message : MessageId} {recipient : Recipient}
  {outcome : Outcome}

/-! ## What one completion leaves -/

theorem pending?_of_settle (pending : ledger.pending? other = some recipient) {waits : Recipient}
    (after : (ledger.settle other recipient outcome).pending? ticket = some waits) :
    ledger.pending? ticket = some waits := by
  have slot := pending?_eq_some.mp after
  by_cases same : ticket = other
  · subst same
    rw [slot_settle_self pending] at slot
    cases slot
  · rw [slot_settle_of_ne same] at slot
    exact pending?_eq_some.mpr slot

/-- What is pending after a completion was pending before, and is not what was completed. -/
theorem pending?_of_complete (after : (ledger.complete other outcome).pending? ticket = some recipient) :
    ledger.pending? ticket = some recipient ∧ ticket ≠ other := by
  have kept : ∀ own waits, (ledger.complete other outcome).pending? own = some waits → ledger.pending? own = some waits :=
    completeWithin_keeps (fun later => ∀ own waits, later.pending? own = some waits → ledger.pending? own = some waits)
      (fun _ _ _ => True)
      (fun _ _ _ _ before _ pending => ⟨fun own waits after => before own waits (pending?_of_settle pending after),
        fun _ _ _ => trivial⟩) _ (fun _ _ => id) trivial
  have before := kept ticket recipient after
  refine ⟨before, ?_⟩
  rintro rfl
  have issued : ticket < ledger.slots.size := (Array.getElem?_eq_some_iff.mp (pending?_eq_some.mp before)).1
  obtain ⟨known, same⟩ := Option.isSome_iff_exists.mp (outcome?_isSome_complete issued outcome)
  obtain ⟨_, slot⟩ := outcome?_eq_some.mp same
  rw [pending?_eq_some.mp after] at slot
  cases slot

/-- A ticket that has an outcome is not completed again. -/
theorem complete_of_known {kept : Outcome} (known : ledger.outcome? ticket = some kept) (outcome : Outcome) :
    ledger.complete ticket outcome = ledger := by
  obtain ⟨recipient, slot⟩ := outcome?_eq_some.mp known
  have done : ledger.pending? ticket = none := by
    unfold pending?
    rw [slot]
  unfold complete completeWithin
  rw [done]

theorem slot_of_complete {slot : Slot} (after : (ledger.complete other outcome).slots[ticket]? = some slot) :
    ∃ before, ledger.slots[ticket]? = some before ∧ slot.recipient = before.recipient := by
  revert ticket slot
  refine completeWithin_keeps (fun later => ∀ {ticket : Ticket} {slot : Slot}, later.slots[ticket]? = some slot →
    ∃ before, ledger.slots[ticket]? = some before ∧ slot.recipient = before.recipient) (fun _ _ _ => True) ?_ _
    (fun slot => ⟨_, slot, rfl⟩) trivial
  intro later coming recipient outcome holds _ pending
  refine ⟨fun after => ?_, fun _ _ _ => trivial⟩
  obtain ⟨between, slot, same⟩ := slot_before_settle pending after
  obtain ⟨before, issued, same'⟩ := holds slot
  exact ⟨before, issued, same.trans same'⟩

theorem failure_recordFailure_of_ne {error : SendError} {late : MessageId} (ne : late ≠ message) :
    (ledger.recordFailure late error).failure message = ledger.failure message := by
  unfold recordFailure
  split
  · show ((ledger.failures.setIfInBounds late (some error))[message]?).join = _
    rw [Array.getElem?_setIfInBounds_ne ne]
    rfl
  · rfl

/-- Only a fragment of the message can let it fail. -/
theorem failure_settle_of_ne (apart : recipient ≠ .fragment message) :
    (ledger.settle ticket recipient outcome).failure message = ledger.failure message := by
  cases recipient with
  | fragment late =>
    rcases outcome with error | ⟨⟩
    · exact failure_recordFailure_of_ne fun same => apart (same ▸ rfl)
    · rfl
  | _ => rfl

/-- What the ticket of a message is given with the outcome of the last frame. -/
def verdict (ledger : Ledger) (message : MessageId) (outcome : Outcome) : Outcome :=
  match ledger.failure message with
  | some error => .error error
  | none => outcome

theorem passOn_last (ledger : Ledger) (outcome : Outcome) :
    ledger.passOn outcome (.last message ticket) = some (ticket, ledger.verdict message outcome) := by
  unfold passOn verdict
  cases failed : ledger.failure message <;> simp only [failed]

theorem verdict_eq {error : SendError} (failed : ledger.failure message = some error) :
    ledger.verdict message outcome = .error error := by
  rw [verdict, failed]

/-- Outcomes come to these tickets from one another only. -/
def Closed (own : Ticket → Prop) (ledger : Ledger) : Prop :=
  ∀ (other : Ticket) (slot : Slot) (target : Ticket), ledger.slots[other]? = some slot →
    slot.recipient.next? = some target → own target → own other

/-- Completions of other tickets leave them as they are. -/
theorem slots_closed {own : Ticket → Prop} (closed : ledger.Closed own) {completions : List (Ticket × Outcome)}
    (apart : ∀ completion ∈ completions, ¬ own completion.1) {ticket : Ticket} (mine : own ticket) :
    (ledger.completeEach completions).slots[ticket]? = ledger.slots[ticket]? := by
  have kept : (ledger.completeEach completions).Closed own ∧
      (ledger.completeEach completions).slots[ticket]? = ledger.slots[ticket]? := by
    have evolves : Evolves (fun deed => ∃ other outcome, ¬ own other ∧ deed = .complete other outcome) ledger
        (ledger.completeEach completions) :=
      .completeEach ledger completions fun completion member => ⟨_, _, apart completion member, rfl⟩
    refine evolves.keeps (fun later => later.Closed own ∧ later.slots[ticket]? = ledger.slots[ticket]?) ?_ ⟨closed, rfl⟩
    rintro later _ holds _ ⟨other, outcome, foreign, rfl⟩
    refine completeWithin_keeps (fun later => later.Closed own ∧ later.slots[ticket]? = ledger.slots[ticket]?)
      (fun _ coming _ => ¬ own coming) ?_ _ holds foreign
    rintro later coming recipient outcome ⟨closed, same⟩ foreign pending
    have apart : ticket ≠ coming := by
      rintro rfl
      exact foreign mine
    refine ⟨⟨?_, ?_⟩, ?_⟩
    · intro other slot target after leads owned
      obtain ⟨before, issued, equal⟩ := slot_before_settle pending after
      exact closed other before target issued (equal ▸ leads) owned
    · rw [slot_settle_of_ne apart]
      exact same
    · intro target passed on owned
      exact foreign (closed coming _ target (pending?_eq_some.mp pending) (passOn_eq on) owned)
  exact kept.2

/-- The fragments of the message came after the ticket. -/
def Young (message : MessageId) (ticket : Ticket) (ledger : Ledger) : Prop :=
  ∀ (own : Ticket) (slot : Slot), ledger.slots[own]? = some slot → slot.recipient = .fragment message → ticket < own

theorem Young.completeEach (young : ledger.Young message ticket) (completions : List (Ticket × Outcome)) :
    (ledger.completeEach completions).Young message ticket := by
  induction completions generalizing ledger with
  | nil => exact young
  | cons completion completions ih =>
    refine ih fun own slot after fragment => ?_
    obtain ⟨before, there, equal⟩ := slot_of_complete after
    exact young own before there (equal ▸ fragment)

/-- Outcomes travel to older tickets, so they do not come to fragments that are younger. -/
theorem failure_completeWithin_of_young (told : ledger.Told) (young : ledger.Young message ticket) (old : other ≤ ticket)
    (depth : Nat) : (completeWithin depth ledger other outcome).failure message = ledger.failure message := by
  have kept : (completeWithin depth ledger other outcome).Told ∧
      (completeWithin depth ledger other outcome).Young message ticket ∧
      (completeWithin depth ledger other outcome).failure message = ledger.failure message := by
    refine completeWithin_keeps (fun later => later.Told ∧ later.Young message ticket ∧
      later.failure message = ledger.failure message) (fun _ coming _ => coming ≤ ticket) ?_ depth ⟨told, young, rfl⟩ old
    rintro later coming recipient outcome ⟨told, young, same⟩ old pending
    have slot := pending?_eq_some.mp pending
    refine ⟨⟨told.settle pending, ?_, ?_⟩, ?_⟩
    · intro own after issued fragment
      obtain ⟨before, there, equal⟩ := slot_before_settle pending issued
      exact young own before there (equal ▸ fragment)
    · rw [failure_settle_of_ne fun fragment => ?_]
      · exact same
      · exact absurd (young coming _ slot fragment) (Nat.not_lt.mpr old)
    · intro target passed on
      exact Nat.le_of_lt (Nat.lt_of_lt_of_le (told.older coming _ target slot (passOn_eq on)) old)
  exact kept.2.2

/-- With its last frame a message gets its outcome: the first failure, or the outcome of this frame. -/
theorem complete_last (told : ledger.Told) (young : ledger.Young message ticket)
    (pending : ledger.pending? last = some (.last message ticket)) (waits : ledger.pending? ticket = some recipient)
    (outcome : Outcome) : (ledger.complete last outcome).outcome? ticket = some (ledger.verdict message outcome) ∧
      (ledger.complete last outcome).failure message = ledger.failure message := by
  let settled := ledger.settle last (.last message ticket) outcome
  have older : ticket < last := told.older last _ ticket (pending?_eq_some.mp pending) rfl
  have same : settled.failure message = ledger.failure message := failure_settle_of_ne nofun
  have whole : ledger.complete last outcome = completeWithin last settled ticket (ledger.verdict message outcome) := by
    unfold complete
    rw [completeWithin, pending]
    dsimp only
    rw [passOn_last, verdict, verdict]
    rw [show (ledger.settle last (.last message ticket) outcome).failure message = _ from same]
  have still : settled.pending? ticket = some recipient :=
    pending?_eq_some.mpr ((slot_settle_of_ne (Nat.ne_of_lt older)).trans (pending?_eq_some.mp waits))
  rw [whole]
  constructor
  · obtain ⟨depth, rfl⟩ := Nat.exists_eq_succ_of_ne_zero (Nat.ne_zero_of_lt older)
    exact outcome?_completeWithin still depth
  · have young' : settled.Young message ticket := by
      intro own slot after fragment
      obtain ⟨before, there, equal⟩ := slot_before_settle pending after
      exact young own before there (equal ▸ fragment)
    exact (failure_completeWithin_of_young (told.settle pending) young' (Nat.le_refl _) last).trans same

/-! ## Completing in turn -/

/-- No fragment of the message waits for its outcome. -/
def FragmentsDone (message : MessageId) (ledger : Ledger) : Prop :=
  ∀ own, ledger.pending? own ≠ some (.fragment message)

/-- The deed leaves the ticket of a message to its last frame, and adds nothing to the message. -/
def Deed.Leaves (message : MessageId) (ticket : Ticket) : Deed → Prop
  | .issue recipient => recipient.message? ≠ some message ∧ recipient.next? ≠ some ticket
  | .beginMessage => True
  | .recordFailure other _ => other ≠ message
  | .complete other _ => other ≠ ticket

theorem Deed.Leaves.spares {deed : Deed} (leaves : deed.Leaves message ticket) : deed.Spares ticket := by
  cases deed with
  | issue recipient => exact leaves.2
  | complete other outcome => exact leaves
  | _ => trivial

/-- What a ledger comes to when nothing is added to the message and its last frame is completed after its fragments. -/
inductive InTurn (message : MessageId) (ticket : Ticket) : Ledger → Ledger → Prop where
  | refl (ledger : Ledger) : InTurn message ticket ledger ledger
  | step {first second : Ledger} (before : InTurn message ticket first second) (deed : Deed) (proper : second.Proper deed)
      (leaves : deed.Leaves message ticket)
      (turn : ∀ last target, second.pending? last = some (.last message target) →
        (second.after deed).pending? last = none → second.FragmentsDone message) :
      InTurn message ticket first (second.after deed)

theorem InTurn.trans {third : Ledger} (left : InTurn message ticket first second)
    (right : InTurn message ticket second third) : InTurn message ticket first third := by
  induction right with
  | refl => exact left
  | step _ deed proper leaves turn ih => exact .step ih deed proper leaves turn

theorem InTurn.evolves (turn : InTurn message ticket first second) : Evolves (Deed.Spares ticket) first second := by
  induction turn with
  | refl => exact .refl _
  | step _ deed proper leaves _ ih => exact .step ih deed proper leaves.spares

/-- Outcomes come to the ticket of a message from its last frame only. -/
def Awaited (message : MessageId) (ticket : Ticket) (ledger : Ledger) : Prop :=
  ∀ (other : Ticket) (slot : Slot), ledger.slots[other]? = some slot → slot.recipient.next? = some ticket →
    slot.recipient = .last message ticket

theorem Awaited.settle (awaited : ledger.Awaited message ticket) (pending : ledger.pending? other = some recipient) :
    (ledger.settle other recipient outcome).Awaited message ticket := by
  intro own slot after next
  obtain ⟨before, issued, equal⟩ := slot_before_settle pending after
  rw [equal] at next ⊢
  exact awaited own before issued next

theorem Awaited.complete (awaited : ledger.Awaited message ticket) (other : Ticket) (outcome : Outcome) :
    (ledger.complete other outcome).Awaited message ticket := by
  intro own slot after next
  obtain ⟨before, issued, equal⟩ := slot_of_complete after
  rw [equal] at next ⊢
  exact awaited own before issued next

/-- The outcome is the failure, if there is one. -/
def Tells (failure : Option SendError) (outcome : Outcome) : Prop := ∀ first, failure = some first → outcome = .error first

/-- The message fails no more, and its ticket is not told anything but its failure. -/
structure Finished (failure : Option SendError) (message : MessageId) (ticket : Ticket) (ledger : Ledger) : Prop where
  done : ledger.FragmentsDone message
  same : ledger.failure message = failure
  awaited : ledger.Awaited message ticket
  answer : ∀ outcome, ledger.outcome? ticket = some outcome → Tells failure outcome

theorem Finished.settle {failure : Option SendError} (finished : ledger.Finished failure message ticket)
    (pending : ledger.pending? other = some recipient) (coming : other = ticket → Tells failure outcome) :
    (ledger.settle other recipient outcome).Finished failure message ticket ∧
      ∀ target passed, (ledger.settle other recipient outcome).passOn outcome recipient = some (target, passed) →
        target = ticket → Tells failure passed := by
  have still : (ledger.settle other recipient outcome).failure message = failure := by
    rw [failure_settle_of_ne, finished.same]
    rintro rfl
    exact finished.done other pending
  refine ⟨⟨fun own after => finished.done own (pending?_of_settle pending after), still,
    finished.awaited.settle pending, ?_⟩, ?_⟩
  · intro kept known
    rcases outcome?_settle_cases pending known with ⟨own, rfl⟩ | before
    · exact coming own
    · exact finished.answer kept before
  · rintro target passed on rfl first failed
    have last := finished.awaited other _ (pending?_eq_some.mp pending) (passOn_eq on)
    cases last
    rw [passOn_last, verdict_eq (still.trans failed)] at on
    cases on
    rfl

theorem Finished.complete {failure : Option SendError} (finished : ledger.Finished failure message ticket)
    (apart : other ≠ ticket) (outcome : Outcome) : (ledger.complete other outcome).Finished failure message ticket :=
  completeWithin_keeps (Finished failure message ticket) (fun _ coming outcome => coming = ticket → Tells failure outcome)
    (fun _ _ _ _ finished coming pending => finished.settle pending coming) _ finished fun same => absurd same apart

/-- The ticket has an outcome only if the last frame, which waited before, has one. -/
structure Withheld (before : Ledger) (message : MessageId) (ticket : Ticket) (ledger : Ledger) : Prop where
  pending : ∀ own waits, ledger.pending? own = some waits → before.pending? own = some waits
  awaited : ledger.Awaited message ticket
  answer : (ledger.outcome? ticket).isSome →
    ∃ last, before.pending? last = some (.last message ticket) ∧ ledger.pending? last = none

theorem pending?_settle_none (done : ledger.pending? ticket = none) (pending : ledger.pending? other = some recipient) :
    (ledger.settle other recipient outcome).pending? ticket = none := by
  cases after : (ledger.settle other recipient outcome).pending? ticket with
  | none => rfl
  | some waits => exact absurd (done.symm.trans (pending?_of_settle pending after)) nofun

theorem Withheld.settle {before : Ledger} (held : Withheld before message ticket ledger)
    (pending : ledger.pending? other = some recipient)
    (coming : other = ticket → ∃ last, before.pending? last = some (.last message ticket) ∧ ledger.pending? last = none) :
    Withheld before message ticket (ledger.settle other recipient outcome) ∧
      ∀ target passed, (ledger.settle other recipient outcome).passOn outcome recipient = some (target, passed) →
        target = ticket → ∃ last, before.pending? last = some (.last message ticket) ∧
          (ledger.settle other recipient outcome).pending? last = none := by
  have settled : (ledger.settle other recipient outcome).pending? other = none := by
    cases after : (ledger.settle other recipient outcome).pending? other with
    | none => rfl
    | some waits =>
      have slot := pending?_eq_some.mp after
      rw [slot_settle_self pending] at slot
      cases slot
  refine ⟨⟨fun own waits after => held.pending own waits (pending?_of_settle pending after),
    held.awaited.settle pending, ?_⟩, ?_⟩
  · intro known
    obtain ⟨kept, known⟩ := Option.isSome_iff_exists.mp known
    have earlier : ∃ last, before.pending? last = some (.last message ticket) ∧ ledger.pending? last = none := by
      rcases outcome?_settle_cases pending known with ⟨own, _⟩ | earlier
      · exact coming own
      · exact held.answer (by rw [earlier]; rfl)
    obtain ⟨last, waited, done⟩ := earlier
    exact ⟨last, waited, pending?_settle_none done pending⟩
  · rintro target passed on rfl
    have last := held.awaited other _ (pending?_eq_some.mp pending) (passOn_eq on)
    cases last
    exact ⟨other, held.pending other _ pending, settled⟩

/-- Until the last frame is completed, the ticket has no outcome. -/
theorem Withheld.complete {before : Ledger} (held : Withheld before message ticket ledger) (apart : other ≠ ticket)
    (outcome : Outcome) : Withheld before message ticket (ledger.complete other outcome) :=
  completeWithin_keeps (Withheld before message ticket)
    (fun later coming _ => coming = ticket →
      ∃ last, before.pending? last = some (.last message ticket) ∧ later.pending? last = none)
    (fun _ _ _ _ held coming pending => held.settle pending coming) _ held fun same => absurd same apart

/-- Once the ticket has an outcome, no fragment is left, and the outcome is the failure of the message, if it has failed. -/
structure Due (message : MessageId) (ticket : Ticket) (ledger : Ledger) : Prop where
  awaited : ledger.Awaited message ticket
  answer : ∀ outcome, ledger.outcome? ticket = some outcome →
    ledger.FragmentsDone message ∧ Tells (ledger.failure message) outcome

theorem Due.complete (due : ledger.Due message ticket) (apart : other ≠ ticket)
    (turn : ∀ last target, ledger.pending? last = some (.last message target) →
      (ledger.complete other outcome).pending? last = none → ledger.FragmentsDone message) :
    (ledger.complete other outcome).Due message ticket := by
  refine ⟨due.awaited.complete other outcome, fun kept known => ?_⟩
  have done : ledger.FragmentsDone message := by
    cases before : ledger.outcome? ticket with
    | some earlier => exact (due.answer earlier before).1
    | none =>
      have held : Withheld ledger message ticket ledger := ⟨fun _ _ => id, due.awaited, by simp [before]⟩
      obtain ⟨last, waited, completed⟩ := (held.complete apart outcome).answer (by rw [known]; rfl)
      exact turn last ticket waited completed
  have finished : ledger.Finished (ledger.failure message) message ticket :=
    ⟨done, rfl, due.awaited, fun outcome known => (due.answer outcome known).2⟩
  have after := finished.complete apart outcome
  exact ⟨after.done, after.same ▸ after.answer kept known⟩

theorem FragmentsDone.of_slots {after : Ledger} (done : ledger.FragmentsDone message) (slots : after.slots = ledger.slots) :
    after.FragmentsDone message := by
  intro own
  unfold pending?
  rw [slots]
  exact done own

theorem Due.of_slots {after : Ledger} (due : ledger.Due message ticket) (slots : after.slots = ledger.slots)
    (failure : after.failure message = ledger.failure message) : after.Due message ticket := by
  refine ⟨?_, fun outcome known => ?_⟩
  · unfold Awaited
    rw [slots]
    exact due.awaited
  · unfold Ledger.outcome? at known
    rw [slots] at known
    obtain ⟨done, tells⟩ := due.answer outcome known
    exact ⟨done.of_slots slots, failure ▸ tells⟩

theorem failure_beginMessage_eq (ledger : Ledger) (message : MessageId) :
    ledger.beginMessage.2.failure message = ledger.failure message := by
  show ((ledger.failures.push none)[message]?).join = ledger.failures[message]?.join
  rw [Array.getElem?_push]
  split
  · next new =>
    rw [Array.getElem?_eq_none (Nat.le_of_eq new.symm)]
    rfl
  · rfl

theorem Due.issue (due : ledger.Due message ticket) (foreign : recipient.message? ≠ some message)
    (apart : recipient.next? ≠ some ticket) : (ledger.issue recipient).2.Due message ticket := by
  refine ⟨?_, fun outcome known => ?_⟩
  · intro own slot issued next
    rcases slot_of_issue issued with ⟨_, rfl⟩ | old
    · exact absurd next apart
    · exact due.awaited own slot old next
  · obtain ⟨done, tells⟩ := due.answer outcome (outcome?_of_issue known)
    refine ⟨fun own after => ?_, tells⟩
    rcases pending?_of_issue after with ⟨_, rfl⟩ | old
    · exact foreign rfl
    · exact done own old

/-- The law of messages that are completed in turn, for one deed. -/
theorem Due.after (due : ledger.Due message ticket) {deed : Deed} (leaves : deed.Leaves message ticket)
    (turn : ∀ last target, ledger.pending? last = some (.last message target) →
      (ledger.after deed).pending? last = none → ledger.FragmentsDone message) :
    (ledger.after deed).Due message ticket := by
  cases deed with
  | issue recipient => exact due.issue leaves.1 leaves.2
  | beginMessage => exact due.of_slots rfl (failure_beginMessage_eq ledger message)
  | recordFailure other error => exact due.of_slots (slots_recordFailure _ _) (failure_recordFailure_of_ne leaves)
  | complete other outcome => exact due.complete leaves turn

theorem Due.later (due : first.Due message ticket) (turn : InTurn message ticket first second) :
    second.Due message ticket := by
  induction turn with
  | refl => exact due
  | step _ deed _ leaves turn ih => exact ih.after leaves turn

/-- Tickets that are completed one after the other, the last frame's after those of all fragments, are completed in
turn. -/
theorem inTurn_completeEach {completions : List (Ticket × Outcome)} {front rest : List Ticket}
    (line : completions.map Prod.fst ++ rest = front ++ [last])
    (fragments : ∀ own, ledger.pending? own = some (.fragment message) → own ∈ front)
    (only : ∀ own target, ledger.pending? own = some (.last message target) → own = last)
    (alone : ledger.Alone last) (issued : last < ledger.slots.size) (ahead : last ∉ front)
    (apart : ∀ own ∈ front ++ [last], own ≠ ticket) :
    InTurn message ticket ledger (ledger.completeEach completions) := by
  induction completions generalizing ledger front with
  | nil => exact .refl ledger
  | cons completion completions ih =>
    obtain ⟨own, outcome⟩ := completion
    have mine : own ∈ front ++ [last] := by
      rw [← line]
      exact List.mem_cons_self
    have one : (∀ last target, ledger.pending? last = some (.last message target) →
        (ledger.complete own outcome).pending? last = none → ledger.FragmentsDone message) →
        InTurn message ticket ledger (ledger.complete own outcome) :=
      fun turn => .step (.refl ledger) (.complete own outcome) trivial (apart own mine) turn
    cases front with
    | nil =>
      have done : ledger.FragmentsDone message := fun other pending => absurd (fragments other pending) List.not_mem_nil
      obtain ⟨rfl, none⟩ := List.cons.inj line
      obtain ⟨empty, -⟩ := List.append_eq_nil_iff.mp none
      rw [List.map_eq_nil_iff.mp empty]
      exact one fun _ _ _ _ => done
    | cons first front =>
      obtain ⟨rfl, following⟩ := List.cons.inj line
      have other : own ≠ last := fun same => ahead (same ▸ List.mem_cons_self)
      obtain ⟨alone', slot⟩ := slot_spared (.one (.complete own outcome) trivial other) alone issued
      have step : InTurn message ticket ledger (ledger.complete own outcome) := by
        refine one fun waiting target pending done => ?_
        -- the last frame is still to come, so it is not what was completed
        have same := only waiting target pending
        rw [same] at pending done
        have still := pending?_eq_some.mpr ((show _ = _ from slot).trans (pending?_eq_some.mp pending))
        exact absurd (done.symm.trans still) nofun
      refine step.trans (ih following ?_ ?_ alone' ?_ ?_ ?_)
      · intro waiting pending
        obtain ⟨before, ne⟩ := pending?_of_complete pending
        exact (List.mem_cons.mp (fragments waiting before)).resolve_left ne
      · exact fun waiting target pending => only waiting target (pending?_of_complete pending).1
      · exact Nat.lt_of_lt_of_le issued (extends_complete ledger own outcome).size_le
      · exact fun member => ahead (List.mem_cons_of_mem _ member)
      · exact fun other member => apart other (List.mem_cons_of_mem _ member)

end Ledger
end Egress
