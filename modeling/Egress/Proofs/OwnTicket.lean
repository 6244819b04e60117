import Egress.Proofs.LedgerLaws

/-!
A ticket of one's own. A new ticket that is given to one message only gets its outcome from that message: as long as
nobody else completes it or passes an outcome on to it, it stays pending; once the message has failed it never
succeeds; and it succeeds only with the last frame of the message.
-/
namespace Egress

namespace Ledger

variable {ledger first second : Ledger} {ticket last : Ticket} {message : MessageId}

/-- The deed neither completes the ticket nor issues one that leads to it. -/
def Deed.Spares (ticket : Ticket) : Deed → Prop
  | .issue recipient => recipient.next? ≠ some ticket
  | .complete other _ => other ≠ ticket
  | _ => True

/-- No ticket leads to this one. -/
def Alone (ticket : Ticket) (ledger : Ledger) : Prop :=
  ∀ (other : Ticket) (slot : Slot), ledger.slots[other]? = some slot → slot.recipient.next? ≠ some ticket

/-- A new ticket is alone. -/
theorem Told.alone_of_new (told : ledger.Told) (new : ledger.slots.size ≤ ticket) : ledger.Alone ticket := by
  intro other slot issued leads
  have older := told.older other slot ticket issued leads
  obtain ⟨inside, _⟩ := Array.getElem?_eq_some_iff.mp issued
  exact absurd (Nat.lt_trans older inside) (Nat.not_lt.mpr new)

theorem Alone.settle {recipient : Recipient} {other : Ticket} {outcome : Outcome} (alone : ledger.Alone ticket)
    (pending : ledger.pending? other = some recipient) : (ledger.settle other recipient outcome).Alone ticket := by
  intro third slot after
  obtain ⟨before, issued, same⟩ := slot_before_settle pending after
  rw [same]
  exact alone third before issued

theorem Alone.issue {recipient : Recipient} (alone : ledger.Alone ticket) (apart : recipient.next? ≠ some ticket) :
    (ledger.issue recipient).2.Alone ticket := by
  intro other slot issued
  rcases slot_of_issue issued with ⟨_, rfl⟩ | old
  · exact apart
  · exact alone other slot old

/-- A ticket that is alone and spared keeps its slot. -/
theorem slot_spared (evolves : Evolves (Deed.Spares ticket) first second) (alone : first.Alone ticket)
    (issued : ticket < first.slots.size) :
    second.Alone ticket ∧ second.slots[ticket]? = first.slots[ticket]? := by
  refine evolves.keeps (fun ledger => ledger.Alone ticket ∧ ledger.slots[ticket]? = first.slots[ticket]?) ?_ ⟨alone, rfl⟩
  rintro ledger deed ⟨alone, same⟩ _ spares
  cases deed with
  | issue recipient =>
    refine ⟨alone.issue spares, ?_⟩
    have there : ticket < ledger.slots.size := by
      rw [Array.getElem?_eq_getElem issued] at same
      exact (Array.getElem?_eq_some_iff.mp same).1
    show (ledger.issue recipient).2.slots[ticket]? = _
    rw [slots_issue, if_neg (Nat.ne_of_lt there)]
    exact same
  | beginMessage => exact ⟨alone, same⟩
  | recordFailure message error =>
    unfold Ledger.after Alone
    rw [slots_recordFailure]
    exact ⟨alone, same⟩
  | complete other outcome =>
    refine completeWithin_keeps (fun ledger => ledger.Alone ticket ∧ ledger.slots[ticket]? = first.slots[ticket]?)
      (fun _ coming _ => coming ≠ ticket) ?_ _ ⟨alone, same⟩ spares
    rintro ledger coming recipient outcome ⟨alone, same⟩ apart pending
    refine ⟨⟨alone.settle pending, ?_⟩, ?_⟩
    · rw [slot_settle_of_ne (Ne.symm apart)]
      exact same
    · rintro target passed on rfl
      exact alone coming _ (pending?_eq_some.mp pending) (passOn_eq on)

/-! ## Failed messages -/

/-- The deed does not let the ticket succeed once the message has failed. -/
def Deed.Denies (message : MessageId) (ticket : Ticket) : Deed → Prop
  | .issue recipient => recipient.next? = some ticket → recipient = .last message ticket
  | .complete other outcome => other = ticket → ∃ error, outcome = .error error
  | _ => True

theorem Deed.denies_of_spares {deed : Deed} (spares : deed.Spares ticket) : deed.Denies message ticket := by
  cases deed with
  | issue recipient => exact fun leads => absurd leads spares
  | complete other outcome => exact fun same => absurd same spares
  | _ => trivial

/-- The message has failed, its ticket has not succeeded, and outcomes come to the ticket from the message only. -/
structure Doomed (message : MessageId) (ticket : Ticket) (ledger : Ledger) : Prop where
  failed : ∃ error, ledger.failure message = some error
  leads : ∀ (other : Ticket) (slot : Slot), ledger.slots[other]? = some slot → slot.recipient.next? = some ticket →
    slot.recipient = .last message ticket
  unsuccessful : ledger.outcome? ticket ≠ some (.ok ())

theorem Doomed.settle {recipient : Recipient} {other : Ticket} {outcome : Outcome} (doomed : ledger.Doomed message ticket)
    (pending : ledger.pending? other = some recipient) (denied : other = ticket → ∃ error, outcome = .error error) :
    (ledger.settle other recipient outcome).Doomed message ticket ∧
      ∀ target passed, (ledger.settle other recipient outcome).passOn outcome recipient = some (target, passed) →
        target = ticket → ∃ error, passed = .error error := by
  obtain ⟨error, failed⟩ := doomed.failed
  have still : (ledger.settle other recipient outcome).failure message = some error := failure_settle failed
  refine ⟨⟨⟨error, still⟩, ?_, ?_⟩, ?_⟩
  · intro third slot after leads
    obtain ⟨before, issued, same⟩ := slot_before_settle pending after
    rw [same] at leads ⊢
    exact doomed.leads third before issued leads
  · intro succeeded
    rcases outcome?_settle_cases pending succeeded with ⟨same, kept⟩ | before
    · obtain ⟨error, bad⟩ := denied same
      cases kept.trans bad
    · exact doomed.unsuccessful before
  · rintro target passed on rfl
    have leads := doomed.leads other _ (pending?_eq_some.mp pending) (passOn_eq on)
    cases leads
    rw [passOn, still] at on
    cases on
    exact ⟨error, rfl⟩

theorem Doomed.after (doomed : ledger.Doomed message ticket) {deed : Deed} (denies : deed.Denies message ticket) :
    (ledger.after deed).Doomed message ticket := by
  obtain ⟨error, failed⟩ := doomed.failed
  have still := (ledger.extends_after deed).failures message error failed
  cases deed with
  | issue recipient =>
    refine ⟨⟨error, still⟩, ?_, ?_⟩
    · intro other slot issued leads
      rcases slot_of_issue issued with ⟨_, rfl⟩ | old
      · exact denies leads
      · exact doomed.leads other slot old leads
    · exact fun succeeded => doomed.unsuccessful (outcome?_of_issue succeeded)
  | beginMessage => exact ⟨⟨error, still⟩, doomed.leads, doomed.unsuccessful⟩
  | recordFailure other later =>
    refine ⟨⟨error, still⟩, ?_, ?_⟩
    · unfold Ledger.after
      rw [slots_recordFailure]
      exact doomed.leads
    · unfold Ledger.after Ledger.outcome?
      rw [slots_recordFailure]
      exact doomed.unsuccessful
  | complete other outcome =>
    exact completeWithin_keeps (Doomed message ticket) (fun _ coming outcome => coming = ticket → ∃ error, outcome = .error error)
      (fun _ _ _ _ doomed denied pending => doomed.settle pending denied) _ doomed denies

theorem doomed_evolves (evolves : Evolves (Deed.Denies message ticket) first second)
    (doomed : first.Doomed message ticket) : second.Doomed message ticket :=
  evolves.keeps (Doomed message ticket) (fun _ _ doomed _ denies => doomed.after denies) doomed

/-- A fragment that fails while its ticket is pending has its message fail. -/
theorem failure_complete_fragment (pending : ledger.pending? ticket = some (.fragment message))
    (begun : message < ledger.failures.size) (error : SendError) :
    ∃ first, (ledger.complete ticket (.error error)).failure message = some first := by
  let marked : Ledger := { ledger with slots := ledger.slots.setIfInBounds ticket ⟨.fragment message, some (.error error)⟩ }
  have begun : message < marked.failures.size := begun
  unfold complete completeWithin
  rw [pending]
  exact failure_recordFailure_self begun error

/-! ## Last frames -/

/-- The deed does not let the ticket succeed, nor the last frame's, unless there is `success`. -/
def Deed.Backs (success : Prop) (last ticket : Ticket) : Deed → Prop
  | .issue recipient => recipient.next? ≠ some last ∧ recipient.next? ≠ some ticket
  | .complete other outcome => other = last ∨ other = ticket → outcome = .ok () → success
  | _ => True

theorem Deed.backs_of_spares {success : Prop} {deed : Deed} (spares : deed.Spares ticket) (others : deed.Spares last) :
    deed.Backs success last ticket := by
  cases deed with
  | issue recipient => exact ⟨others, spares⟩
  | complete other outcome => exact fun same => (same.elim others spares).elim
  | _ => trivial

/-- Only the last frame leads to the ticket, and neither of the two has succeeded without `success`. -/
structure Backed (success : Prop) (last ticket : Ticket) (ledger : Ledger) : Prop where
  alone : ledger.Alone last
  leads : ∀ (other : Ticket) (slot : Slot), ledger.slots[other]? = some slot → slot.recipient.next? = some ticket →
    other = last
  frame : ledger.outcome? last = some (.ok ()) → success
  message : ledger.outcome? ticket = some (.ok ()) → success

theorem Backed.mono {success more : Prop} (backed : ledger.Backed success last ticket) (weaker : success → more) :
    ledger.Backed more last ticket :=
  ⟨backed.alone, backed.leads, fun known => weaker (backed.frame known), fun known => weaker (backed.message known)⟩

theorem passOn_ok {recipient : Recipient} {outcome : Outcome} {target : Ticket}
    (on : ledger.passOn outcome recipient = some (target, .ok ())) : outcome = .ok () := by
  unfold passOn at on
  split at on
  · split at on <;> cases on
    rfl
  · cases on
    rfl
  · cases on

theorem Backed.settle {success : Prop} {recipient : Recipient} {other : Ticket} {outcome : Outcome}
    (backed : ledger.Backed success last ticket) (pending : ledger.pending? other = some recipient)
    (coming : other = last ∨ other = ticket → outcome = .ok () → success) :
    (ledger.settle other recipient outcome).Backed success last ticket ∧
      ∀ target passed, (ledger.settle other recipient outcome).passOn outcome recipient = some (target, passed) →
        target = last ∨ target = ticket → passed = .ok () → success := by
  refine ⟨⟨backed.alone.settle pending, ?_, ?_, ?_⟩, ?_⟩
  · intro third slot after leads
    obtain ⟨before, issued, same⟩ := slot_before_settle pending after
    exact backed.leads third before issued (same ▸ leads)
  · intro known
    rcases outcome?_settle_cases pending known with ⟨same, kept⟩ | before
    · exact coming (.inl same) kept.symm
    · exact backed.frame before
  · intro known
    rcases outcome?_settle_cases pending known with ⟨same, kept⟩ | before
    · exact coming (.inr same) kept.symm
    · exact backed.message before
  · rintro target passed on goal rfl
    have issued := pending?_eq_some.mp pending
    have next := passOn_eq on
    rcases goal with rfl | rfl
    · exact absurd next (backed.alone other _ issued)
    · exact coming (.inl (backed.leads other _ issued next)) (passOn_ok on)

theorem Backed.after {success : Prop} (backed : ledger.Backed success last ticket) {deed : Deed}
    (backs : deed.Backs success last ticket) : (ledger.after deed).Backed success last ticket := by
  cases deed with
  | issue recipient =>
    refine ⟨backed.alone.issue backs.1, ?_, fun known => backed.frame (outcome?_of_issue known),
      fun known => backed.message (outcome?_of_issue known)⟩
    intro other slot issued leads
    rcases slot_of_issue issued with ⟨_, rfl⟩ | old
    · exact absurd leads backs.2
    · exact backed.leads other slot old leads
  | beginMessage => exact ⟨backed.alone, backed.leads, backed.frame, backed.message⟩
  | recordFailure message error =>
    obtain ⟨alone, leads, frame, own⟩ := backed
    refine ⟨?_, ?_, ?_, ?_⟩
    · unfold Alone Ledger.after
      rwa [slots_recordFailure]
    · unfold Ledger.after
      rwa [slots_recordFailure]
    · unfold Ledger.after Ledger.outcome?
      rwa [slots_recordFailure]
    · unfold Ledger.after Ledger.outcome?
      rwa [slots_recordFailure]
  | complete other outcome =>
    exact completeWithin_keeps (Backed success last ticket)
      (fun _ coming outcome => coming = last ∨ coming = ticket → outcome = .ok () → success)
      (fun _ _ _ _ backed coming pending => backed.settle pending coming) _ backed backs

end Ledger
end Egress
