import Egress.Ledger

/-!
The laws of the ledger. Whatever is done to a ledger, an outcome that is kept stays, a message that has failed
stays failed, an outcome is passed on as soon as it is known, and the application is told exactly once.
-/
namespace Egress

instance decidableEqExcept {ε α : Type} [DecidableEq ε] [DecidableEq α] : DecidableEq (Except ε α)
  | .ok first, .ok second => decidable_of_iff (first = second) ⟨congrArg Except.ok, Except.ok.inj⟩
  | .error first, .error second => decidable_of_iff (first = second) ⟨congrArg Except.error, Except.error.inj⟩
  | .ok _, .error _ => isFalse nofun
  | .error _, .ok _ => isFalse nofun

/-- Whether the application is told the outcome. -/
def Recipient.tells : Recipient → Bool
  | .listener | .relay _ => true
  | _ => false

namespace Ledger

variable {ledger : Ledger} {ticket : Ticket} {recipient : Recipient} {outcome : Outcome}

/-- What the application was told about a ticket. -/
def about (ledger : Ledger) (ticket : Ticket) : List (Ticket × Outcome) :=
  ledger.reports.toList.filter (·.1 = ticket)

theorem pending?_eq_some : ledger.pending? ticket = some recipient ↔ ledger.slots[ticket]? = some ⟨recipient, none⟩ := by
  unfold pending?
  constructor
  · intro pending
    split at pending
    case h_1 slot =>
      cases pending
      exact slot
    case h_2 => cases pending
  · intro slot
    rw [slot]

theorem outcome?_eq_some :
    ledger.outcome? ticket = some outcome ↔ ∃ recipient, ledger.slots[ticket]? = some ⟨recipient, some outcome⟩ := by
  unfold outcome?
  constructor
  · intro known
    obtain ⟨⟨recipient, kept⟩, slot, same⟩ := Option.bind_eq_some_iff.mp known
    cases same
    exact ⟨recipient, slot⟩
  · rintro ⟨recipient, slot⟩
    rw [slot]
    rfl

/-- A ticket that was issued and is not pending has an outcome. -/
theorem outcome?_isSome_of_not_pending (issued : ticket < ledger.slots.size) (done : ledger.pending? ticket = none) :
    (ledger.outcome? ticket).isSome := by
  have slot := Array.getElem?_eq_getElem issued
  rcases kept : ledger.slots[ticket] with ⟨recipient, _ | outcome⟩
  · rw [kept] at slot
    rw [pending?_eq_some.mpr slot] at done
    cases done
  · rw [kept] at slot
    rw [outcome?_eq_some.mpr ⟨recipient, slot⟩]
    rfl

/-! ## Settling one ticket -/

theorem failure_recordFailure {message : MessageId} {error : SendError} (failed : ledger.failure message = some error)
    (other : MessageId) (later : SendError) : (ledger.recordFailure other later).failure message = some error := by
  unfold recordFailure
  split
  case h_1 none =>
    by_cases same : other = message
    · subst same
      rw [failure, none] at failed
      cases failed
    · show ((ledger.failures.setIfInBounds other (some later))[message]?).join = some error
      rw [Array.getElem?_setIfInBounds_ne same]
      exact failed
  case h_2 => exact failed

theorem slots_recordFailure (message : MessageId) (error : SendError) :
    (ledger.recordFailure message error).slots = ledger.slots := by
  unfold recordFailure
  split <;> rfl

theorem reports_recordFailure (message : MessageId) (error : SendError) :
    (ledger.recordFailure message error).reports = ledger.reports := by
  unfold recordFailure
  split <;> rfl

theorem slots_settle :
    (ledger.settle ticket recipient outcome).slots = ledger.slots.setIfInBounds ticket ⟨recipient, some outcome⟩ := by
  cases recipient with
  | fragment message =>
    rcases outcome with error | ⟨⟩
    · exact slots_recordFailure message error
    · rfl
  | _ => rfl

theorem slot_settle_of_ne {other : Ticket} (ne : other ≠ ticket) :
    (ledger.settle ticket recipient outcome).slots[other]? = ledger.slots[other]? := by
  rw [slots_settle, Array.getElem?_setIfInBounds_ne (Ne.symm ne)]

theorem slot_settle_self (pending : ledger.pending? ticket = some recipient) :
    (ledger.settle ticket recipient outcome).slots[ticket]? = some ⟨recipient, some outcome⟩ := by
  obtain ⟨issued, _⟩ := Array.getElem?_eq_some_iff.mp (pending?_eq_some.mp pending)
  rw [slots_settle, Array.getElem?_setIfInBounds_self_of_lt issued]

theorem failure_settle {message : MessageId} {error : SendError} (failed : ledger.failure message = some error) :
    (ledger.settle ticket recipient outcome).failure message = some error := by
  cases recipient with
  | fragment other =>
    rcases outcome with later | ⟨⟩
    · unfold settle inform
      apply failure_recordFailure
      exact failed
    · exact failed
  | _ => exact failed

theorem size_failures_recordFailure (message : MessageId) (error : SendError) :
    (ledger.recordFailure message error).failures.size = ledger.failures.size := by
  unfold recordFailure
  split
  · exact Array.size_setIfInBounds
  · rfl

theorem size_failures_settle : (ledger.settle ticket recipient outcome).failures.size = ledger.failures.size := by
  cases recipient with
  | fragment message =>
    rcases outcome with error | ⟨⟩
    · unfold settle inform
      rw [size_failures_recordFailure]
    · rfl
  | _ => rfl

/-- The first failure that is recorded of a message is its failure. -/
theorem failure_recordFailure_first {message : MessageId} (begun : message < ledger.failures.size)
    (unfailed : ledger.failure message = none) (error : SendError) :
    (ledger.recordFailure message error).failure message = some error := by
  have blank : ledger.failures[message]? = some none := by
    rw [failure, Array.getElem?_eq_getElem begun] at unfailed
    rw [Array.getElem?_eq_getElem begun]
    exact congrArg some unfailed
  unfold recordFailure
  rw [blank]
  show ((ledger.failures.setIfInBounds message (some error))[message]?).join = some error
  rw [Array.getElem?_setIfInBounds_self_of_lt begun]
  rfl

/-- A message that has been begun has failed once a failure of it is recorded. -/
theorem failure_recordFailure_self {message : MessageId} (begun : message < ledger.failures.size) (error : SendError) :
    ∃ first, (ledger.recordFailure message error).failure message = some first := by
  cases failed : ledger.failure message with
  | some first => exact ⟨first, failure_recordFailure failed message error⟩
  | none => exact ⟨error, failure_recordFailure_first begun failed error⟩

theorem about_settle (other : Ticket) :
    (ledger.settle ticket recipient outcome).about other =
      ledger.about other ++ if recipient.tells ∧ ticket = other then [(ticket, outcome)] else [] := by
  have reported : ∀ after : Ledger, after.reports = ledger.reports.push (ticket, outcome) →
      after.about other = ledger.about other ++ if ticket = other then [(ticket, outcome)] else [] := by
    intro after pushed
    unfold about
    rw [pushed, Array.toList_push, List.filter_append]
    by_cases same : ticket = other <;> simp [same]
  have silent : ∀ after : Ledger, after.reports = ledger.reports → after.about other = ledger.about other ++ [] := by
    intro after same
    rw [about, same, List.append_nil]
    rfl
  cases recipient with
  | listener | relay target =>
    rw [reported _ rfl]
    simp [Recipient.tells]
  | fragment message =>
    rcases outcome with error | ⟨⟩
    · exact silent _ (reports_recordFailure message error)
    · exact silent _ rfl
  | nobody | future | last message target => exact silent _ rfl

theorem passOn_eq {target : Ticket} {passed : Outcome} (on : ledger.passOn outcome recipient = some (target, passed)) :
    recipient.next? = some target := by
  unfold passOn at on
  split at on
  · split at on <;> cases on <;> rfl
  · cases on
    rfl
  · cases on

theorem passOn_none (on : ledger.passOn outcome recipient = none) : recipient.next? = none := by
  unfold passOn at on
  split at on
  · split at on <;> cases on
  · cases on
  · cases recipient <;> simp_all [Recipient.next?]

/-! ## Completing -/

/-- What is kept when a ticket that is about to be completed is settled, is kept when it is completed. -/
theorem completeWithin_keeps (Inv : Ledger → Prop) (Coming : Ledger → Ticket → Outcome → Prop)
    (settle : ∀ ledger ticket recipient outcome, Inv ledger → Coming ledger ticket outcome →
      ledger.pending? ticket = some recipient →
      Inv (ledger.settle ticket recipient outcome) ∧
        ∀ target passed, (ledger.settle ticket recipient outcome).passOn outcome recipient = some (target, passed) →
          Coming (ledger.settle ticket recipient outcome) target passed)
    (depth : Nat) (holds : Inv ledger) (coming : Coming ledger ticket outcome) :
    Inv (completeWithin depth ledger ticket outcome) := by
  induction depth generalizing ledger ticket outcome with
  | zero => exact holds
  | succ depth ih =>
    unfold completeWithin
    split
    case h_1 => exact holds
    case h_2 recipient pending =>
      obtain ⟨kept, next⟩ := settle ledger ticket recipient outcome holds coming pending
      dsimp only
      split
      case h_1 target passed on => exact ih kept (next target passed on)
      case h_2 => exact kept

/-- Nothing that a ledger keeps is lost or changed. -/
structure Extends (before after : Ledger) : Prop where
  slots : ∀ (ticket : Ticket) (recipient : Recipient) (outcome : Option Outcome),
    before.slots[ticket]? = some ⟨recipient, outcome⟩ →
      ∃ outcome', after.slots[ticket]? = some ⟨recipient, outcome'⟩ ∧ (outcome ≠ none → outcome' = outcome)
  failures : ∀ (message : MessageId) (error : SendError), before.failure message = some error → after.failure message = some error
  messages : before.failures.size ≤ after.failures.size

theorem Extends.refl (ledger : Ledger) : ledger.Extends ledger :=
  ⟨fun _ _ outcome slot => ⟨outcome, slot, fun _ => rfl⟩, fun _ _ failed => failed, Nat.le_refl _⟩

theorem Extends.trans {first second third : Ledger} (left : first.Extends second) (right : second.Extends third) :
    first.Extends third := by
  refine ⟨?_, fun message error failed => right.failures message error (left.failures message error failed),
    Nat.le_trans left.messages right.messages⟩
  intro ticket recipient outcome slot
  obtain ⟨middle, slot, same⟩ := left.slots ticket recipient outcome slot
  obtain ⟨last, slot, same'⟩ := right.slots ticket recipient middle slot
  refine ⟨last, slot, fun known => ?_⟩
  rw [← same known]
  exact same' (by rwa [same known])

theorem Extends.size_le {before after : Ledger} (more : before.Extends after) : before.slots.size ≤ after.slots.size := by
  refine Nat.le_of_not_lt fun fewer => ?_
  obtain ⟨_, slot, _⟩ := more.slots after.slots.size before.slots[after.slots.size].recipient
    before.slots[after.slots.size].outcome (Array.getElem?_eq_getElem fewer)
  rw [Array.getElem?_eq_none (Nat.le_refl _)] at slot
  cases slot

theorem Extends.outcome? {before after : Ledger} (more : before.Extends after) (known : before.outcome? ticket = some outcome) :
    after.outcome? ticket = some outcome := by
  obtain ⟨recipient, slot⟩ := outcome?_eq_some.mp known
  obtain ⟨kept, slot, same⟩ := more.slots ticket recipient _ slot
  rw [same nofun] at slot
  exact outcome?_eq_some.mpr ⟨recipient, slot⟩

theorem Extends.failed {before after : Ledger} {message : MessageId} (more : before.Extends after)
    (failed : before.failure message ≠ none) : after.failure message ≠ none := by
  obtain ⟨error, recorded⟩ := Option.ne_none_iff_exists'.mp failed
  rw [more.failures _ _ recorded]
  nofun

theorem extends_settle (pending : ledger.pending? ticket = some recipient) :
    ledger.Extends (ledger.settle ticket recipient outcome) := by
  refine ⟨?_, fun message error failed => failure_settle failed, Nat.le_of_eq size_failures_settle.symm⟩
  intro other recipient' kept slot
  by_cases same : other = ticket
  · subst same
    rw [pending?_eq_some.mp pending] at slot
    cases slot
    exact ⟨_, slot_settle_self pending, fun known => absurd rfl known⟩
  · exact ⟨kept, by rw [slot_settle_of_ne same]; exact slot, fun _ => rfl⟩

theorem extends_complete (ledger : Ledger) (ticket : Ticket) (outcome : Outcome) :
    ledger.Extends (ledger.complete ticket outcome) :=
  completeWithin_keeps ledger.Extends (fun _ _ _ => True)
    (fun _ _ _ _ before _ pending => ⟨before.trans (extends_settle pending), fun _ _ _ => trivial⟩)
    _ (.refl ledger) trivial

/-- A ticket that is still pending gets the outcome that it is completed with. -/
theorem outcome?_completeWithin (pending : ledger.pending? ticket = some recipient) (depth : Nat) :
    (completeWithin (depth + 1) ledger ticket outcome).outcome? ticket = some outcome := by
  have settled : (ledger.settle ticket recipient outcome).outcome? ticket = some outcome :=
    outcome?_eq_some.mpr ⟨recipient, slot_settle_self pending⟩
  unfold completeWithin
  rw [pending]
  dsimp only
  split
  case h_1 target passed on =>
    refine Extends.outcome? ?_ settled
    exact completeWithin_keeps (Extends _) (fun _ _ _ => True)
      (fun _ _ _ _ before _ pending => ⟨before.trans (extends_settle pending), fun _ _ _ => trivial⟩)
      _ (.refl _) trivial
  case h_2 => exact settled

theorem outcome?_complete (pending : ledger.pending? ticket = some recipient) :
    (ledger.complete ticket outcome).outcome? ticket = some outcome :=
  outcome?_completeWithin pending ticket

/-- A ticket that was issued has an outcome once it is completed. -/
theorem outcome?_isSome_complete (issued : ticket < ledger.slots.size) (outcome : Outcome) :
    ((ledger.complete ticket outcome).outcome? ticket).isSome := by
  cases pending : ledger.pending? ticket with
  | none =>
    obtain ⟨kept, known⟩ := Option.isSome_iff_exists.mp (outcome?_isSome_of_not_pending issued pending)
    rw [(extends_complete ledger ticket outcome).outcome? known]
    rfl
  | some recipient =>
    rw [outcome?_complete pending]
    rfl

/-- A ticket without an outcome takes the one it is completed with. -/
theorem outcome?_complete_of_unknown (issued : ticket < ledger.slots.size) (unknown : ledger.outcome? ticket = none)
    (outcome : Outcome) : (ledger.complete ticket outcome).outcome? ticket = some outcome := by
  cases pending : ledger.pending? ticket with
  | some recipient => exact outcome?_complete pending
  | none =>
    have known := outcome?_isSome_of_not_pending issued pending
    rw [unknown] at known
    cases known

/-- A ticket that is completed keeps its first outcome. -/
theorem outcome?_complete_self (issued : ticket < ledger.slots.size) (outcome : Outcome) :
    (ledger.complete ticket outcome).outcome? ticket = some ((ledger.outcome? ticket).getD outcome) := by
  cases known : ledger.outcome? ticket with
  | none => exact outcome?_complete_of_unknown issued known outcome
  | some first => exact (extends_complete ledger ticket outcome).outcome? known

/-! ## Telling and passing on -/

/-- Every ticket leads to older tickets only, and the application has been told the outcome of each ticket once. -/
structure Told (ledger : Ledger) : Prop where
  older : ∀ (ticket : Ticket) (slot : Slot) (target : Ticket), ledger.slots[ticket]? = some slot →
    slot.recipient.next? = some target → target < ticket
  told : ∀ (ticket : Ticket), ledger.about ticket =
    match ledger.slots[ticket]? with
    | some ⟨recipient, some outcome⟩ => if recipient.tells then [(ticket, outcome)] else []
    | _ => []

/-- Besides, outcomes have been passed on. -/
structure Sound (ledger : Ledger) : Prop extends Told ledger where
  passed : ∀ (ticket : Ticket) (recipient : Recipient) (outcome : Outcome) (target : Ticket),
    ledger.slots[ticket]? = some ⟨recipient, some outcome⟩ → recipient.next? = some target →
      (ledger.outcome? target).isSome

theorem sound_empty : empty.Sound := by
  refine ⟨⟨?_, ?_⟩, ?_⟩
  · intro ticket slot target issued
    simp [empty] at issued
  · intro ticket
    simp [empty, about]
  · intro ticket recipient outcome target issued
    simp [empty] at issued

theorem outcome?_settle_cases {recipient : Recipient} {other : Ticket} {outcome kept : Outcome}
    (pending : ledger.pending? other = some recipient)
    (known : (ledger.settle other recipient outcome).outcome? ticket = some kept) :
    (other = ticket ∧ kept = outcome) ∨ ledger.outcome? ticket = some kept := by
  obtain ⟨recipient', slot⟩ := outcome?_eq_some.mp known
  by_cases same : other = ticket
  · subst same
    rw [slot_settle_self pending] at slot
    cases slot
    exact .inl ⟨rfl, rfl⟩
  · rw [slot_settle_of_ne (Ne.symm same)] at slot
    exact .inr (outcome?_eq_some.mpr ⟨recipient', slot⟩)

/-- The slots that are there, and whom they lead to, stay when a ticket is settled. -/
theorem slot_before_settle (pending : ledger.pending? ticket = some recipient) {other : Ticket} {slot : Slot}
    (after : (ledger.settle ticket recipient outcome).slots[other]? = some slot) :
    ∃ before, ledger.slots[other]? = some before ∧ slot.recipient = before.recipient := by
  by_cases same : other = ticket
  · subst same
    rw [slot_settle_self pending] at after
    cases after
    exact ⟨_, pending?_eq_some.mp pending, rfl⟩
  · rw [slot_settle_of_ne same] at after
    exact ⟨slot, after, rfl⟩

theorem Told.settle (holds : ledger.Told) (pending : ledger.pending? ticket = some recipient) :
    (ledger.settle ticket recipient outcome).Told := by
  constructor
  · intro other slot target after next
    obtain ⟨before, issued, same⟩ := slot_before_settle pending after
    exact holds.older other before target issued (same ▸ next)
  · intro other
    rw [about_settle, holds.told other]
    by_cases same : other = ticket
    · subst same
      rw [slot_settle_self pending, pending?_eq_some.mp pending]
      simp
    · rw [slot_settle_of_ne same]
      simp [Ne.symm same]

/-- Outcomes have been passed on, except that one may still be on its way to a ticket. -/
def PassedBut (ledger : Ledger) (coming : Ticket) : Prop :=
  ∀ (ticket : Ticket) (recipient : Recipient) (outcome : Outcome) (target : Ticket),
    ledger.slots[ticket]? = some ⟨recipient, some outcome⟩ → recipient.next? = some target →
      target = coming ∨ (ledger.outcome? target).isSome

theorem passed_settle (holds : ledger.PassedBut ticket) (pending : ledger.pending? ticket = some recipient)
    {coming : Ticket} (next : ∀ target, recipient.next? = some target → target = coming) :
    (ledger.settle ticket recipient outcome).PassedBut coming := by
  intro other recipient' kept target after leads
  by_cases same : other = ticket
  · subst same
    rw [slot_settle_self pending] at after
    cases after
    exact .inl (next target leads)
  · rw [slot_settle_of_ne same] at after
    refine .inr ?_
    rcases holds other recipient' kept target after leads with rfl | known
    · rw [outcome?_eq_some.mpr ⟨recipient, slot_settle_self pending⟩]
      rfl
    · obtain ⟨outcome', known⟩ := Option.isSome_iff_exists.mp known
      rw [(extends_settle pending).outcome? known]
      rfl

theorem passed_completeWithin {depth : Nat} (told : ledger.Told) (issued : ticket < ledger.slots.size)
    (enough : ticket < depth) (holds : ledger.PassedBut ticket) :
    ∀ coming, (completeWithin depth ledger ticket outcome).PassedBut coming := by
  induction depth generalizing ledger ticket outcome with
  | zero => exact absurd enough (Nat.not_lt_zero _)
  | succ depth ih =>
    intro coming
    unfold completeWithin
    split
    case h_1 done =>
      intro other recipient kept target slot leads
      rcases holds other recipient kept target slot leads with rfl | known
      · exact .inr (outcome?_isSome_of_not_pending issued done)
      · exact .inr known
    case h_2 recipient pending =>
      dsimp only
      split
      case h_1 target passed on =>
        have next := passOn_eq on
        have older := told.older ticket _ target (pending?_eq_some.mp pending) next
        refine ih (told.settle pending) ?_ (Nat.lt_of_lt_of_le older (Nat.le_of_lt_succ enough))
          (passed_settle holds pending ?_) coming
        · rw [slots_settle, Array.size_setIfInBounds]
          exact Nat.lt_trans older issued
        · intro other leads
          rw [next] at leads
          exact (Option.some.inj leads).symm
      case h_2 on =>
        refine passed_settle holds pending ?_
        intro target leads
        rw [passOn_none on] at leads
        cases leads

theorem Sound.complete (sound : ledger.Sound) (ticket : Ticket) (outcome : Outcome) :
    (ledger.complete ticket outcome).Sound := by
  have after : (ledger.complete ticket outcome).Told :=
    completeWithin_keeps Told (fun _ _ _ => True)
      (fun _ _ _ _ holds _ pending => ⟨holds.settle pending, fun _ _ _ => trivial⟩) _ sound.toTold trivial
  refine ⟨after, ?_⟩
  by_cases issued : ticket < ledger.slots.size
  · intro other recipient kept target slot leads
    have holds : ledger.PassedBut ticket :=
      fun other recipient kept target slot leads => .inr (sound.passed other recipient kept target slot leads)
    have size : target < other := after.older other _ target slot leads
    -- no ticket is its own target, so the exception can be put where it says nothing
    rcases passed_completeWithin sound.toTold issued (Nat.lt_succ_self ticket) holds other other recipient kept target slot
      leads with same | known
    · exact absurd same (Nat.ne_of_lt size)
    · exact known
  · have unissued : ledger.pending? ticket = none := by
      unfold pending?
      rw [Array.getElem?_eq_none (Nat.not_lt.mp issued)]
    have same : ledger.complete ticket outcome = ledger := by
      unfold Ledger.complete completeWithin
      rw [unissued]
    rw [same]
    exact sound.passed

/-! ## Everything that happens to a ledger -/

theorem slots_issue (ledger : Ledger) (recipient : Recipient) (other : Ticket) :
    (ledger.issue recipient).2.slots[other]? =
      if other = ledger.slots.size then some ⟨recipient, none⟩ else ledger.slots[other]? :=
  Array.getElem?_push

/-- After a ticket was issued, a slot is the new one or was there before. -/
theorem slot_of_issue {own : Ticket} {slot : Slot} (there : (ledger.issue recipient).2.slots[own]? = some slot) :
    own = ledger.slots.size ∧ slot = ⟨recipient, none⟩ ∨ ledger.slots[own]? = some slot := by
  rw [slots_issue] at there
  split at there
  case isTrue new =>
    cases there
    exact .inl ⟨new, rfl⟩
  case isFalse => exact .inr there

theorem pending?_of_issue {own : Ticket} {waits : Recipient}
    (pending : (ledger.issue recipient).2.pending? own = some waits) :
    own = ledger.slots.size ∧ waits = recipient ∨ ledger.pending? own = some waits := by
  rcases slot_of_issue (pending?_eq_some.mp pending) with ⟨new, same⟩ | old
  · cases same
    exact .inl ⟨new, rfl⟩
  · exact .inr (pending?_eq_some.mpr old)

/-- A new ticket waits. -/
theorem pending?_issue_self (ledger : Ledger) (recipient : Recipient) :
    (ledger.issue recipient).2.pending? ledger.slots.size = some recipient := by
  rw [pending?_eq_some, slots_issue, if_pos rfl]

/-- A ticket that waits does so when another is issued. -/
theorem pending?_issue {waits : Recipient} (pending : ledger.pending? ticket = some waits) (recipient : Recipient) :
    (ledger.issue recipient).2.pending? ticket = some waits := by
  have slot := pending?_eq_some.mp pending
  have issued := (Array.getElem?_eq_some_iff.mp slot).1
  rw [pending?_eq_some, slots_issue, if_neg (Nat.ne_of_lt issued), slot]

/-- A new ticket has no outcome. -/
theorem outcome?_of_issue {recipient : Recipient} {own : Ticket} {outcome : Outcome}
    (known : (ledger.issue recipient).2.outcome? own = some outcome) : ledger.outcome? own = some outcome := by
  obtain ⟨whose, slot⟩ := outcome?_eq_some.mp known
  rcases slot_of_issue slot with ⟨_, same⟩ | old
  · cases same
  · exact outcome?_eq_some.mpr ⟨whose, old⟩

theorem Sound.issue (sound : ledger.Sound) (older : ∀ target, recipient.next? = some target → target < ledger.slots.size) :
    (ledger.issue recipient).2.Sound := by
  have pushed := ledger.slots_issue recipient
  refine ⟨⟨?_, ?_⟩, ?_⟩
  · intro other slot target issued next
    rw [pushed] at issued
    split at issued
    case isTrue same =>
      cases issued
      rw [same]
      exact older target next
    case isFalse => exact sound.older other slot target issued next
  · intro other
    rw [pushed]
    have before := sound.told other
    by_cases same : other = ledger.slots.size
    · rw [Array.getElem?_eq_none (Nat.le_of_eq same.symm)] at before
      rw [if_pos same]
      exact before
    · rw [if_neg same]
      exact before
  · intro other recipient' outcome target issued next
    rw [pushed] at issued
    split at issued
    case isTrue => cases issued
    case isFalse =>
      obtain ⟨kept, known⟩ := Option.isSome_iff_exists.mp (sound.passed other recipient' outcome target issued next)
      obtain ⟨whose, slot⟩ := outcome?_eq_some.mp known
      have apart : target ≠ ledger.slots.size := by
        rintro rfl
        rw [Array.getElem?_eq_none (Nat.le_refl _)] at slot
        cases slot
      have still : (ledger.issue recipient).2.outcome? target = some kept :=
        outcome?_eq_some.mpr ⟨whose, by rw [pushed, if_neg apart]; exact slot⟩
      rw [still]
      rfl

theorem Sound.of_slots {after : Ledger} (sound : ledger.Sound) (slots : after.slots = ledger.slots)
    (reports : after.reports = ledger.reports) : after.Sound := by
  refine ⟨⟨?_, ?_⟩, ?_⟩
  · rw [slots]
    exact sound.older
  · rw [slots]
    intro ticket
    rw [about, reports]
    exact sound.told ticket
  · intro ticket recipient outcome target
    rw [Ledger.outcome?, slots]
    exact sound.passed ticket recipient outcome target

theorem extends_of_slots {after : Ledger} (slots : after.slots = ledger.slots)
    (failures : ∀ message error, ledger.failure message = some error → after.failure message = some error)
    (messages : ledger.failures.size ≤ after.failures.size) : ledger.Extends after :=
  ⟨fun _ _ outcome issued => ⟨outcome, slots ▸ issued, fun _ => rfl⟩, failures, messages⟩

theorem extends_issue (ledger : Ledger) (recipient : Recipient) : ledger.Extends (ledger.issue recipient).2 := by
  refine ⟨?_, fun _ _ failed => failed, Nat.le_refl _⟩
  intro ticket recipient' outcome slot
  obtain ⟨issued, _⟩ := Array.getElem?_eq_some_iff.mp slot
  exact ⟨outcome, (Array.getElem?_push_lt issued).trans (by rw [← Array.getElem?_eq_getElem issued, slot]), fun _ => rfl⟩

theorem failure_beginMessage {message : MessageId} {error : SendError} (failed : ledger.failure message = some error) :
    ledger.beginMessage.2.failure message = some error := by
  have inside : message < ledger.failures.size := by
    rcases Nat.lt_or_ge message ledger.failures.size with inside | past
    · exact inside
    · rw [failure, Array.getElem?_eq_none past] at failed
      cases failed
  show ((ledger.failures.push none)[message]?).join = some error
  rw [Array.getElem?_push_lt inside, ← Array.getElem?_eq_getElem inside]
  exact failed

inductive Deed where
  | issue (recipient : Recipient)
  | beginMessage
  | recordFailure (message : MessageId) (error : SendError)
  | complete (ticket : Ticket) (outcome : Outcome)

def after (ledger : Ledger) : Deed → Ledger
  | .issue recipient => (ledger.issue recipient).2
  | .beginMessage => ledger.beginMessage.2
  | .recordFailure message error => ledger.recordFailure message error
  | .complete ticket outcome => ledger.complete ticket outcome

theorem extends_after (ledger : Ledger) (deed : Deed) : ledger.Extends (ledger.after deed) := by
  cases deed with
  | issue recipient => exact extends_issue ledger recipient
  | beginMessage =>
    refine extends_of_slots rfl (fun _ _ failed => failure_beginMessage failed) ?_
    exact Nat.le_trans (Nat.le_succ _) (Nat.le_of_eq (Array.size_push none).symm)
  | recordFailure message error =>
    exact extends_of_slots (slots_recordFailure _ _) (fun _ _ failed => failure_recordFailure failed message error)
      (Nat.le_of_eq (size_failures_recordFailure message error).symm)
  | complete ticket outcome => exact extends_complete ledger ticket outcome

/-- A new ticket leads to tickets that were issued before. -/
def Proper (ledger : Ledger) : Deed → Prop
  | .issue recipient => ∀ target, recipient.next? = some target → target < ledger.slots.size
  | _ => True

/-- What a ledger comes to by deeds of some kind. -/
inductive Evolves (May : Deed → Prop) : Ledger → Ledger → Prop where
  | refl (ledger : Ledger) : Evolves May ledger ledger
  | step {first second : Ledger} (before : Evolves May first second) (deed : Deed) (proper : second.Proper deed)
      (may : May deed) : Evolves May first (second.after deed)

/-- The ledgers that come about. -/
def Reached (ledger : Ledger) : Prop := Evolves (fun _ => True) empty ledger

namespace Evolves

variable {May : Deed → Prop} {first second third : Ledger}

theorem one (deed : Deed) (proper : first.Proper deed) (may : May deed) : Evolves May first (first.after deed) :=
  .step (.refl first) deed proper may

theorem trans (left : Evolves May first second) (right : Evolves May second third) : Evolves May first third := by
  induction right with
  | refl => exact left
  | step _ deed proper may ih => exact .step ih deed proper may

theorem keeps (Inv : Ledger → Prop) (step : ∀ ledger deed, Inv ledger → ledger.Proper deed → May deed → Inv (ledger.after deed))
    (evolves : Evolves May first second) (holds : Inv first) : Inv second := by
  induction evolves with
  | refl => exact holds
  | step _ deed proper may ih => exact step _ deed ih proper may

theorem sound (evolves : Evolves May first second) (holds : first.Sound) : second.Sound := by
  refine evolves.keeps Sound ?_ holds
  intro ledger deed holds proper _
  cases deed with
  | issue recipient => exact holds.issue proper
  | beginMessage => exact holds.of_slots rfl rfl
  | recordFailure message error => exact holds.of_slots (slots_recordFailure _ _) (reports_recordFailure _ _)
  | complete ticket outcome => exact holds.complete ticket outcome

theorem extended (evolves : Evolves May first second) : first.Extends second :=
  evolves.keeps first.Extends (fun ledger deed before _ _ => before.trans (ledger.extends_after deed)) (.refl first)

theorem completeEach (ledger : Ledger) (completions : List (Ticket × Outcome))
    (may : ∀ completion ∈ completions, May (.complete completion.1 completion.2)) :
    Evolves May ledger (ledger.completeEach completions) := by
  induction completions generalizing ledger with
  | nil => exact .refl ledger
  | cons completion completions ih =>
    have first : Evolves May ledger (ledger.complete completion.1 completion.2) :=
      .one (.complete completion.1 completion.2) trivial (may completion List.mem_cons_self)
    exact first.trans (ih _ fun later member => may later (List.mem_cons_of_mem _ member))

end Evolves

theorem extends_completeEach (ledger : Ledger) (completions : List (Ticket × Outcome)) :
    ledger.Extends (ledger.completeEach completions) :=
  (Evolves.completeEach ledger completions fun _ _ => trivial : Evolves (fun _ => True) _ _).extended

/-- Of issued tickets that are completed, each has an outcome. -/
theorem outcome?_isSome_completeEach {completions : List (Ticket × Outcome)} {completion : Ticket × Outcome}
    (member : completion ∈ completions) (issued : completion.1 < ledger.slots.size) :
    ((ledger.completeEach completions).outcome? completion.1).isSome := by
  obtain ⟨front, back, rfl⟩ := List.append_of_mem member
  have first := ledger.extends_completeEach front
  have known := outcome?_isSome_complete (Nat.lt_of_lt_of_le issued first.size_le) completion.2
  obtain ⟨outcome, known⟩ := Option.isSome_iff_exists.mp known
  have rest := ((ledger.completeEach front).complete completion.1 completion.2).extends_completeEach back
  have split : ledger.completeEach (front ++ completion :: back) =
      ((ledger.completeEach front).complete completion.1 completion.2).completeEach back := by
    simp [completeEach]
  rw [split, rest.outcome? known]
  rfl

theorem Reached.sound (reached : ledger.Reached) : ledger.Sound := Evolves.sound reached sound_empty

/-- An outcome of the first ticket is passed on to the second, in any number of steps. -/
inductive LeadsTo (ledger : Ledger) : Ticket → Ticket → Prop where
  | refl (ticket : Ticket) : LeadsTo ledger ticket ticket
  | step {ticket target last : Ticket} {slot : Slot} (issued : ledger.slots[ticket]? = some slot)
      (next : slot.recipient.next? = some target) (rest : LeadsTo ledger target last) : LeadsTo ledger ticket last

theorem LeadsTo.trans {first second third : Ticket} (left : ledger.LeadsTo first second)
    (right : ledger.LeadsTo second third) : ledger.LeadsTo first third := by
  induction left with
  | refl => exact right
  | step issued next _ ih => exact .step issued next (ih right)

theorem LeadsTo.later {before after : Ledger} {first second : Ticket} (leads : before.LeadsTo first second)
    (more : before.Extends after) : after.LeadsTo first second := by
  induction leads with
  | refl => exact .refl _
  | @step ticket target last slot issued next _ ih =>
    obtain ⟨outcome, kept, _⟩ := more.slots ticket slot.recipient slot.outcome issued
    exact .step kept next ih

/-- Where an outcome is known, it is known wherever it leads. -/
theorem Sound.outcome?_isSome_of_leadsTo (sound : ledger.Sound) {first second : Ticket} (leads : ledger.LeadsTo first second)
    (known : (ledger.outcome? first).isSome) : (ledger.outcome? second).isSome := by
  induction leads with
  | refl => exact known
  | @step ticket target last slot issued next _ ih =>
    obtain ⟨outcome, known⟩ := Option.isSome_iff_exists.mp known
    obtain ⟨recipient, kept⟩ := outcome?_eq_some.mp known
    rw [kept] at issued
    cases issued
    exact ih (sound.passed ticket recipient outcome target kept next)

end Ledger
end Egress
