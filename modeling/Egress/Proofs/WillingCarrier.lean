import Egress.Proofs.CompletedMessages
import Egress.Proofs.FirstFailure

/-!
Carriers that take everything. A carrier is willing as long as it takes every frame and reports no failure; when it completes
a ticket, and which one, is its own affair. Over such a carrier a message that has just begun does not fail: outcomes travel
to older tickets only, and no other ticket leads to its fragments.
-/
namespace Egress

/-- A carrier has completed some tickets with success, and is in a good state. -/
structure Carrier.Pleases {σ : Type} (Well : σ → Prop) (ledger : Ledger) (carrier : σ) (after : Ledger) : Prop where
  well : Well carrier
  completed : ∃ completions, after = ledger.completeEach completions ∧ ∀ completion ∈ completions, completion.2 = .ok ()

/-- From a good state a carrier takes every frame, completes with success only, and comes to a good state again. -/
structure Carrier.Willing {σ : Type} [Carrier σ] (Well : σ → Prop) : Prop where
  accepts : ∀ (carrier : σ), Well carrier → ∀ (ledger : Ledger) (frame : Frame) (ticket : Ticket) (mode : BatchMode),
    (Carrier.sendFrame carrier ledger frame ticket mode).1 = .ok ()
  sendFrame : ∀ (carrier : σ), Well carrier → ∀ (ledger : Ledger) (frame : Frame) (ticket : Ticket) (mode : BatchMode),
    Carrier.Pleases Well ledger (Carrier.sendFrame carrier ledger frame ticket mode).2.1
      (Carrier.sendFrame carrier ledger frame ticket mode).2.2
  work : ∀ (carrier : σ), Well carrier → ∀ ledger : Ledger,
    Carrier.Pleases Well ledger (Carrier.work carrier ledger).1 (Carrier.work carrier ledger).2

/-- A log makes a carrier neither more nor less willing. -/
theorem Carrier.Willing.logged {σ : Type} [Carrier σ] {Well : σ → Prop} (willing : Carrier.Willing Well) :
    Carrier.Willing fun logged : Logged σ => Well logged.carrier where
  accepts logged well ledger frame ticket mode := willing.accepts logged.carrier well ledger frame ticket mode
  sendFrame logged well ledger frame ticket mode := by
    obtain ⟨kept, completed⟩ := willing.sendFrame logged.carrier well ledger frame ticket mode
    exact ⟨kept, completed⟩
  work logged well ledger := by
    obtain ⟨kept, completed⟩ := willing.work logged.carrier well ledger
    exact ⟨kept, completed⟩

/-- A reaction that reports no failure. -/
def Reaction.Friendly : Reaction → Prop
  | .complete outcome | .release outcome => outcome = .ok ()
  | .keep => True

namespace ScriptedCarrier

/-- The script says to take every frame, and to report no failure. -/
structure Agrees (carrier : ScriptedCarrier) : Prop where
  unplanned : carrier.nextReplies = []
  takes : carrier.frameReply.verdict = .ok ()
  friendly : ∀ reaction ∈ carrier.frameReply.reactions, reaction.Friendly

variable {carrier : ScriptedCarrier}

theorem Agrees.react (agrees : carrier.Agrees) (ledger : Ledger) (ticket : Ticket) {reaction : Reaction}
    (friendly : reaction.Friendly) :
    Carrier.Pleases Agrees ledger (carrier.react ledger ticket reaction).1 (carrier.react ledger ticket reaction).2 := by
  obtain ⟨unplanned, takes, all⟩ := agrees
  cases reaction with
  | complete outcome => exact ⟨⟨unplanned, takes, all⟩, [(ticket, outcome)], rfl, List.forall_mem_singleton.mpr friendly⟩
  | keep => exact ⟨⟨unplanned, takes, all⟩, [], rfl, nofun⟩
  | release outcome =>
    unfold ScriptedCarrier.react
    dsimp only
    split
    · rename_i oldest rest kept
      exact ⟨⟨unplanned, takes, all⟩, [(oldest, outcome)], rfl, List.forall_mem_singleton.mpr friendly⟩
    · exact ⟨⟨unplanned, takes, all⟩, [], rfl, nofun⟩

theorem Agrees.reactAll (agrees : carrier.Agrees) (ledger : Ledger) (ticket : Ticket) {reactions : List Reaction}
    (friendly : ∀ reaction ∈ reactions, reaction.Friendly) :
    Carrier.Pleases Agrees ledger (carrier.reactAll ledger ticket reactions).1
      (carrier.reactAll ledger ticket reactions).2 := by
  induction reactions generalizing carrier ledger with
  | nil => exact ⟨agrees, [], rfl, nofun⟩
  | cons reaction reactions ih =>
    obtain ⟨well, front, first, fronts⟩ := agrees.react ledger ticket (friendly reaction List.mem_cons_self)
    obtain ⟨last, back, second, backs⟩ := ih well (carrier.react ledger ticket reaction).2
      fun later member => friendly later (List.mem_cons_of_mem _ member)
    refine ⟨last, front ++ back, ?_, ?_⟩
    · show ((carrier.react ledger ticket reaction).1.reactAll (carrier.react ledger ticket reaction).2 ticket reactions).2 = _
      rw [second, first, Ledger.completeEach, Ledger.completeEach, Ledger.completeEach, List.foldl_append]
    · intro completion member
      rcases List.mem_append.mp member with early | late
      · exact fronts completion early
      · exact backs completion late

theorem willing : Carrier.Willing Agrees where
  accepts carrier agrees ledger frame ticket mode := by
    show (carrier.takeFrame ledger frame ticket mode).1 = _
    rw [takeFrame, agrees.unplanned]
    exact agrees.takes
  sendFrame carrier agrees ledger frame ticket mode := by
    show Carrier.Pleases _ ledger (carrier.takeFrame ledger frame ticket mode).2.1
      (carrier.takeFrame ledger frame ticket mode).2.2
    rw [takeFrame, agrees.unplanned]
    have offered : Agrees { carrier with offers := carrier.offers.push (.frame frame mode) } :=
      ⟨agrees.unplanned, agrees.takes, agrees.friendly⟩
    exact offered.reactAll ledger ticket agrees.friendly
  work carrier agrees ledger := ⟨agrees, [], rfl, nofun⟩

end ScriptedCarrier

namespace Ledger

variable {ledger : Ledger} {message : MessageId}

/-- The message has not failed, and no ticket leads to a fragment of it. -/
structure Quiet (message : MessageId) (ledger : Ledger) : Prop where
  unfailed : ledger.failure message = none
  older : ∀ (own : Ticket) (slot : Slot) (target : Ticket), ledger.slots[own]? = some slot →
    slot.recipient.next? = some target → target < own
  unled : ∀ (own : Ticket) (slot : Slot) (target : Ticket) (led : Slot), ledger.slots[own]? = some slot →
    slot.recipient.next? = some target → ledger.slots[target]? = some led → led.recipient ≠ .fragment message

theorem Quiet.settle (quiet : ledger.Quiet message) {ticket : Ticket} {recipient : Recipient} {outcome : Outcome}
    (pending : ledger.pending? ticket = some recipient) (harmless : outcome = .ok () ∨ recipient ≠ .fragment message) :
    (ledger.settle ticket recipient outcome).Quiet message := by
  refine ⟨?_, ?_, ?_⟩
  · rcases harmless with rfl | apart
    · have unchanged : (ledger.settle ticket recipient (.ok ())).failure message = ledger.failure message := by
        cases recipient <;> rfl
      exact unchanged.trans quiet.unfailed
    · exact (failure_settle_of_ne apart).trans quiet.unfailed
  · intro own slot target there leads
    obtain ⟨before, issued, same⟩ := slot_before_settle pending there
    exact quiet.older own before target issued (same ▸ leads)
  · intro own slot target led there leads reached
    obtain ⟨before, issued, same⟩ := slot_before_settle pending there
    obtain ⟨old, known, equal⟩ := slot_before_settle pending reached
    rw [equal]
    exact quiet.unled own before target old issued (same ▸ leads) known

/-- A success that comes to a fragment does no harm, and what becomes of it on the way does not come to a fragment. -/
theorem Quiet.complete (quiet : ledger.Quiet message) (ticket : Ticket) : (ledger.complete ticket (.ok ())).Quiet message := by
  refine completeWithin_keeps (fun later => later.Quiet message)
    (fun later coming outcome => outcome = .ok () ∨ later.pending? coming ≠ some (.fragment message)) ?_ _ quiet (.inl rfl)
  intro later coming recipient outcome quiet harmless pending
  rw [pending] at harmless
  refine ⟨quiet.settle pending (harmless.imp_right fun apart same => apart (congrArg some same)), ?_⟩
  intro target passed on
  refine .inr fun waits => ?_
  have before := pending?_of_settle pending waits
  exact quiet.unled coming _ target _ (pending?_eq_some.mp pending) (passOn_eq on) (pending?_eq_some.mp before) rfl

theorem Quiet.completeEach (quiet : ledger.Quiet message) {completions : List (Ticket × Outcome)}
    (successes : ∀ completion ∈ completions, completion.2 = .ok ()) : (ledger.completeEach completions).Quiet message := by
  induction completions generalizing ledger with
  | nil => exact quiet
  | cons completion completions ih =>
    refine ih ?_ fun later member => successes later (List.mem_cons_of_mem _ member)
    show (ledger.complete completion.1 completion.2).Quiet message
    rw [successes completion List.mem_cons_self]
    exact quiet.complete completion.1

theorem Quiet.issue (quiet : ledger.Quiet message) {recipient : Recipient} (nowhere : recipient.next? = none) :
    (ledger.issue recipient).2.Quiet message := by
  refine ⟨quiet.unfailed, ?_, ?_⟩
  · intro own slot target there leads
    rcases slot_of_issue there with ⟨_, rfl⟩ | old
    · rw [nowhere] at leads
      cases leads
    · exact quiet.older own slot target old leads
  · intro own slot target led there leads reached
    rcases slot_of_issue there with ⟨_, rfl⟩ | old
    · rw [nowhere] at leads
      cases leads
    · have issued : own < ledger.slots.size := (Array.getElem?_eq_some_iff.mp old).1
      have apart : target ≠ ledger.slots.size := Nat.ne_of_lt (Nat.lt_trans (quiet.older own slot target old leads) issued)
      rcases slot_of_issue reached with ⟨new, _⟩ | known
      · exact absurd new apart
      · exact quiet.unled own slot target led old leads known

/-- A message that no ticket is a part of. -/
theorem quiet_of_unheard (told : ledger.Told) (unheard : ledger.Unheard message) (unfailed : ledger.failure message = none) :
    ledger.Quiet message := by
  refine ⟨unfailed, told.older, ?_⟩
  intro own slot target led _ _ reached fragment
  exact unheard target led reached (by rw [fragment]; rfl)

/-- The next message has not failed. -/
theorem failure_next (ledger : Ledger) : ledger.failure ledger.failures.size = none := by
  rw [failure, Array.getElem?_size]
  rfl

/-- A message that is begun has no fragments yet. -/
theorem quiet_beginMessage (told : ledger.Told) (unheard : ledger.Unheard ledger.failures.size) :
    ledger.beginMessage.2.Quiet ledger.failures.size := by
  obtain ⟨unfailed, older, unled⟩ := quiet_of_unheard told unheard ledger.failure_next
  exact ⟨(failure_beginMessage_eq ledger ledger.failures.size).trans unfailed, older, unled⟩

end Ledger
end Egress
