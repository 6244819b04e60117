import Egress.Proofs.InTurn
import Egress.Proofs.Traffic

/-!
Carriers that complete in order. An orderly carrier may refuse what it likes and complete when it likes, but it completes
what it took in the order in which it took it; what it refuses it leaves to the sender. The scheduled writer is one.
-/
namespace Egress

/-- A carrier has completed the first of the tickets in a line, and holds the others. -/
def Carrier.Passes {σ : Type} [Carrier σ] (line : List Ticket) (ledger : Ledger) (carrier : σ) (after : Ledger) : Prop :=
  ∃ completions, after = ledger.completeEach completions ∧ completions.map Prod.fst ++ Carrier.held carrier = line

/-- A carrier that completes in order what it takes. -/
class OrderlyCarrier (σ : Type) [Carrier σ] : Prop where
  accepts : ∀ (carrier : σ) (ledger : Ledger) (frame : Frame) (ticket : Ticket) (mode : BatchMode),
    (Carrier.sendFrame carrier ledger frame ticket mode).1 = .ok () →
      Carrier.Passes (Carrier.held carrier ++ [ticket]) ledger (Carrier.sendFrame carrier ledger frame ticket mode).2.1
        (Carrier.sendFrame carrier ledger frame ticket mode).2.2
  refuses : ∀ (carrier : σ) (ledger : Ledger) (frame : Frame) (ticket : Ticket) (mode : BatchMode) (error : SendError),
    (Carrier.sendFrame carrier ledger frame ticket mode).1 = .error error →
      Carrier.Passes (Carrier.held carrier) ledger (Carrier.sendFrame carrier ledger frame ticket mode).2.1
        (Carrier.sendFrame carrier ledger frame ticket mode).2.2
  works : ∀ (carrier : σ) (ledger : Ledger),
    Carrier.Passes (Carrier.held carrier) ledger (Carrier.work carrier ledger).1 (Carrier.work carrier ledger).2

theorem Carrier.Passes.minds {σ : Type} [Carrier σ] {line : List Ticket} {ledger after : Ledger} {carrier : σ}
    (passes : Carrier.Passes line ledger carrier after) {own : Ticket → Prop} (owned : ∀ ticket ∈ line, own ticket) :
    Carrier.Minds own ledger carrier after := by
  obtain ⟨completions, same, rfl⟩ := passes
  refine ⟨⟨completions, same, fun completion member => ?_⟩, fun ticket member => ?_⟩
  · exact owned completion.1 (List.mem_append_left _ (List.mem_map_of_mem member))
  · exact owned ticket (List.mem_append_right _ member)

instance {σ : Type} [Carrier σ] [OrderlyCarrier σ] : LawfulCarrier σ where
  sendFrame carrier ledger frame ticket mode := by
    cases verdict : (Carrier.sendFrame carrier ledger frame ticket mode).1 with
    | ok =>
      refine (OrderlyCarrier.accepts carrier ledger frame ticket mode verdict).minds fun own member => ?_
      rcases List.mem_append.mp member with held | new
      · exact .inr held
      · exact .inl (List.mem_singleton.mp new)
    | error error =>
      exact (OrderlyCarrier.refuses carrier ledger frame ticket mode error verdict).minds fun _ held => .inr held
  work carrier ledger := (OrderlyCarrier.works carrier ledger).minds fun _ held => held

instance {σ : Type} [Carrier σ] [OrderlyCarrier σ] : OrderlyCarrier (Logged σ) where
  accepts logged ledger frame ticket mode taken :=
    OrderlyCarrier.accepts logged.carrier ledger frame ticket mode taken
  refuses logged ledger frame ticket mode error refused :=
    OrderlyCarrier.refuses logged.carrier ledger frame ticket mode error refused
  works logged ledger := OrderlyCarrier.works logged.carrier ledger

namespace Scheduled

variable {key : Nat → Option MaskKey}

theorem passes_of_carries {before after : Scheduled key} {ledger later : Ledger} {sent : List Command}
    (carries : Traffic.Carries sent ⟨before.history, ledger⟩ ⟨after.history, later⟩) :
    Carrier.Passes (Carrier.held before ++ sent.map Command.ticket) ledger after later := by
  obtain ⟨completions, _, same, tickets⟩ := carries.completes before.arises.sound after.arises.sound
  exact ⟨completions, same, tickets⟩

instance : OrderlyCarrier (Scheduled key) where
  accepts scheduled ledger frame ticket mode taken := by
    obtain ⟨sent, carries, ⟨_, rfl⟩ | ⟨⟨error, refused⟩, _⟩⟩ := scheduled.carries_send ledger (.frame frame ticket mode)
    · exact passes_of_carries carries
    · exact absurd (refused.symm.trans taken) nofun
  refuses scheduled ledger frame ticket mode error refused := by
    obtain ⟨sent, carries, ⟨taken, _⟩ | ⟨_, rfl⟩⟩ := scheduled.carries_send ledger (.frame frame ticket mode)
    · exact absurd (refused.symm.trans taken) nofun
    · have passes := passes_of_carries carries
      rwa [List.map_nil, List.append_nil] at passes
  works scheduled ledger := by
    have passes := passes_of_carries (scheduled.carries_turn ledger)
    rwa [List.map_nil, List.append_nil] at passes

end Scheduled

/-! ## Senders over orderly carriers -/

namespace Sender

variable {types : ValueTypes} {σ : Type} [Carrier σ] [OrderlyCarrier σ]

/-- A data frame joins the line of the carrier, or its ticket fails. -/
theorem passes_dispatch (sender : Sender types σ) {frame : Frame} (data : frame.isData = true) (ticket : Ticket)
    (mode : BatchMode) :
    ((sender.dispatch frame ticket mode).1 = .accepted ∧
      Carrier.Passes (Carrier.held sender.carrier ++ [ticket]) sender.ledger (sender.dispatch frame ticket mode).2.carrier
        (sender.dispatch frame ticket mode).2.ledger) ∨
    ((sender.dispatch frame ticket mode).1 ≠ .accepted ∧ ∃ between error,
      Carrier.Passes (Carrier.held sender.carrier) sender.ledger (sender.dispatch frame ticket mode).2.carrier between ∧
        (sender.dispatch frame ticket mode).2.ledger = between.fail ticket error) := by
  unfold dispatch
  rw [if_pos data]
  split
  case h_1 error _ => exact .inr ⟨nofun, sender.ledger, _, ⟨[], rfl, rfl⟩, rfl⟩
  case h_2 openMessage _ =>
    have accepts := OrderlyCarrier.accepts sender.carrier sender.ledger frame ticket mode
    have refuses := OrderlyCarrier.refuses sender.carrier sender.ledger frame ticket mode
    revert accepts refuses
    unfold offer submit
    dsimp only
    rcases Carrier.sendFrame sender.carrier sender.ledger frame ticket mode with ⟨error | ⟨⟩, carrier, ledger⟩
    · intro _ refuses
      refine .inr ⟨nofun, ledger, error, ?_, ?_⟩
      · unfold afterData
        split <;> exact refuses error rfl
      · unfold afterData
        split <;> rfl
    · intro accepts _
      refine .inl ⟨rfl, ?_⟩
      unfold afterData
      split <;> exact accepts rfl

end Sender
end Egress
