import Egress.MessageStream

/-!
Carriers with a log. Any carrier can be given one: it keeps every frame that the carrier was handed, with the
carrier's verdict, and changes nothing else. What a sender does is told from the log, for every carrier at once.
-/
namespace Egress

/-- A frame that a carrier was handed, and whether the carrier took it. -/
structure Handover where
  frame : Frame
  ticket : Ticket
  mode : BatchMode
  verdict : Outcome

def Handover.taken (handover : Handover) : Bool :=
  match handover.verdict with
  | .ok () => true
  | .error _ => false

/-- A carrier and the frames that it was handed, in order. -/
structure Logged (σ : Type) where
  carrier : σ
  log : List Handover

namespace Logged

variable {σ : Type}

def fresh (carrier : σ) : Logged σ := ⟨carrier, []⟩

instance [Carrier σ] : Carrier (Logged σ) where
  sendFrame logged ledger frame ticket mode :=
    match Carrier.sendFrame logged.carrier ledger frame ticket mode with
    | (verdict, carrier, ledger) =>
      (verdict, ⟨carrier, logged.log ++ [⟨frame, ticket, mode, verdict⟩]⟩, ledger)
  flush logged ledger ticket :=
    match Carrier.flush logged.carrier ledger ticket with
    | (verdict, carrier, ledger) => (verdict, { logged with carrier }, ledger)
  idleTimeout logged := Carrier.idleTimeout logged.carrier
  setIdleTimeout logged span := { logged with carrier := Carrier.setIdleTimeout logged.carrier span }
  held logged := Carrier.held logged.carrier
  work logged ledger :=
    match Carrier.work logged.carrier ledger with
    | (carrier, ledger) => ({ logged with carrier }, ledger)

end Logged

namespace Sender

variable {types : ValueTypes} {σ : Type}

def log (sender : Sender types (Logged σ)) : List Handover := sender.carrier.log

@[simp] theorem log_issue (sender : Sender types (Logged σ)) (recipient : Recipient) :
    (sender.issue recipient).2.log = sender.log := rfl

@[simp] theorem log_fail (sender : Sender types (Logged σ)) (ticket : Ticket) (error : SendError) :
    (sender.fail ticket error).log = sender.log := rfl

@[simp] theorem log_abandonMessage (sender : Sender types (Logged σ)) : sender.abandonMessage.log = sender.log := rfl

variable [Carrier σ]

@[simp] theorem log_letWork (sender : Sender types (Logged σ)) : sender.letWork.log = sender.log := rfl

/-- Handing a frame over adds it to the log, with the verdict that the sender is given. -/
theorem log_submit (sender : Sender types (Logged σ)) (frame : Frame) (ticket : Ticket) (mode : BatchMode) :
    (sender.submit frame ticket mode).2.log =
      sender.log ++ [⟨frame, ticket, mode, (sender.submit frame ticket mode).1⟩] := rfl

end Sender
end Egress
