import Egress.BatchMode
import Egress.Duration
import Egress.Frame
import Egress.Ledger

/-!
Carriers take frames from a sender and bring them to the wire. A frame comes with a ticket that the carrier
completes when the frame has been written or has failed; a carrier that refuses a frame says so at once and
leaves the ticket to the sender. `ScriptedCarrier` is a carrier whose answers are laid down beforehand; it does
nothing on its own.
-/
namespace Egress

/-- What a sender asks of a carrier. -/
class Carrier (σ : Type) where
  /-- Hands over a frame. An error means that the carrier does not take it. -/
  sendFrame : σ → Ledger → Frame → Ticket → BatchMode → Outcome × σ × Ledger
  /-- Asks that all that waits is written before the ticket is completed. -/
  flush : σ → Ledger → Ticket → Outcome × σ × Ledger
  idleTimeout : σ → Duration
  setIdleTimeout : σ → Duration → σ
  /-- The tickets that the carrier may still complete. -/
  held : σ → List Ticket
  /-- What the carrier does on its own while its sender is busy elsewhere. -/
  work : σ → Ledger → σ × Ledger

inductive Reaction where
  | complete (outcome : Outcome)
  | keep
  /-- It completes the ticket that it has kept longest. -/
  | release (outcome : Outcome)

/-- How a carrier answers: what it does first, and whether it takes what it was offered. -/
structure Reply where
  reactions : List Reaction
  verdict : Outcome

namespace Reply

/-- Takes what was offered and completes its ticket with success. -/
def accept : Reply := ⟨[.complete (.ok ())], .ok ()⟩

def hold : Reply := ⟨[.keep], .ok ()⟩

/-- Takes what was offered and forgets its ticket. -/
def lose : Reply := ⟨[], .ok ()⟩

def fail (error : SendError) : Reply := ⟨[.complete (.error error)], .ok ()⟩

def refuse (error : SendError) : Reply := ⟨[], .error error⟩

end Reply

inductive Offer where
  | frame (frame : Frame) (mode : BatchMode)
  | flush
  deriving DecidableEq

/-- A carrier that answers by a script and remembers what it was offered. -/
structure ScriptedCarrier where
  nextReplies : List Reply
  /-- The answer to the frames after those. -/
  frameReply : Reply
  flushReply : Reply
  /-- The tickets kept, the one kept longest first. -/
  kept : List Ticket
  offers : Array Offer
  idle : Duration

namespace ScriptedCarrier

def accepting : ScriptedCarrier where
  nextReplies := []
  frameReply := .accept
  flushReply := .accept
  kept := []
  offers := #[]
  idle := ⟨0⟩

/-- Does what a reaction says about a ticket. -/
def react (carrier : ScriptedCarrier) (ledger : Ledger) (ticket : Ticket) : Reaction → ScriptedCarrier × Ledger
  | .complete outcome => (carrier, ledger.complete ticket outcome)
  | .keep => ({ carrier with kept := carrier.kept ++ [ticket] }, ledger)
  | .release outcome =>
    match carrier.kept with
    | oldest :: rest => ({ carrier with kept := rest }, ledger.complete oldest outcome)
    | [] => (carrier, ledger)

def reactAll (carrier : ScriptedCarrier) (ledger : Ledger) (ticket : Ticket) :
    List Reaction → ScriptedCarrier × Ledger
  | [] => (carrier, ledger)
  | reaction :: reactions =>
    match carrier.react ledger ticket reaction with
    | (carrier, ledger) => carrier.reactAll ledger ticket reactions

def answer (carrier : ScriptedCarrier) (ledger : Ledger) (ticket : Ticket) (offer : Offer) (reply : Reply) :
    Outcome × ScriptedCarrier × Ledger :=
  (reply.verdict, { carrier with offers := carrier.offers.push offer }.reactAll ledger ticket reply.reactions)

/-- Answers a frame with the next reply laid down for frames. -/
def takeFrame (carrier : ScriptedCarrier) (ledger : Ledger) (frame : Frame) (ticket : Ticket) (mode : BatchMode) :
    Outcome × ScriptedCarrier × Ledger :=
  match carrier.nextReplies with
  | reply :: rest => { carrier with nextReplies := rest }.answer ledger ticket (.frame frame mode) reply
  | [] => carrier.answer ledger ticket (.frame frame mode) carrier.frameReply

instance : Carrier ScriptedCarrier where
  sendFrame := takeFrame
  flush carrier ledger ticket := carrier.answer ledger ticket .flush carrier.flushReply
  idleTimeout := idle
  setIdleTimeout carrier span := { carrier with idle := span }
  held := kept
  work carrier ledger := (carrier, ledger)

/-- Completes the ticket kept longest; none if no ticket is kept. -/
def release? (carrier : ScriptedCarrier) (ledger : Ledger) (outcome : Outcome) :
    Option (ScriptedCarrier × Ledger) :=
  match carrier.kept with
  | oldest :: rest => some ({ carrier with kept := rest }, ledger.complete oldest outcome)
  | [] => none

end ScriptedCarrier
end Egress
