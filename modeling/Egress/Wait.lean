import Egress.Ledger
import Egress.Turn

/-!
Waiting for an outcome, one waiter at a time. Whoever has the turn gets a ticket to hand on, then waits until
the ticket has an outcome, and gives the turn back, in the end or earlier.
-/
namespace Egress

inductive Wait where
  /-- It has not had its turn. The number tells waiters apart. -/
  | queued (waiter : Nat)
  /-- It has the turn, and its ticket can be handed on. -/
  | holding (ticket : Ticket)
  | blocking (ticket : Ticket)
  deriving DecidableEq

namespace Wait

/-- The ticket of a waiter who has been granted the turn. -/
def granted (turn : Turn) (ledger : Ledger) : Wait × Turn × Ledger :=
  match ledger.issue .future with
  | (ticket, ledger) => (.holding ticket, turn, ledger)

def start (turn : Turn) (ledger : Ledger) (waiter : Nat) : Wait × Turn × Ledger :=
  match turn.request waiter with
  | (true, turn) => granted turn ledger
  | (false, turn) => (.queued waiter, turn, ledger)

def retry (turn : Turn) (ledger : Ledger) : Wait → Wait × Turn × Ledger
  | .queued waiter =>
    match turn.retry waiter with
    | (true, turn) => granted turn ledger
    | (false, turn) => (.queued waiter, turn, ledger)
  | wait => (wait, turn, ledger)

/-- Looks for the outcome of a ticket while those in `held` are held. The turn ends with the wait. -/
def poll (turn : Turn) (ledger : Ledger) (held : List Ticket) (ticket : Ticket) : Option Outcome × Turn :=
  match ledger.poll held ticket with
  | some outcome => (some outcome, turn.finish)
  | none => (none, turn)

def giveUp (turn : Turn) : Wait → Turn
  | .queued waiter => turn.withdraw waiter
  | .holding _ | .blocking _ => turn.release

def held? : Wait → Option Ticket
  | .holding ticket => some ticket
  | _ => none

end Wait
end Egress
