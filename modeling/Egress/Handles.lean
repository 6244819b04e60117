import Egress.Ledger
import Egress.Names

/-!
Tickets under names. A handle is a name for a ticket; several handles may stand for one ticket, and a ticket is
held as long as a handle stands for it or another ticket that is held leads to it.
-/
namespace Egress

/-- Tickets under names, and futures under names. -/
structure Handles where
  ledger : Ledger
  tickets : Names Ticket
  futures : Names Ticket

inductive HandleAction where
  /-- Makes a ticket that tells the application, whoever completes it. -/
  | listener (name : String)
  | nobody (name : String)
  /-- Makes a ticket and its future, under one name. -/
  | future (name : String)
  /-- Makes a ticket that tells the application and completes the ticket of another handle. -/
  | relay (name target : String)
  | clone (name source : String)
  | complete (name : String) (outcome : Outcome)
  | drop (name : String)
  | dropFuture (name : String)

namespace Handles

def empty : Handles := ⟨.empty, [], []⟩

def issue (handles : Handles) (name : String) (recipient : Recipient) : Handles :=
  match handles.ledger.issue recipient with
  | (ticket, ledger) =>
    { ledger
      tickets := handles.tickets.give name ticket
      futures := if recipient = .future then handles.futures.give name ticket else handles.futures }

/-- Does what is asked for; none if a name that is needed stands for nothing. -/
def perform? (handles : Handles) : HandleAction → Option Handles
  | .listener name => some (handles.issue name .listener)
  | .nobody name => some (handles.issue name .nobody)
  | .future name => some (handles.issue name .future)
  | .relay name target => (handles.tickets.find target).map fun ticket => handles.issue name (.relay ticket)
  | .clone name source =>
    (handles.tickets.find source).map fun ticket =>
      { handles with tickets := handles.tickets.give name ticket }
  | .complete name outcome =>
    (handles.tickets.find name).map fun ticket =>
      { handles with ledger := handles.ledger.complete ticket outcome }
  | .drop name => some { handles with tickets := handles.tickets.drop name }
  | .dropFuture name => some { handles with futures := handles.futures.drop name }

/-- Looks at a future: none if there is none of that name, else its outcome if it is ready. A future that was
ready is gone. -/
def poll? (handles : Handles) (name : String) : Option (Option Outcome × Handles) :=
  (handles.futures.find name).map fun ticket =>
    match handles.ledger.poll handles.tickets.things ticket with
    | some outcome => (some outcome, { handles with futures := handles.futures.drop name })
    | none => (none, handles)

end Handles
end Egress
