import Egress.Names
import Egress.Wait

/-!
Waits under names, all for the same turn, and the tickets that were handed on by those who had it.
-/
namespace Egress

/-- The turn, the waits, and the tickets that were handed on, by the name of the wait. -/
structure WaitingRoom where
  turn : Turn
  ledger : Ledger
  waits : Names Wait
  handedOn : Names Ticket
  count : Nat

namespace WaitingRoom

def empty : WaitingRoom := ⟨.initial, .empty, [], [], 0⟩

/-- How a wait stands after it has been looked at. -/
inductive Answer where
  | pending
  | acquired
  | held
  | done (outcome : Outcome)

def update (room : WaitingRoom) (name : String) : Wait × Turn × Ledger → Answer × WaitingRoom
  | (wait, turn, ledger) =>
    (if wait.held?.isSome then .acquired else .pending,
      { room with turn, ledger, waits := room.waits.give name wait })

/-- Someone asks for the turn. A wait that had the name before is given up, after the new one has asked. -/
def acquire (room : WaitingRoom) (name : String) : Answer × WaitingRoom :=
  match { room with count := room.count + 1 }.update name (Wait.start room.turn room.ledger room.count) with
  | (answer, after) =>
    match room.waits.find name with
    | some wait => (answer, { after with turn := wait.giveUp after.turn })
    | none => (answer, after)

/-- The tickets that can still be completed. -/
def held (room : WaitingRoom) : List Ticket := room.handedOn.things ++ room.waits.things.filterMap Wait.held?

/-- Waits for the outcome of a ticket. The wait itself no longer holds the ticket. -/
def block (room : WaitingRoom) (name : String) (ticket : Ticket) : Answer × WaitingRoom :=
  let room := { room with waits := room.waits.give name (.blocking ticket) }
  match Wait.poll room.turn room.ledger room.held ticket with
  | (some outcome, turn) => (.done outcome, { room with turn, waits := room.waits.drop name })
  | (none, turn) => (.pending, { room with turn })

def poll (room : WaitingRoom) (name : String) : Wait → Answer × WaitingRoom
  | .holding _ => (.held, room)
  | .blocking ticket => room.block name ticket
  | wait => room.update name (wait.retry room.turn room.ledger)

def leave (room : WaitingRoom) (name : String) : WaitingRoom :=
  match room.waits.find name with
  | some wait => { room with turn := wait.giveUp room.turn, waits := room.waits.drop name }
  | none => room

end WaitingRoom
end Egress
