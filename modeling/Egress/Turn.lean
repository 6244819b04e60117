/-!
Taking turns. One waiter at a time has the turn; the others queue up, and a turn that is given back goes to the
one who has waited longest, even before that one asks again.
-/
namespace Egress

/-- Whose turn it is. Waiters are told apart by a number that the caller chooses. -/
structure Turn where
  /-- Whether the turn is taken or set aside for a waiter. -/
  taken : Bool
  /-- The waiter for whom the turn is set aside. -/
  assigned : Option Nat
  /-- Those who wait, the longest first. -/
  waiting : List Nat
  /-- How many waits have come to their end. -/
  released : Nat
  deriving DecidableEq

namespace Turn

def initial : Turn := ⟨false, none, [], 0⟩

/-- Nobody has the turn or is about to get it. -/
def isIdle (turn : Turn) : Bool := !turn.taken

/-- Asks for the turn: it is granted if it is free, else the waiter queues up. -/
def request (turn : Turn) (waiter : Nat) : Bool × Turn :=
  if turn.taken then (false, { turn with waiting := turn.waiting ++ [waiter] })
  else (true, { turn with taken := true })

/-- Asks again: the turn is granted if it has been set aside for this waiter. -/
def retry (turn : Turn) (waiter : Nat) : Bool × Turn :=
  if turn.assigned = some waiter then (true, { turn with assigned := none }) else (false, turn)

/-- Gives the turn back, to the one who has waited longest. -/
def release (turn : Turn) : Turn :=
  match turn.waiting with
  | [] => { turn with taken := false, assigned := none }
  | next :: rest => { turn with assigned := some next, waiting := rest }

/-- Gives up waiting. A turn that was set aside goes on to the next. -/
def withdraw (turn : Turn) (waiter : Nat) : Turn :=
  if turn.assigned = some waiter then turn.release
  else { turn with waiting := turn.waiting.erase waiter }

def finish (turn : Turn) : Turn := { turn.release with released := turn.released + 1 }

end Turn
end Egress
