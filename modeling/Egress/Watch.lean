import Egress.Ledger

/-!
How an application follows the ledger: it is told of listeners at once, and looks at its futures from time to
time, each of them until it is ready.
-/
namespace Egress

/-- What an application has seen of the ledger. -/
structure Watch where
  told : Nat
  /-- The futures that were not ready when it last looked, in the order in which they were made. -/
  futures : Array Ticket

namespace Watch

def initial : Watch := ⟨0, #[]⟩

def follow (watch : Watch) (ticket : Ticket) : Watch := { watch with futures := watch.futures.push ticket }

/-- What is new: the reports since the last look, then the futures that have become ready, each in order. -/
def look (watch : Watch) (ledger : Ledger) (held : List Ticket) : List (Ticket × Outcome) × Watch :=
  let reports := ledger.reports.toList.drop watch.told
  let ready := watch.futures.toList.filterMap fun ticket => (ledger.poll held ticket).map (ticket, ·)
  (reports ++ ready, {
    told := ledger.reports.size
    futures := watch.futures.filter fun ticket => (ledger.poll held ticket).isNone })

end Watch
end Egress
