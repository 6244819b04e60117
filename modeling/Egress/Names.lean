/-!
Names for things: a list of pairs in which a name stands for the thing that it was given to last.
-/
namespace Egress

/-- Things under names. -/
abbrev Names (α : Type) := List (String × α)

namespace Names

variable {α : Type}

def find (names : Names α) (name : String) : Option α := names.lookup name

def drop (names : Names α) (name : String) : Names α := names.filter (·.1 ≠ name)

/-- Gives a name to a thing. What had the name before has it no more. -/
def give (names : Names α) (name : String) (a : α) : Names α := (name, a) :: names.drop name

def things (names : Names α) : List α := names.map (·.2)

end Names
end Egress
