import Egress.Encoder

/-!
The registry of encoders: at most one for each type of value, the one registered last.
-/
namespace Egress

structure Registration (types : ValueTypes) where
  kind : types.Kind
  encoder : Encoder types.Object

def Registration.typeName {types : ValueTypes} (registration : Registration types) : String :=
  types.name registration.kind

/-- The registrations, the last one first. -/
structure Registry (types : ValueTypes) where
  entries : List (Registration types)

namespace Registry

variable {types : ValueTypes}

def empty : Registry types := ⟨[]⟩

/-- Registers an encoder for a type, in place of the one registered before. -/
def register (registry : Registry types) (kind : types.Kind) (encoder : Encoder (types.Content kind)) :
    Registry types :=
  ⟨⟨kind, encoder.erase⟩ :: registry.entries.filter (·.kind ≠ kind)⟩

def find? (registry : Registry types) (kind : types.Kind) : Option (Registration types) :=
  registry.entries.find? (·.kind = kind)

def lookup (registry : Registry types) (object : types.Object) : Option (Registration types) :=
  registry.find? object.kind

def contains (registry : Registry types) (kind : types.Kind) : Bool := (registry.find? kind).isSome

def size (registry : Registry types) : Nat := registry.entries.length

def isEmpty (registry : Registry types) : Bool := registry.entries.isEmpty

variable {kind other : types.Kind}

@[simp] theorem find?_register_self (registry : Registry types) (encoder : Encoder (types.Content kind)) :
    (registry.register kind encoder).find? kind = some ⟨kind, encoder.erase⟩ :=
  List.find?_cons_of_pos (decide_eq_true rfl)

theorem find?_register_other (registry : Registry types) (encoder : Encoder (types.Content kind)) (apart : kind ≠ other) :
    (registry.register kind encoder).find? other = registry.find? other := by
  unfold register find?
  rw [List.find?_cons_of_neg (by simpa using apart), List.find?_filter]
  congr 1
  funext entry
  by_cases same : entry.kind = other
  · simp [same, apart.symm]
  · simp [same]

end Registry
end Egress
