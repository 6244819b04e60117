import Egress.Recipe

/-!
A catalogue of types. A type is a name for one of a few forms of content, so two types of one form differ by
their names alone. Content of every form has a value, for the encoders that write values.
-/
namespace Egress

inductive Form where
  | value
  | recipe
  | text
  | bytes
  /-- Bytes that are encoded as a sequence of numbers. -/
  | byteList
  | number
  deriving DecidableEq

namespace Form

def Content : Form → Type
  | .value => Value
  | .recipe => Recipe
  | .text => String
  | .bytes | .byteList => Bytes
  | .number => Nat

/-- The content as a value. A recipe has none of its own and is encoded by its steps. -/
def toValue : (form : Form) → form.Content → Value
  | .value => id
  | .recipe => fun _ => .unit
  | .text => .text
  | .bytes => .bytes
  | .byteList => Value.ofByteList
  | .number => fun n : Nat => .int n

end Form

structure NamedForm where
  name : String
  form : Form
  deriving DecidableEq

def catalogue : ValueTypes where
  Kind := NamedForm
  decEq := inferInstance
  Content kind := kind.form.Content
  name := NamedForm.name

end Egress
