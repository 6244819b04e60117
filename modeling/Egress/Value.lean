import Egress.Bytes

/-!
Application values as an encoder sees them: scalars, texts, sequences, maps, records and tagged variants.
-/
namespace Egress

/-- A value that can be encoded. A sequence or map is `sized` if its length is known before its elements. -/
inductive Value where
  | unit
  | bool (b : Bool)
  | int (n : Int)
  | wideInt (n : Int)
  | float32 (bits : UInt32)
  | float64 (bits : UInt64)
  | char (c : Char)
  | text (content : String)
  | bytes (content : Bytes)
  | none
  | some (value : Value)
  | seq (sized : Bool) (items : List Value)
  | map (sized : Bool) (entries : List (Value × Value))
  | unitRecord
  | wrapped (value : Value)
  | record (fields : List (String × Value))
  | variant (tag : String)
  | wrappedVariant (tag : String) (value : Value)
  | tupleVariant (tag : String) (items : List Value)
  | recordVariant (tag : String) (fields : List (String × Value))
  /-- A value that reports an error when it is encoded. -/
  | failing
  /-- A value that panics when it is encoded. -/
  | panicking (message : String)

namespace Value

def range (low high : Int) : Value :=
  .seq true ((List.range (high - low).toNat).map fun i : Nat => .int (low + i))

def ofByteList (bytes : Bytes) : Value := .seq true (bytes.map fun byte => .int byte.toNat)

/-- A map from `k0`, `k1` and so on to 0, 1 and so on. -/
def numbered (count : Nat) : Value :=
  .map true ((List.range count).map fun i : Nat => (.text s!"k{i}", .int i))

end Value
end Egress
