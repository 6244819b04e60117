import Egress.Decimal.Shortest
import Egress.Json.Bridge
import Egress.Value

/-!
Values as JSON text, without blanks. A printer stops at a value that cannot be written, and what it has written
up to there stands. Names in objects are texts: scalars are quoted, and anything else cannot be a name.
-/
namespace Egress.Json

/-- How the numbers of a binary format are written: positional notation where the exponent of the leading digit
lies in a range, else with an exponent. -/
structure NumberStyle where
  format : Decimal.BinaryFormat
  lowestPositional : Int
  highestPositional : Int

/-- Numbers of 32 bits: positional from a millionth to below ten trillions. -/
def singleStyle : NumberStyle := ⟨Decimal.binary32, -6, 12⟩

/-- Numbers of 64 bits: positional from a hundred-thousandth to below ten quadrillions. -/
def doubleStyle : NumberStyle := ⟨Decimal.binary64, -5, 15⟩

def decimalText (style : NumberStyle) (digits : Decimal.Digits) : String :=
  let shown := Nat.toDigits 10 digits.coefficient
  let leading := (shown.length : Int) + digits.exponent - 1
  if style.lowestPositional ≤ leading ∧ leading ≤ style.highestPositional then
    if 0 ≤ digits.exponent then
      String.ofList (shown ++ List.replicate digits.exponent.toNat '0') ++ ".0"
    else if 0 ≤ leading then
      String.ofList (shown.take (leading.toNat + 1)) ++ "." ++ String.ofList (shown.drop (leading.toNat + 1))
    else "0." ++ String.ofList (List.replicate (-leading - 1).toNat '0' ++ shown)
  else
    let fraction := shown.drop 1
    String.ofList (shown.take 1) ++ (if fraction.isEmpty then "" else "." ++ String.ofList fraction) ++ "e" ++
      (if 0 ≤ leading then "+" else "-") ++ toString leading.natAbs

/-- A floating-point number, unless it is infinite or not a number. -/
def floatText? (style : NumberStyle) (bits : Nat) : Option String :=
  let signed (negative : Bool) (text : String) := if negative then "-" ++ text else text
  match style.format.read bits with
  | .notFinite => none
  | .zero negative => some (signed negative "0.0")
  | .finite negative interval => some (signed negative (decimalText style (Decimal.shortest interval)))

def hexDigit (n : Nat) : Char := Nat.digitChar n

def escaped (c : Char) : List Char :=
  match c with
  | '"' => ['\\', '"']
  | '\\' => ['\\', '\\']
  | '\x08' => ['\\', 'b']
  | '\x0c' => ['\\', 'f']
  | '\n' => ['\\', 'n']
  | '\r' => ['\\', 'r']
  | '\t' => ['\\', 't']
  | c =>
    if c.toNat < 32 then ['\\', 'u', '0', '0', hexDigit (c.toNat / 16), hexDigit (c.toNat % 16)] else [c]

def quoted (text : String) : String :=
  "\"" ++ String.ofList (text.toList.flatMap escaped) ++ "\""

/-- What is said about a value that cannot be written. -/
def failure : Fault := .failed (.caused "JSON encoding failed")

def nameText : Value → Except Fault String
  | .text content => .ok (quoted content)
  | .char c => .ok (quoted (String.singleton c))
  | .variant tag => .ok (quoted tag)
  | .int n | .wideInt n => .ok (quoted (toString n))
  | .bool b => .ok (quoted (toString b))
  | .float32 bits => named (floatText? singleStyle bits.toNat)
  | .float64 bits => named (floatText? doubleStyle bits.toNat)
  | .some value | .wrapped value => nameText value
  | .panicking message => .error (.panicked (.text message))
  | _ => .error failure
where
  named : Option String → Except Fault String
    | some text => .ok (quoted text)
    | none => .error failure

/-- A number, or null where there is none to write. -/
def putFloat (draft : Draft String) (text : Option String) : Draft String := draft.put (text.getD "null")

def putBytes (draft : Draft String) (bytes : Bytes) : Draft String :=
  draft.put ("[" ++ ",".intercalate (bytes.map fun byte => toString byte.toNat) ++ "]")

/-- Opens the object that holds the content of a variant. -/
def openVariant (draft : Draft String) (tag : String) (opening : String) : Draft String :=
  draft.put ("\x7b" ++ quoted tag ++ ":" ++ opening)

mutual
def print (draft : Draft String) : Value → Draft String
  | .unit | .none | .unitRecord => draft.put "null"
  | .bool b => draft.put (toString b)
  | .int n | .wideInt n => draft.put (toString n)
  | .float32 bits => putFloat draft (floatText? singleStyle bits.toNat)
  | .float64 bits => putFloat draft (floatText? doubleStyle bits.toNat)
  | .char c => draft.put (quoted (String.singleton c))
  | .text content => draft.put (quoted content)
  | .bytes content => putBytes draft content
  | .some value | .wrapped value => print draft value
  | .seq _ items => (printItems (draft.put "[") true items).put "]"
  | .map _ entries => (printEntries (draft.put "\x7b") true entries).put "\x7d"
  | .record fields => (printFields (draft.put "\x7b") true fields).put "\x7d"
  | .variant tag => draft.put (quoted tag)
  | .wrappedVariant tag value => (print (openVariant draft tag "") value).put "\x7d"
  | .tupleVariant tag items => (printItems (openVariant draft tag "[") true items).put "]\x7d"
  | .recordVariant tag fields => (printFields (openVariant draft tag "\x7b") true fields).put "\x7d\x7d"
  | .failing => draft.stop failure
  | .panicking message => draft.stop (.panicked (.text message))

def printItems (draft : Draft String) : (first : Bool) → List Value → Draft String
  | _, [] => draft
  | first, item :: items => printItems (print (if first then draft else draft.put ",") item) false items

def printEntries (draft : Draft String) : (first : Bool) → List (Value × Value) → Draft String
  | _, [] => draft
  | first, (name, value) :: entries =>
    let separated := if first then draft else draft.put ","
    let named := match nameText name with
      | .ok text => separated.put (text ++ ":")
      | .error fault => separated.stop fault
    printEntries (print named value) false entries

def printFields (draft : Draft String) : (first : Bool) → List (String × Value) → Draft String
  | _, [] => draft
  | first, (name, value) :: fields =>
    let separated := if first then draft else draft.put ","
    printFields (print (separated.put (quoted name ++ ":")) value) false fields
end

/-- What is written of a value, and whether that is all of it. -/
def draft (value : Value) : Draft String := print .empty value

def encode (value : Value) : Except Fault String :=
  match (draft value).fault with
  | none => .ok (String.join (draft value).pieces.toList)
  | some fault => .error fault

/-- The pieces go to the writer of texts by way of a bridge. -/
def emission (value : Value) : TextEmission :=
  Bridge.empty.writeAll (draft value).result failure ((draft value).pieces.toList.map Bytes.ofText)

end Egress.Json
