/-!
The shortest decimal that stands for a binary floating-point number: of all decimals that are rounded to the
number when they are read, one with the fewest digits, and of those the nearest.
-/
namespace Egress.Decimal

/-- A format of binary floating-point numbers: the widths of its fields. -/
structure BinaryFormat where
  fractionBits : Nat
  exponentBits : Nat

def binary32 : BinaryFormat := ⟨23, 8⟩

def binary64 : BinaryFormat := ⟨52, 11⟩

/-- A positive number `quarters / 4 · 2 ^ exponent` with the numbers around it that are rounded to it: from
`below` quarters under it to two quarters above it, both ends included if `ends` holds. -/
structure Interval where
  quarters : Nat
  below : Nat
  ends : Bool
  exponent : Int

inductive Reading where
  | notFinite
  | zero (negative : Bool)
  | finite (negative : Bool) (interval : Interval)

/-- Takes the bits apart. The gap under a power of two is half as wide as the gap above it, except at the
lowest exponent. -/
def BinaryFormat.read (format : BinaryFormat) (bits : Nat) : Reading :=
  let fraction := bits % Nat.pow 2 format.fractionBits
  let exponentField := bits / Nat.pow 2 format.fractionBits % Nat.pow 2 format.exponentBits
  let negative := bits / Nat.pow 2 (format.fractionBits + format.exponentBits) % 2 = 1
  let bias := Nat.pow 2 (format.exponentBits - 1) - 1
  if exponentField = Nat.pow 2 format.exponentBits - 1 then .notFinite
  else if exponentField = 0 ∧ fraction = 0 then .zero negative
  else
    let significand := if exponentField = 0 then fraction else fraction + Nat.pow 2 format.fractionBits
    .finite negative {
      quarters := 4 * significand
      below := if fraction = 0 ∧ 1 < exponentField then 1 else 2
      ends := significand % 2 = 0
      exponent := (max exponentField 1 : Int) - bias - format.fractionBits }

/-- A decimal `coefficient · 10 ^ exponent`. -/
structure Digits where
  coefficient : Nat
  exponent : Int
  deriving DecidableEq

def length (n : Nat) : Nat := (Nat.toDigits 10 n).length

/-- A quotient of natural numbers times a power of ten, as a quotient again. -/
def scale (numerator denominator : Nat) (power : Int) : Nat × Nat :=
  if 0 ≤ power then (numerator * Nat.pow 10 power.toNat, denominator)
  else (numerator, denominator * Nat.pow 10 (-power).toNat)

/-- The exponent of the leading decimal digit of a positive quotient. -/
def leading (numerator denominator : Nat) : Int :=
  if denominator ≤ numerator then (length (numerator / denominator) : Int) - 1
  else -(length ((denominator - 1) / numerator) : Int)

/-- The coefficient of the point next to the number on the grid with step `10 ^ step`, if such a point lies in
the interval: of two the nearer one, and of two equally near the even one. -/
def onGrid (interval : Interval) (step : Int) : Option Nat :=
  let unit := interval.exponent - 2
  let (n, d) := if 0 ≤ unit then (Nat.pow 2 unit.toNat, 1) else (1, Nat.pow 2 (-unit).toNat)
  let (n, d) := scale n d (-step)
  let value := interval.quarters * n
  let under := value / d
  let low := (interval.quarters - interval.below) * n
  let high := (interval.quarters + 2) * n
  let underFits := if interval.ends then low ≤ under * d else low < under * d
  let overFits := if interval.ends then (under + 1) * d ≤ high else (under + 1) * d < high
  if underFits ∧ overFits then
    let gap := value - under * d
    if 2 * gap < d then some under
    else if d < 2 * gap then some (under + 1)
    else some (if under % 2 = 0 then under else under + 1)
  else if underFits then some under
  else if overFits then some (under + 1)
  else none

/-- The first grid with a point in the interval, each grid ten times finer than the one before. -/
def search (interval : Interval) : (grids : Nat) → (step : Int) → Digits
  | 0, _ => ⟨0, 0⟩
  | grids + 1, step =>
    match onGrid interval step with
    | some coefficient => ⟨coefficient, step⟩
    | none => search interval grids (step - 1)

/-- The same decimal with no zero at the end of its coefficient; `count` bounds the zeros. -/
def trim : (count : Nat) → Digits → Digits
  | 0, digits => digits
  | count + 1, digits =>
    if digits.coefficient ≠ 0 ∧ digits.coefficient % 10 = 0 then
      trim count ⟨digits.coefficient / 10, digits.exponent + 1⟩
    else digits

/-- The shortest decimal for a number. Seventeen digits always suffice. -/
def shortest (interval : Interval) : Digits :=
  let unit := interval.exponent - 2
  let n := interval.quarters * Nat.pow 2 unit.toNat
  let d := Nat.pow 2 (-unit).toNat
  trim 20 (search interval 18 (leading n d))

end Egress.Decimal
