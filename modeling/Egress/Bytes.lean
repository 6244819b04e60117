/-!
Byte strings: numbers written in network order and text written as UTF-8. Also sums over lists, for lengths in bytes.
-/
namespace Egress

abbrev Bytes := List UInt8

/-- The sum of a measure over a list. -/
def total {α : Type} (measure : α → Nat) : List α → Nat
  | [] => 0
  | item :: items => measure item + total measure items

@[simp] theorem total_nil {α : Type} (measure : α → Nat) : total measure [] = 0 := rfl

@[simp] theorem total_cons {α : Type} (measure : α → Nat) (item : α) (items : List α) :
    total measure (item :: items) = measure item + total measure items := rfl

@[simp] theorem total_append {α : Type} (measure : α → Nat) (front back : List α) :
    total measure (front ++ back) = total measure front + total measure back := by
  induction front with
  | nil => simp
  | cons item front ih => simp [ih, Nat.add_assoc]

namespace Bytes

/-- The `width` low-order bytes of `n`, the most significant first. -/
def bigEndian : (width n : Nat) → Bytes
  | 0, _ => []
  | width + 1, n => bigEndian width (n / 256) ++ [UInt8.ofNat n]

/-- The number that the bytes spell in base 256, the most significant first. -/
def toNat (bytes : Bytes) : Nat :=
  bytes.foldl (fun n byte => n * 256 + byte.toNat) 0

def ofText (text : String) : Bytes :=
  text.toList.flatMap String.utf8EncodeChar

def toHex (bytes : Bytes) : String :=
  String.ofList (bytes.flatMap fun byte => [Nat.digitChar (byte.toNat / 16), Nat.digitChar (byte.toNat % 16)])

def hexDigit? (c : Char) : Option Nat :=
  if '0' ≤ c ∧ c ≤ '9' then some (c.toNat - '0'.toNat)
  else if 'a' ≤ c ∧ c ≤ 'f' then some (c.toNat - 'a'.toNat + 10)
  else if 'A' ≤ c ∧ c ≤ 'F' then some (c.toNat - 'A'.toNat + 10)
  else none

def hexToNat? (digits : List Char) : Option Nat :=
  digits.foldlM (fun n c => (hexDigit? c).map (n * 16 + ·)) 0

def ofHex? : List Char → Option Bytes
  | [] => some []
  | [_] => none
  | a :: b :: rest => do
    let byte ← hexToNat? [a, b]
    let bytes ← ofHex? rest
    some (UInt8.ofNat byte :: bytes)

/-- The first `count` bytes and the rest; none if there are not so many. -/
def splitAt? (count : Nat) (bytes : Bytes) : Option (Bytes × Bytes) :=
  let front := bytes.take count
  if front.length < count then none else some (front, bytes.drop count)

theorem splitAt?_append (front rest : Bytes) : splitAt? front.length (front ++ rest) = some (front, rest) := by
  simp [splitAt?]

@[simp] theorem length_bigEndian (width n : Nat) : (bigEndian width n).length = width := by
  induction width generalizing n with
  | zero => rfl
  | succ width ih => simp [bigEndian, ih]

/-- Reading back what was written in `width` bytes. -/
theorem toNat_bigEndian {width n : Nat} (fits : n < Nat.pow 256 width) : toNat (bigEndian width n) = n := by
  induction width generalizing n with
  | zero =>
    have zero : n = 0 := Nat.lt_one_iff.mp fits
    subst zero
    rfl
  | succ width ih =>
    have high : n / 256 < Nat.pow 256 width := by
      refine Nat.div_lt_of_lt_mul ?_
      rw [Nat.mul_comm]
      exact fits
    have low := ih high
    simp only [toNat, bigEndian, List.foldl_append, List.foldl_cons, List.foldl_nil] at low ⊢
    rw [low, UInt8.toNat_ofNat']
    omega

@[simp] theorem ofText_append (a b : String) : ofText (a ++ b) = ofText a ++ ofText b := by
  simp [ofText]

end Bytes
end Egress
