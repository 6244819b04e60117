import Egress.Json.Scan
import Mathlib.Data.List.TakeWhile

/-!
Scanning printed text. A whole number printed in decimal digits is read as that number, and plain quoted text as that
text; what comes after is left over.
-/
namespace Egress.Json

/-- The character ends a value: no number goes on with it. -/
def Delimits (c : Char) : Prop := c = ',' ∨ c = '\x7d'

theorem skipBlanks_of_ink {c : Char} (ink : isBlank c = false) (text : List Char) :
    skipBlanks (c :: text) = c :: text := by
  simp [skipBlanks, ink]

theorem expect_self {c : Char} (ink : isBlank c = false) (text : List Char) : expect c (c :: text) = some text := by
  unfold expect
  rw [skipBlanks_of_ink ink]
  exact if_pos rfl

/-! ## Numbers -/

theorem not_isBlank_of_isDigit {c : Char} (digit : c.isDigit = true) : isBlank c = false := by
  unfold isBlank
  rw [Bool.or_eq_false_iff, Bool.or_eq_false_iff, Bool.or_eq_false_iff]
  refine ⟨⟨⟨?_, ?_⟩, ?_⟩, ?_⟩
  all_goals
    rw [decide_eq_false_iff_not]
    rintro rfl
    cases digit

theorem isDigit_of_mem_toDigits {n : Nat} {c : Char} (member : c ∈ Nat.toDigits 10 n) : c.isDigit = true :=
  Nat.isDigit_of_mem_toDigits (by decide) (by decide) member

/-- Only zero is printed with a leading zero. -/
theorem head?_toDigits {n : Nat} (pos : 0 < n) : (Nat.toDigits 10 n).head? ≠ some '0' := by
  induction n using Nat.strongRecOn with
  | ind n ih =>
    by_cases single : n < 10
    · rw [Nat.toDigits_of_lt_base single]
      intro zero
      have digit := congrArg Char.toNat (Option.some.inj zero)
      rw [Nat.toNat_digitChar_of_lt_ten single] at digit
      exact pos.ne' (by simpa using digit)
    · have front : (Nat.toDigits 10 (n / 10)).head? ≠ some '0' := ih (n / 10) (by omega) (by omega)
      rw [Nat.toDigits_of_base_le (by decide) (Nat.le_of_not_lt single)]
      rcases digits : Nat.toDigits 10 (n / 10) with _ | ⟨first, more⟩
      · exact absurd digits Nat.toDigits_ne_nil
      · rwa [digits] at front

theorem not_leadingZero {n : Nat} {second : Char} {more : List Char} : Nat.toDigits 10 n ≠ '0' :: second :: more := by
  intro leading
  by_cases pos : 0 < n
  · exact head?_toDigits pos (congrArg List.head? leading)
  · obtain rfl : n = 0 := by omega
    rw [Nat.toDigits_zero] at leading
    cases leading

theorem digitsToNat_toDigits (n : Nat) : digitsToNat (Nat.toDigits 10 n) = n := by
  have value : Nat.ofDigitChars 10 (Nat.toDigits 10 n) 0 = n := Nat.ofDigitChars_ten_toDigits
  rw [Nat.ofDigitChars_eq_foldl] at value
  unfold digitsToNat
  simpa only [Nat.mul_comm] using value

variable {c : Char} {rest : List Char}

theorem spanDigits_toDigits (n : Nat) (ends : Delimits c) :
    spanDigits (Nat.toDigits 10 n ++ c :: rest) = (Nat.toDigits 10 n, c :: rest) := by
  have digits : ∀ d ∈ Nat.toDigits 10 n, d.isDigit = true := fun _ => isDigit_of_mem_toDigits
  have stop : c.isDigit = false := by rcases ends with rfl | rfl <;> rfl
  unfold spanDigits
  rw [List.takeWhile_append_of_pos digits, List.dropWhile_append_of_pos digits]
  simp [stop]

theorem readWhole_toDigits (n : Nat) (ends : Delimits c) :
    readWhole (Nat.toDigits 10 n ++ c :: rest) = some (Nat.toDigits 10 n, c :: rest) := by
  unfold readWhole
  rw [spanDigits_toDigits n ends]
  split
  · next none => exact absurd (congrArg Prod.fst none) Nat.toDigits_ne_nil
  · next leading => exact absurd (congrArg Prod.fst leading) not_leadingZero
  · next same =>
    cases same
    rfl

theorem skipBlanks_toDigits (n : Nat) : skipBlanks (Nat.toDigits 10 n ++ rest) = Nat.toDigits 10 n ++ rest := by
  rcases digits : Nat.toDigits 10 n with _ | ⟨first, more⟩
  · exact absurd digits Nat.toDigits_ne_nil
  · have digit : first.isDigit = true := isDigit_of_mem_toDigits (digits ▸ List.mem_cons_self)
    exact skipBlanks_of_ink (not_isBlank_of_isDigit digit) _

/-- A number of 64 bits is read as it was printed. -/
theorem readUInt64_toString (n : UInt64) (ends : Delimits c) :
    readUInt64 ((toString n.toNat).toList ++ c :: rest) = some (n, c :: rest) := by
  have shown : (toString n.toNat).toList = Nat.toDigits 10 n.toNat := Nat.toList_repr
  have whole : goesOn (c :: rest) = false := by rcases ends with rfl | rfl <;> rfl
  have fits : n.toNat < UInt64.size := n.toNat_lt
  unfold readUInt64
  rw [shown, skipBlanks_toDigits, readWhole_toDigits _ ends]
  simp [whole, digitsToNat_toDigits, fits]

/-! ## Quoted text -/

/-- The character stands for itself in quoted text. -/
def plainChar (c : Char) : Bool := c ≠ '"' && c ≠ '\\' && 32 ≤ c.toNat

theorem readQuoted_plain {content : List Char} (plain : content.all plainChar) (seen rest : List Char) :
    readQuoted .plain seen (content ++ '"' :: rest) = some (seen.reverse ++ content, rest) := by
  induction content generalizing seen with
  | nil => simp [readQuoted]
  | cons c content ih =>
    rw [List.all_cons, Bool.and_eq_true] at plain
    obtain ⟨first, rest⟩ := plain
    simp only [plainChar, Bool.and_eq_true, decide_eq_true_eq] at first
    obtain ⟨⟨unquoted, unescaped⟩, printed⟩ := first
    rw [List.cons_append, readQuoted, if_neg unquoted, if_neg unescaped, if_neg (Nat.not_lt.mpr printed), ih rest]
    simp

/-- Quoted text that needs no escapes is read as it was printed. -/
theorem readString_quoted {content : String} (plain : content.toList.all plainChar) (rest : List Char) :
    readString (("\"" ++ content ++ "\"").toList ++ rest) = some (content, rest) := by
  have shown : ("\"" ++ content ++ "\"").toList ++ rest = '"' :: (content.toList ++ '"' :: rest) := by
    simp
  unfold readString
  rw [shown, expect_self rfl]
  simp [readQuoted_plain plain]

end Egress.Json
