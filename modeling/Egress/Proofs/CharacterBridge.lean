import Egress.Json.Bridge

/-!
Characters that are cut. However the bytes of a text are cut into pieces, a bridge makes of them the text: after each piece
it holds nothing or the beginning of one character, and has passed on whole characters before that.
-/
namespace Egress

namespace Bytes

variable {rest data more : Bytes} {c : Char} {chars : List Char}

/-! ## How characters begin -/

/-- A byte that continues a character may come second. After the first and the last of the first bytes not all of them may. -/
theorem maySecond_of_bounds {first second : UInt8} (lowest : 0x80 ≤ second.toNat) (highest : second.toNat ≤ 0xbf)
    (short : first.toNat = 0xe0 → 0xa0 ≤ second.toNat) (long : first.toNat = 0xf0 → 0x90 ≤ second.toNat)
    (surrogate : first.toNat = 0xed → second.toNat ≤ 0x9f) (last : first.toNat = 0xf4 → second.toNat ≤ 0x8f) :
    maySecond first second = true := by
  have same (byte : UInt8) : first = byte ↔ first.toNat = byte.toNat := UInt8.toNat_inj.symm
  unfold maySecond
  simp only [Bool.and_eq_true, decide_eq_true_eq, UInt8.le_iff_toNat_le, same]
  constructor
  · split
    · exact short ‹_›
    · split
      · exact long ‹_›
      · exact lowest
  · split
    · exact surrogate ‹_›
    · split
      · exact last ‹_›
      · exact highest

theorem beginsChar_one {first : UInt8} (low : 0xc2 ≤ first.toNat) (high : first.toNat ≤ 0xf4) :
    beginsChar [first] = true := by
  simp only [beginsChar, Bool.and_eq_true, decide_eq_true_eq, UInt8.le_iff_toNat_le]
  exact ⟨low, high⟩

theorem beginsChar_two {first second : UInt8} (low : 0xe0 ≤ first.toNat) (high : first.toNat ≤ 0xf4)
    (may : maySecond first second = true) : beginsChar [first, second] = true := by
  simp only [beginsChar, Bool.and_eq_true, decide_eq_true_eq, UInt8.le_iff_toNat_le]
  exact ⟨⟨low, high⟩, may⟩

theorem beginsChar_three {first second third : UInt8} (low : 0xf0 ≤ first.toNat) (high : first.toNat ≤ 0xf4)
    (may : maySecond first second = true) (lowest : 0x80 ≤ third.toNat) (highest : third.toNat ≤ 0xbf) :
    beginsChar [first, second, third] = true := by
  simp only [beginsChar, Bool.and_eq_true, decide_eq_true_eq, UInt8.le_iff_toNat_le]
  exact ⟨⟨⟨⟨low, high⟩, may⟩, lowest⟩, highest⟩

/-- The forms that an encoded character has, as far as a bridge looks at them. -/
inductive Character : Bytes → Prop where
  | one (first : UInt8) : Character [first]
  | two (first second : UInt8) (low : 0xc2 ≤ first.toNat) (high : first.toNat ≤ 0xf4) : Character [first, second]
  | three (first second third : UInt8) (low : 0xe0 ≤ first.toNat) (high : first.toNat ≤ 0xf4)
      (may : maySecond first second = true) : Character [first, second, third]
  | four (first second third fourth : UInt8) (low : 0xf0 ≤ first.toNat) (high : first.toNat ≤ 0xf4)
      (may : maySecond first second = true) (lowest : 0x80 ≤ third.toNat) (highest : third.toNat ≤ 0xbf) :
      Character [first, second, third, fourth]

theorem valid_char (c : Char) : c.val.toNat < 0xd800 ∨ 0xdfff < c.val.toNat ∧ c.val.toNat < 0x110000 := c.valid

theorem character_utf8EncodeChar (c : Char) : Character (String.utf8EncodeChar c) := by
  have valid := valid_char c
  have byte {n : Nat} (small : n < 256) : (UInt8.ofNat n).toNat = n := UInt8.toNat_ofNat_of_lt' small
  unfold String.utf8EncodeChar
  dsimp only
  generalize c.val.toNat = v at *
  split
  · exact .one _
  · split
    · have first := byte (show v / 64 % 32 + 192 < 256 by omega)
      exact .two _ _ (by omega) (by omega)
    · split
      · have first := byte (show v / 4096 % 16 + 224 < 256 by omega)
        have second := byte (show v / 64 % 64 + 128 < 256 by omega)
        -- the bounds on the second byte are what keeps out long forms and surrogates
        refine .three _ _ _ (by omega) (by omega) (maySecond_of_bounds ?_ ?_ ?_ ?_ ?_ ?_) <;> omega
      · have first := byte (show v / 262144 % 8 + 240 < 256 by omega)
        have second := byte (show v / 4096 % 64 + 128 < 256 by omega)
        have third := byte (show v / 64 % 64 + 128 < 256 by omega)
        refine .four _ _ _ _ (by omega) (by omega) (maySecond_of_bounds ?_ ?_ ?_ ?_ ?_ ?_) (by omega) (by omega) <;> omega

/-- What some bytes begin with, if it is not all of them, is nothing, or their first and what the others begin with. -/
theorem proper_prefix_cons {byte : UInt8} {tail : Bytes} (begins : rest <+: byte :: tail) (unfinished : rest ≠ byte :: tail) :
    rest = [] ∨ ∃ front, rest = byte :: front ∧ front <+: tail ∧ front ≠ tail := by
  refine (List.prefix_cons_iff.mp begins).imp_right fun ⟨front, same, inside⟩ => ⟨front, same, inside, ?_⟩
  rintro rfl
  exact unfinished same

/-- What has come of a character is seen to be its beginning. -/
theorem Character.beginsChar (character : Character data) (begins : rest <+: data) (unfinished : rest ≠ data)
    (some : rest ≠ []) : rest.beginsChar = true := by
  have nothing : ∀ front : Bytes, front <+: [] → front ≠ [] → False := fun front none more => more (List.prefix_nil.mp none)
  cases character with
  | one first =>
    obtain rfl | ⟨front, rfl, none, more⟩ := proper_prefix_cons begins unfinished
    · exact absurd rfl some
    · exact (nothing front none more).elim
  | two first second low high =>
    obtain rfl | ⟨front, rfl, begins, unfinished⟩ := proper_prefix_cons begins unfinished
    · exact absurd rfl some
    obtain rfl | ⟨front, rfl, none, more⟩ := proper_prefix_cons begins unfinished
    · exact beginsChar_one low high
    · exact (nothing front none more).elim
  | three first second third low high may =>
    obtain rfl | ⟨front, rfl, begins, unfinished⟩ := proper_prefix_cons begins unfinished
    · exact absurd rfl some
    obtain rfl | ⟨front, rfl, begins, unfinished⟩ := proper_prefix_cons begins unfinished
    · exact beginsChar_one (Nat.le_trans (by decide) low) high
    obtain rfl | ⟨front, rfl, none, more⟩ := proper_prefix_cons begins unfinished
    · exact beginsChar_two low high may
    · exact (nothing front none more).elim
  | four first second third fourth low high may lowest highest =>
    obtain rfl | ⟨front, rfl, begins, unfinished⟩ := proper_prefix_cons begins unfinished
    · exact absurd rfl some
    obtain rfl | ⟨front, rfl, begins, unfinished⟩ := proper_prefix_cons begins unfinished
    · exact beginsChar_one (Nat.le_trans (by decide) low) high
    obtain rfl | ⟨front, rfl, begins, unfinished⟩ := proper_prefix_cons begins unfinished
    · exact beginsChar_two (Nat.le_trans (by decide) low) high may
    obtain rfl | ⟨front, rfl, none, more⟩ := proper_prefix_cons begins unfinished
    · exact beginsChar_three low high may lowest highest
    · exact (nothing front none more).elim

/-! ## Reading characters -/

theorem char?_utf8EncodeChar (c : Char) (rest : Bytes) : char? (String.utf8EncodeChar c ++ rest) = some c := by
  have short : (String.utf8EncodeChar c).length ≤ 4 := by
    rw [String.length_utf8EncodeChar]
    exact c.utf8Size_le_four
  unfold char?
  rw [List.take_append, List.take_of_length_le short, List.toByteArray_append]
  exact ByteArray.utf8DecodeChar?_utf8EncodeChar_append

theorem prefix_of_char? (begun : char? data = some c) : String.utf8EncodeChar c <+: data := by
  obtain ⟨after, same⟩ := ByteArray.exists_of_utf8DecodeChar?_eq_some begun
  have same : data.take 4 = String.utf8EncodeChar c ++ after.data.toList := by
    rw [← List.toByteArray_inj, List.toByteArray_append, same]
    congr 1
    exact ByteArray.ext (by simp)
  exact (same ▸ List.prefix_append _ _).trans (List.take_prefix 4 data)

/-- The bytes are nothing, or what has come of the first of the characters, if that is not all of it. -/
def Cut (rest : Bytes) (chars : List Char) : Prop :=
  rest = [] ∨ ∃ c later, chars = c :: later ∧ rest <+: String.utf8EncodeChar c ∧ rest ≠ String.utf8EncodeChar c

theorem Cut.char? (cut : Cut rest chars) : rest.char? = none := by
  refine Option.eq_none_iff_forall_ne_some.mpr fun d begun => ?_
  have whole := prefix_of_char? begun
  rcases cut with rfl | ⟨c, later, _, begins, unfinished⟩
  · exact String.utf8EncodeChar_ne_nil (List.prefix_nil.mp whole)
  · -- no character begins with another one
    obtain ⟨after, same⟩ := whole.trans begins
    have first : Bytes.char? (String.utf8EncodeChar c ++ []) = some c := char?_utf8EncodeChar c []
    rw [List.append_nil, ← same, char?_utf8EncodeChar] at first
    obtain rfl := Option.some.inj first
    exact unfinished (begins.eq_of_length_le whole.length_le)

theorem Cut.passes (cut : Cut rest chars) : (rest.isEmpty || rest.beginsChar) = true := by
  rw [Bool.or_eq_true, List.isEmpty_iff]
  by_cases none : rest = []
  · exact .inl none
  · obtain ⟨c, _, _, begins, unfinished⟩ := cut.resolve_left none
    exact .inr ((character_utf8EncodeChar c).beginsChar begins unfinished none)

/-- Nothing is cut if nothing is to come. -/
theorem Cut.eq_nil (cut : Cut rest chars) (all : rest = chars.flatMap String.utf8EncodeChar) : rest = [] ∧ chars = [] := by
  rcases cut with rfl | ⟨c, later, rfl, begins, unfinished⟩
  · refine ⟨rfl, List.eq_nil_iff_forall_not_mem.mpr fun c member => ?_⟩
    exact String.utf8EncodeChar_ne_nil (List.flatMap_eq_nil_iff.mp all.symm c member)
  · rw [List.flatMap_cons] at all
    exact absurd (begins.eq_of_length_le (by rw [all, List.length_append]; omega)) unfinished

/-- What the bytes of some characters begin with are the first of the characters and, perhaps, one that is cut. -/
theorem exists_cut (all : data ++ more = chars.flatMap String.utf8EncodeChar) :
    ∃ front later rest, chars = front ++ later ∧ data = front.flatMap String.utf8EncodeChar ++ rest ∧ Cut rest later := by
  induction chars generalizing data with
  | nil =>
    have none : data = [] := (List.append_eq_nil_iff.mp all).1
    exact ⟨[], [], [], rfl, none, Or.inl rfl⟩
  | cons c chars ih =>
    rw [List.flatMap_cons] at all
    have begins : data <+: String.utf8EncodeChar c ++ chars.flatMap String.utf8EncodeChar := ⟨more, all⟩
    by_cases whole : String.utf8EncodeChar c <+: data
    · obtain ⟨data, rfl⟩ := whole
      rw [List.append_assoc] at all
      obtain ⟨front, later, rest, rfl, rfl, cut⟩ := ih (List.append_cancel_left all)
      refine ⟨c :: front, later, rest, rfl, ?_, cut⟩
      rw [List.flatMap_cons, List.append_assoc]
    · refine ⟨[], c :: chars, data, rfl, rfl, Or.inr ⟨c, chars, rfl, ?_, ?_⟩⟩
      · exact (List.prefix_or_prefix_of_prefix begins (List.prefix_append _ _)).resolve_right whole
      · rintro rfl
        exact whole (List.prefix_refl _)

theorem readInto_eq {front : List Char} (unread : rest.char? = none) {rounds : Nat} (enough : front.length ≤ rounds)
    (text : String) :
    readInto rounds text (front.flatMap String.utf8EncodeChar ++ rest) = (text ++ String.ofList front, rest) := by
  induction front generalizing rounds text with
  | nil =>
    cases rounds with
    | zero => simp [readInto]
    | succ rounds => simp [readInto, unread]
  | cons c front ih =>
    obtain ⟨rounds, rfl⟩ := Nat.exists_eq_succ_of_ne_zero (Nat.ne_zero_of_lt enough)
    rw [List.flatMap_cons, List.append_assoc]
    unfold readInto
    rw [char?_utf8EncodeChar]
    dsimp only
    rw [← String.length_utf8EncodeChar, List.drop_left, ih (Nat.le_of_succ_le_succ enough)]
    congr 1
    rw [String.ofList_cons, String.push_eq_append, String.append_assoc]

/-- Every character has a byte at least. -/
theorem length_le_length_encoded (chars : List Char) : chars.length ≤ (chars.flatMap String.utf8EncodeChar).length := by
  induction chars with
  | nil => exact Nat.zero_le _
  | cons c chars ih =>
    have some := c.utf8Size_pos
    rw [List.flatMap_cons, List.length_append, List.length_cons, String.length_utf8EncodeChar]
    omega

theorem readText_eq {front : List Char} (unread : rest.char? = none) :
    readText (front.flatMap String.utf8EncodeChar ++ rest) = (String.ofList front, rest) := by
  have enough : front.length ≤ (front.flatMap String.utf8EncodeChar ++ rest).length := by
    rw [List.length_append]
    exact Nat.le_trans (length_le_length_encoded front) (Nat.le_add_right _ _)
  unfold readText
  rw [readInto_eq unread enough]
  simp

end Bytes

namespace Json.Bridge

open Bytes (Cut)

/-- A bridge passes on the characters that have come, and holds what is cut. -/
theorem take?_eq {bridge : Bridge} {piece more : Bytes} {chars : List Char}
    (all : bridge.held ++ piece ++ more = chars.flatMap String.utf8EncodeChar) :
    ∃ front later rest, chars = front ++ later ∧ bridge.take? piece = some (String.ofList front, ⟨rest⟩) ∧
      rest ++ more = later.flatMap String.utf8EncodeChar ∧ Cut rest later := by
  obtain ⟨front, later, rest, rfl, same, cut⟩ := Bytes.exists_cut all
  refine ⟨front, later, rest, rfl, ?_, ?_, cut⟩
  · unfold take?
    rw [same, Bytes.readText_eq cut.char?]
    dsimp only
    rw [if_pos cut.passes]
  · rw [same, List.append_assoc, List.flatMap_append] at all
    exact List.append_cancel_left all

end Json.Bridge
end Egress
