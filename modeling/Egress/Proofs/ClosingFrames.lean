import Egress.Proofs.CharacterBridge
import Egress.Proofs.ControlFrames

/-!
Closing frames. The body of a closing frame is a status code and then a reason, which is a text. A sender that cuts control
frames cuts them at a byte: it keeps the code and the first bytes of the reason, and what it keeps is a text unless the cut
falls inside of a character.
-/
namespace Egress

namespace Bytes

/-- No character of the text lies across the end of its first `size` bytes. -/
def PartsAt (text : String) (size : Nat) : Prop :=
  (ofText text).length ≤ size ∨ ∃ front : String, front.toList <+: text.toList ∧ (ofText front).length = size

/-- The bytes are the first characters of the text, and a part of the character after them. -/
def SplitsIn (text : String) (bytes : Bytes) : Prop :=
  ∃ (front : String) (c : Char) (part : Bytes), front.toList ++ [c] <+: text.toList ∧ bytes = ofText front ++ part ∧
    part <+: String.utf8EncodeChar c ∧ part ≠ [] ∧ part ≠ String.utf8EncodeChar c

variable {reason front : String} {size : Nat} {rest : Bytes} {later : List Char}

theorem ofText_of_front (inside : front.toList <+: reason.toList) : ofText front <+: ofText reason := by
  obtain ⟨later, all⟩ := inside
  refine ⟨later.flatMap String.utf8EncodeChar, ?_⟩
  rw [ofText, ofText, ← all, List.flatMap_append]

/-- The first bytes of a text are its first characters, and perhaps a part of the next one. -/
theorem exists_cut_take (reason : String) (size : Nat) :
    ∃ (front : String) (later : List Char) (rest : Bytes), reason.toList = front.toList ++ later ∧
      (ofText reason).take size = ofText front ++ rest ∧ Cut rest later :=
  cut_of_prefix (List.take_prefix size _)

/-- A part of a character is not read as a text, even after other characters. -/
theorem Cut.nil_of_isText (cut : Cut rest later) (valid : IsText (ofText front ++ rest)) : rest = [] := by
  obtain ⟨chars, same⟩ := valid
  have same : ofText front ++ rest = chars.flatMap String.utf8EncodeChar := by
    rw [← List.toByteArray_inj, same]
    rfl
  have here : readText (ofText front ++ rest) = (String.ofList front.toList, rest) := readText_eq cut.char?
  have there : readText (chars.flatMap String.utf8EncodeChar ++ []) = (String.ofList chars, []) := readText_eq rfl
  rw [same, ← List.append_nil (chars.flatMap _), there] at here
  exact (Prod.mk.inj here).2.symm

/-- Where no character lies across the cut, what is kept is the first characters of the text. -/
theorem PartsAt.text (parts : PartsAt reason size) :
    ∃ front : String, front.toList <+: reason.toList ∧ (ofText reason).take size = ofText front := by
  rcases parts with short | ⟨front, inside, whole⟩
  · exact ⟨reason, List.prefix_refl _, List.take_of_length_le short⟩
  · refine ⟨front, inside, ?_⟩
    rw [← whole]
    exact (List.prefix_iff_eq_take.mp (ofText_of_front inside)).symm

theorem partsAt_iff : PartsAt reason size ↔ IsText ((ofText reason).take size) := by
  constructor
  · intro parts
    obtain ⟨front, _, kept⟩ := parts.text
    exact kept ▸ isText_ofText front
  · intro valid
    obtain ⟨front, later, rest, same, kept, cut⟩ := exists_cut_take reason size
    rw [kept] at valid
    rw [cut.nil_of_isText valid, List.append_nil] at kept
    by_cases short : (ofText reason).length ≤ size
    · exact .inl short
    · refine .inr ⟨front, ⟨later, same.symm⟩, ?_⟩
      rw [← kept, List.length_take_of_le (Nat.le_of_not_le short)]

/-- Where a character lies across the cut, a part of it is kept. -/
theorem splitsIn_of_not_partsAt (apart : ¬ PartsAt reason size) : SplitsIn reason ((ofText reason).take size) := by
  obtain ⟨front, later, rest, same, kept, cut⟩ := exists_cut_take reason size
  have some : rest ≠ [] := by
    rintro rfl
    rw [List.append_nil] at kept
    exact apart (partsAt_iff.mpr (kept ▸ isText_ofText front))
  obtain ⟨c, later, rfl, begins, unfinished⟩ := cut.resolve_left some
  exact ⟨front, c, rest, ⟨later, by rw [same, List.append_assoc]; rfl⟩, kept, begins, some, unfinished⟩

end Bytes

namespace Frame

/-- How much of a reason a closing frame has room for, after the two bytes of its status code. -/
def maxCloseReason : Nat := 123

/-- A payload that has a status code in network order, and then some bytes of a reason. -/
def ClosingBody (code : UInt16) (reasonBytes payload : Bytes) : Prop :=
  ∃ high low : UInt8, payload = high :: low :: reasonBytes ∧ high.toNat * 256 + low.toNat = code.toNat

theorem closingBody_append (code : UInt16) (reasonBytes : Bytes) :
    ClosingBody code reasonBytes (Bytes.bigEndian 2 code.toNat ++ reasonBytes) := by
  refine ⟨UInt8.ofNat (code.toNat / 256), UInt8.ofNat code.toNat, rfl, ?_⟩
  have small := code.toNat_lt
  rw [UInt8.toNat_ofNat', UInt8.toNat_ofNat']
  omega

/-- A closing frame is sent with as much of its reason as there is room for, if the policy allows that the rest is cut. -/
theorem sendable?_close (policy : ControlPolicy) (code : UInt16) (reason : String) :
    (close (some code) reason).sendable? policy =
      if maxCloseReason < (Bytes.ofText reason).length ∧ policy = .reject then none
      else some ⟨.close, true, Bytes.bigEndian 2 code.toNat ++ (Bytes.ofText reason).take maxCloseReason⟩ := by
  have size : (Bytes.bigEndian 2 code.toNat ++ Bytes.ofText reason).length ≤ maxControlPayload ↔
      (Bytes.ofText reason).length ≤ maxCloseReason := by
    simp only [List.length_append, Bytes.length_bigEndian, maxControlPayload, maxCloseReason]
    omega
  have cut : (Bytes.bigEndian 2 code.toNat ++ Bytes.ofText reason).take maxControlPayload =
      Bytes.bigEndian 2 code.toNat ++ (Bytes.ofText reason).take maxCloseReason := rfl
  unfold sendable? close
  dsimp only
  simp only [size, cut]
  cases policy <;> grind

/-- A closing frame with a status code and as much of a reason as there is room for. Where no character lies across the
limit, what is kept of the reason is a text, with which the reason begins. Where one does, a sender has cut the reason, and
what is kept is no text: it ends with a part of that character. -/
structure KeepsReason (policy : ControlPolicy) (code : UInt16) (reason : String) (frame : Frame) : Prop where
  opcode : frame.opcode = .close
  final : frame.final = true
  body : ClosingBody code ((Bytes.ofText reason).take maxCloseReason) frame.payload
  text : Bytes.PartsAt reason maxCloseReason → Bytes.IsText ((Bytes.ofText reason).take maxCloseReason) ∧
    ∃ front : String, front.toList <+: reason.toList ∧ (Bytes.ofText reason).take maxCloseReason = Bytes.ofText front
  split : ¬ Bytes.PartsAt reason maxCloseReason → policy = .truncate ∧
    ¬ Bytes.IsText ((Bytes.ofText reason).take maxCloseReason) ∧
    Bytes.SplitsIn reason ((Bytes.ofText reason).take maxCloseReason)

theorem keepsReason {policy : ControlPolicy} {reason : String}
    (sent : ¬ (maxCloseReason < (Bytes.ofText reason).length ∧ policy = .reject)) (code : UInt16) :
    KeepsReason policy code reason
      ⟨.close, true, Bytes.bigEndian 2 code.toNat ++ (Bytes.ofText reason).take maxCloseReason⟩ where
  opcode := rfl
  final := rfl
  body := closingBody_append code _
  text parts := ⟨Bytes.partsAt_iff.mp parts, parts.text⟩
  split apart := by
    have long : maxCloseReason < (Bytes.ofText reason).length := Nat.lt_of_not_le fun short => apart (.inl short)
    refine ⟨?_, mt Bytes.partsAt_iff.mpr apart, Bytes.splitsIn_of_not_partsAt apart⟩
    cases policy with
    | reject => exact absurd ⟨long, rfl⟩ sent
    | truncate => rfl

end Frame

namespace Sender

variable {types : ValueTypes} {σ : Type} [Carrier σ]

/-- A closing frame with a code and a reason is handed to the carrier, once, unless its reason is longer than 123 bytes and
the policy is to reject such frames. It has its code and the first 123 bytes of its reason, which are a text unless a
character lies across that limit. -/
theorem close_keeps_reason (sender : Sender types (Logged σ)) (code : UInt16) (reason : String) (ticket : Ticket)
    (mode : BatchMode) :
    let policy := sender.session.settings.controlPolicy
    let tooLong := Frame.maxCloseReason < (Bytes.ofText reason).length ∧ policy = .reject
    ∃ new, (sender.sendFrame (.close (some code) reason) ticket mode).log = sender.log ++ new ∧
      new.length = (if tooLong then 0 else 1) ∧
      ∀ handover ∈ new, Frame.KeepsReason policy code reason handover.frame := by
  intro policy tooLong
  have control : (Frame.close (some code) reason).isData = false := rfl
  obtain ⟨_, new, log, frames⟩ := sender.emits_sendFrame control ticket mode
  rw [Frame.sendable?_close] at frames
  refine ⟨new, log, ?_⟩
  by_cases long : tooLong
  · rw [if_pos long] at frames ⊢
    obtain rfl := List.map_eq_nil_iff.mp frames
    exact ⟨rfl, fun _ member => absurd member List.not_mem_nil⟩
  · rw [if_neg long] at frames ⊢
    obtain ⟨handover, rfl, frame⟩ := List.map_eq_singleton_iff.mp frames
    refine ⟨rfl, fun other member => ?_⟩
    obtain rfl := List.mem_singleton.mp member
    exact frame ▸ Frame.keepsReason long code

/-- A reason of 124 bytes, the last two of which are one character. -/
def reasonAcross : String := String.ofList (.replicate 122 'a' ++ ['é'])

/-- A sender that cuts control frames keeps half of the last character. -/
theorem close_splits_character :
    let sender : Sender catalogue (Logged ScriptedCarrier) := .start Custody.cutting (.fresh .accepting) .empty
    (sender.sendFrame (.close (some 1000) reasonAcross) 0 .off).log.map Handover.frame =
        [⟨.close, true, 3 :: 232 :: (List.replicate 122 97 ++ [195])⟩] ∧
      ¬ Bytes.IsText (List.replicate 122 97 ++ [195]) := by
  constructor <;> decide +kernel

end Sender
end Egress
