import Egress.Writer.Batch
import Mathlib.Algebra.Group.Nat.Defs

/-!
Reading the wire. Whoever reads the bytes of some frames, one frame after the other, gets back the frames that were sent
and the keys they were masked with, and no byte is left over. So no two lists of frames have the same bytes.
-/
namespace Egress

/-! ## Headers -/

/-- The first byte of a header: the opcode and the final mark. -/
def Opcode.marks (opcode : Opcode) (final : Bool) : UInt8 := if final then opcode.code ||| 128 else opcode.code

/-- The bytes of the key at the end of a header. -/
def MaskKey.field (key : Option MaskKey) : Bytes := key.elim [] MaskKey.bytes

/-- The mask bit in the second byte of a header. -/
def MaskKey.bit (key : Option MaskKey) : UInt8 := key.elim 0 fun _ => 128

theorem Frame.header_eq (frame : Frame) (key : Option MaskKey) :
    frame.header key = frame.opcode.marks frame.final ::
      (lengthField (MaskKey.bit key) frame.payload.length ++ MaskKey.field key) := by
  cases key with
  | none => exact congrArg (_ :: ·) (List.append_nil _).symm
  | some key => rfl

/-- The forms in which a header states a length: the bytes that the header takes up apart from the key, and the lengths
below which the form serves. -/
def Frame.lengthForms : List (Nat × Nat) := [(2, 126), (4, 2 ^ 16), (10, 2 ^ 64)]

/-- The shortest form of a header that serves for a length has so many bytes. -/
structure Frame.ShortestForm (length size : Nat) : Prop where
  serves : ∃ limit, (size, limit) ∈ lengthForms ∧ length < limit
  shortest : ∀ form ∈ lengthForms, length < form.2 → size ≤ form.1

theorem Frame.shortestForm_lengthField (bit : UInt8) {length : Nat} (fits : length < 2 ^ 64) :
    ShortestForm length (1 + (lengthField bit length).length) := by
  unfold lengthField
  by_cases short : length < 126
  · rw [if_pos short]
    refine ⟨⟨126, by simp [lengthForms], short⟩, ?_⟩
    simp [lengthForms]
  · rw [if_neg short]
    by_cases medium : length ≤ 65535
    · rw [if_pos medium]
      refine ⟨⟨2 ^ 16, by simp [lengthForms], by omega⟩, ?_⟩
      simp [lengthForms, short]
    · rw [if_neg medium]
      refine ⟨⟨2 ^ 64, by simp [lengthForms], fits⟩, ?_⟩
      have long : 65536 ≤ length := by omega
      simp [lengthForms, short, long]

/-! ## One frame -/

namespace WireFrame

def final (frame : WireFrame) : Bool := frame.first &&& 128 != 0

def opcode? (frame : WireFrame) : Option Opcode := Opcode.ofCode? (frame.first &&& 15)

/-- The frame that was sent and the key that it was masked with, if its opcode is known. -/
def sent? (frame : WireFrame) : Option (Frame × Option MaskKey) :=
  frame.opcode?.map fun opcode => (⟨opcode, frame.final, frame.payload⟩, frame.key)

/-- What a frame reads as. -/
def ofFrame (frame : Frame) (key : Option MaskKey) : WireFrame :=
  ⟨frame.opcode.marks frame.final, key, frame.payload, (EncodedFrame.ofFrame frame key).size⟩

theorem ofCode?_marks (opcode : Opcode) (final : Bool) : Opcode.ofCode? (opcode.marks final &&& 15) = some opcode := by
  cases opcode <;> cases final <;> decide

theorem final_marks (opcode : Opcode) (final : Bool) : (opcode.marks final &&& 128 != 0) = final := by
  cases opcode <;> cases final <;> decide

theorem sent?_ofFrame (frame : Frame) (key : Option MaskKey) : (ofFrame frame key).sent? = some (frame, key) := by
  show (Opcode.ofCode? (frame.opcode.marks frame.final &&& 15)).map
    (fun opcode => ((⟨opcode, frame.opcode.marks frame.final &&& 128 != 0, frame.payload⟩ : Frame), key)) = _
  rw [ofCode?_marks, final_marks]
  rfl

/-- The mask bit and the seven bits below it. -/
theorem toNat_bit_or (key : Option MaskKey) {low : Nat} (small : low < 128) :
    (MaskKey.bit key ||| UInt8.ofNat low).toNat = key.elim 0 (fun _ => 128) + low := by
  have none : ∀ low < 128, ((0 : UInt8) ||| UInt8.ofNat low).toNat = 0 + low := by decide
  have some : ∀ low < 128, ((128 : UInt8) ||| UInt8.ofNat low).toNat = 128 + low := by decide
  cases key with
  | none => exact none low small
  | some key => exact some low small

/-- A length field states the mask bit and the length: in the low bits of its first byte, or in the bytes that those bits
announce. -/
theorem lengthField_cases (key : Option MaskKey) {length : Nat} (fits : length < 2 ^ 63) :
    ∃ low more, Frame.lengthField (MaskKey.bit key) length = (MaskKey.bit key ||| UInt8.ofNat low) :: more ∧
      low < 128 ∧ more.length = lengthWidth low ∧ (if lengthWidth low = 0 then low else Bytes.toNat more) = length := by
  unfold Frame.lengthField
  by_cases short : length < 126
  · have width : lengthWidth length = 0 := by
      unfold lengthWidth
      rw [if_neg (by omega), if_neg (by omega)]
    rw [if_pos short]
    exact ⟨length, [], rfl, by omega, width.symm, if_pos width⟩
  · rw [if_neg short]
    by_cases medium : length ≤ 65535
    · rw [if_pos medium]
      exact ⟨126, _, rfl, by decide, Bytes.length_bigEndian _ _, Bytes.toNat_bigEndian (by simp; omega)⟩
    · rw [if_neg medium]
      exact ⟨127, _, rfl, by decide, Bytes.length_bigEndian _ _, Bytes.toNat_bigEndian (by simp; omega)⟩

theorem size_ofFrame (frame : Frame) (key : Option MaskKey) {low : Nat} {more : Bytes}
    (field : Frame.lengthField (MaskKey.bit key) frame.payload.length = (MaskKey.bit key ||| UInt8.ofNat low) :: more) :
    (EncodedFrame.ofFrame frame key).size = 2 + more.length + (MaskKey.field key).length + frame.payload.length := by
  unfold EncodedFrame.size EncodedFrame.ofFrame
  rw [Frame.header_eq, field, Frame.length_body]
  simp
  omega

/-- A frame is read back from the front of its bytes. -/
theorem read_encode (frame : Frame) (key : Option MaskKey) (fits : frame.payload.length < 2 ^ 63) (rest : Bytes) :
    read (frame.encode key ++ rest) = some (ofFrame frame key, rest) := by
  obtain ⟨low, more, field, small, width, stated⟩ := lengthField_cases key fits
  have size := size_ofFrame frame key field
  have bytes : frame.encode key ++ rest = frame.opcode.marks frame.final :: (MaskKey.bit key ||| UInt8.ofNat low) ::
      (more ++ (MaskKey.field key ++ (frame.body key ++ rest))) := by
    unfold Frame.encode
    rw [Frame.header_eq, field]
    simp
  have seven : (MaskKey.bit key ||| UInt8.ofNat low).toNat % 128 = low := by
    rw [toNat_bit_or key small]
    cases key <;> simp <;> omega
  have front : Bytes.splitAt? (lengthWidth low) (more ++ (MaskKey.field key ++ (frame.body key ++ rest)))
      = some (more, MaskKey.field key ++ (frame.body key ++ rest)) := by
    rw [← width]
    exact Bytes.splitAt?_append _ _
  have body : Bytes.splitAt? frame.payload.length (frame.body key ++ rest) = some (frame.body key, rest) := by
    rw [← frame.length_body key]
    exact Bytes.splitAt?_append _ _
  rw [bytes, read]
  simp only [seven, front, Option.bind_eq_bind, Option.bind_some, stated]
  cases key with
  | none =>
    have unmasked : (MaskKey.bit none ||| UInt8.ofNat low).toNat < 128 := by
      rw [toNat_bit_or none small]
      exact (Nat.zero_add low).symm ▸ small
    rw [if_pos unmasked, ofFrame, size, ← width]
    show (Bytes.splitAt? frame.payload.length (frame.body none ++ rest)).bind _ = _
    rw [body]
    rfl
  | some key =>
    have masked : ¬ (MaskKey.bit (some key) ||| UInt8.ofNat low).toNat < 128 := by
      rw [toNat_bit_or (some key) small]
      exact Nat.not_lt.mpr (Nat.le_add_right 128 low)
    rw [if_neg masked, ofFrame, size, ← width]
    show (Bytes.splitAt? frame.payload.length (frame.body (some key) ++ rest)).bind _ = _
    rw [body, Frame.body]
    show some ((⟨_, _, key.mask (key.mask frame.payload), _⟩ : WireFrame), rest) = _
    rw [MaskKey.mask_mask]
    rfl

/-! ## Many frames -/

/-- The bytes of some frames, each masked with its key if it has one. -/
def encodeAll (frames : List (Frame × Option MaskKey)) : Bytes := frames.flatMap fun sent => sent.1.encode sent.2

/-- The frames that were sent and their keys, if the bytes are those of frames and nothing else. -/
def decode (bytes : Bytes) : Option (List (Frame × Option MaskKey)) :=
  match readAll bytes with
  | (frames, []) => frames.mapM sent?
  | _ => none

/-- Every payload is one whose length a header can state. -/
def Statable (frames : List (Frame × Option MaskKey)) : Prop := ∀ sent ∈ frames, sent.1.payload.length < 2 ^ 63

theorem readMany_encodeAll {frames : List (Frame × Option MaskKey)} (fits : Statable frames) {count : Nat}
    (enough : frames.length ≤ count) :
    readMany count (encodeAll frames) = (frames.map fun sent => ofFrame sent.1 sent.2, []) := by
  induction frames generalizing count with
  | nil => cases count <;> rfl
  | cons sent frames ih =>
    obtain ⟨count, rfl⟩ := Nat.exists_eq_succ_of_ne_zero (Nat.ne_of_gt (Nat.lt_of_lt_of_le (Nat.succ_pos _) enough))
    have front := read_encode sent.1 sent.2 (fits sent List.mem_cons_self) (encodeAll frames)
    have rest := ih (fun later member => fits later (List.mem_cons_of_mem _ member)) (Nat.le_of_succ_le_succ enough)
    show readMany (count + 1) (sent.1.encode sent.2 ++ encodeAll frames) = _
    rw [readMany, front]
    dsimp only
    rw [rest]
    rfl

/-- A frame takes up at least a byte. -/
theorem length_le_encodeAll (frames : List (Frame × Option MaskKey)) : frames.length ≤ (encodeAll frames).length := by
  induction frames with
  | nil => exact Nat.le_refl _
  | cons sent frames ih =>
    have some : 0 < (sent.1.encode sent.2).length := by
      unfold Frame.encode
      rw [List.length_append, Frame.header_eq, List.length_cons]
      omega
    show frames.length + 1 ≤ (sent.1.encode sent.2 ++ encodeAll frames).length
    rw [List.length_append]
    omega

theorem readAll_encodeAll {frames : List (Frame × Option MaskKey)} (fits : Statable frames) :
    readAll (encodeAll frames) = (frames.map fun sent => ofFrame sent.1 sent.2, []) :=
  readMany_encodeAll fits (length_le_encodeAll frames)

theorem mapM_sent?_ofFrame (frames : List (Frame × Option MaskKey)) :
    (frames.map fun sent => ofFrame sent.1 sent.2).mapM sent? = some frames := by
  induction frames with
  | nil => rfl
  | cons sent frames ih =>
    rw [List.map_cons, List.mapM_cons, sent?_ofFrame, ih]
    rfl

theorem decode_encodeAll {frames : List (Frame × Option MaskKey)} (fits : Statable frames) :
    decode (encodeAll frames) = some frames := by
  unfold decode
  rw [readAll_encodeAll fits]
  exact mapM_sent?_ofFrame frames

/-- Frames with the same bytes are the same frames. -/
theorem encodeAll_inj {frames others : List (Frame × Option MaskKey)} (fits : Statable frames) (fit : Statable others)
    (same : encodeAll frames = encodeAll others) : frames = others := by
  refine Option.some.inj ?_
  rw [← decode_encodeAll fits, same, decode_encodeAll fit]

end WireFrame

/-- A header is as short as the length of the payload allows. -/
theorem Frame.length_header (frame : Frame) (key : Option MaskKey) (fits : frame.payload.length < 2 ^ 64) :
    ∃ form, ShortestForm frame.payload.length form ∧ (frame.header key).length = form + (MaskKey.field key).length := by
  refine ⟨_, shortestForm_lengthField (MaskKey.bit key) fits, ?_⟩
  rw [header_eq, List.length_cons, List.length_append]
  omega

theorem EncodedFrame.size_ofFrame (frame : Frame) (key : Option MaskKey) :
    (ofFrame frame key).size = (frame.encode key).length :=
  (List.length_append ..).symm

/-- The frames on the wire are read back as they were sent, each with its opcode, its final mark, its key and its
payload, and no byte is left over; no other frames have these bytes. The header of each frame takes the shortest form,
and the size of a frame is the number of its bytes. -/
theorem WireFrame.decodes_uniquely {frames : List (Frame × Option MaskKey)} (fits : Statable frames) :
    decode (encodeAll frames) = some frames ∧
      (∀ others, Statable others → encodeAll others = encodeAll frames → others = frames) ∧
      ∀ sent ∈ frames,
        (∃ form, Frame.ShortestForm sent.1.payload.length form ∧
          (sent.1.header sent.2).length = form + (MaskKey.field sent.2).length) ∧
        (EncodedFrame.ofFrame sent.1 sent.2).size = (sent.1.encode sent.2).length := by
  refine ⟨decode_encodeAll fits, fun others fit same => encodeAll_inj fit fits same, fun sent member => ⟨?_, ?_⟩⟩
  · exact sent.1.length_header sent.2 (Nat.lt_trans (fits sent member) (by decide))
  · exact EncodedFrame.size_ofFrame sent.1 sent.2

/-- A masked fragment and the rest of its message, long enough for the second form of a header. -/
def WireFrame.fragments : List (Frame × Option MaskKey) :=
  [(⟨.text, false, [104, 105]⟩, some ⟨1, 2, 3, 4⟩), (⟨.continuation, true, List.replicate 126 33⟩, none)]

theorem WireFrame.decodes_fragments : Statable fragments ∧ decode (encodeAll fragments) = some fragments ∧
    ((encodeAll fragments).take 10, (encodeAll fragments).length) = ([1, 130, 1, 2, 3, 4, 105, 107, 128, 126], 138) := by
  have fits : Statable fragments := by
    intro sent member
    rcases List.mem_cons.mp member with rfl | member
    · decide
    · rw [List.mem_singleton.mp member]
      exact Nat.lt_of_le_of_lt (Nat.le_of_eq List.length_replicate) (by decide)
  exact ⟨fits, (WireFrame.decodes_uniquely fits).1, by decide +kernel⟩

end Egress
