import Egress.Frame

/-!
The wire format of frames. A header holds the opcode and the final mark, the payload's length in the
shortest of three forms, and the masking key if there is one; the payload follows, masked with that key.
`WireFrame.readAll` reads the format back.
-/
namespace Egress

/-- The four bytes with which a client masks a payload. -/
structure MaskKey where
  first : UInt8
  second : UInt8
  third : UInt8
  fourth : UInt8
  deriving DecidableEq

namespace MaskKey

def bytes (key : MaskKey) : Bytes := [key.first, key.second, key.third, key.fourth]

/-- The key byte for the payload byte at position `i`. -/
def keyByte (key : MaskKey) (i : Nat) : UInt8 :=
  match i % 4 with
  | 0 => key.first
  | 1 => key.second
  | 2 => key.third
  | _ => key.fourth

/-- The payload with every byte combined with its key byte. -/
def mask (key : MaskKey) (payload : Bytes) : Bytes :=
  payload.mapIdx fun i byte => byte ^^^ key.keyByte i

@[simp] theorem length_mask (key : MaskKey) (payload : Bytes) : (key.mask payload).length = payload.length := by
  simp [mask]

/-- Masking twice with one key gives the payload back. -/
theorem mask_mask (key : MaskKey) (payload : Bytes) : key.mask (key.mask payload) = payload := by
  apply List.ext_getElem
  · simp
  · intro i _ _
    simp only [mask, List.getElem_mapIdx]
    rw [UInt8.xor_assoc, UInt8.xor_self, UInt8.xor_zero]

@[simp] theorem mask_nil (key : MaskKey) : key.mask [] = [] := rfl

end MaskKey

namespace Frame

/-- The longest payload that a control frame may carry. -/
def maxControlPayload : Nat := 125

/-- The payload's length as a header states it: in the second byte, which also holds the mask bit, and for
longer payloads in two or eight bytes after it. -/
def lengthField (maskBit : UInt8) (length : Nat) : Bytes :=
  if length < 126 then [maskBit ||| UInt8.ofNat length]
  else if length ≤ 65535 then (maskBit ||| 126) :: Bytes.bigEndian 2 length
  else (maskBit ||| 127) :: Bytes.bigEndian 8 length

def header (frame : Frame) (key : Option MaskKey) : Bytes :=
  let first := if frame.final then frame.opcode.code ||| 128 else frame.opcode.code
  match key with
  | none => first :: lengthField 0 frame.payload.length
  | some key => first :: (lengthField 128 frame.payload.length ++ key.bytes)

def body (frame : Frame) (key : Option MaskKey) : Bytes :=
  match key with
  | none => frame.payload
  | some key => key.mask frame.payload

def encode (frame : Frame) (key : Option MaskKey) : Bytes := frame.header key ++ frame.body key

@[simp] theorem length_body (frame : Frame) (key : Option MaskKey) :
    (frame.body key).length = frame.payload.length := by
  cases key <;> simp [body]

end Frame

structure WireFrame where
  /-- The header's first byte: final mark, reserved bits and opcode. -/
  first : UInt8
  key : Option MaskKey
  payload : Bytes
  size : Nat
  deriving DecidableEq

namespace WireFrame

def readKey : Bytes → Option (MaskKey × Bytes)
  | a :: b :: c :: d :: rest => some (⟨a, b, c, d⟩, rest)
  | _ => none

/-- How many bytes after the second byte state the length, given that byte's seven low bits. -/
def lengthWidth (short : Nat) : Nat := if short = 126 then 2 else if short = 127 then 8 else 0

/-- The frame at the front of `bytes` with what follows it; none if the bytes end before the frame does. -/
def read (bytes : Bytes) : Option (WireFrame × Bytes) :=
  match bytes with
  | first :: second :: afterMarks => do
    let short := second.toNat % 128
    let width := lengthWidth short
    let (stated, afterLength) ← Bytes.splitAt? width afterMarks
    let length := if width = 0 then short else Bytes.toNat stated
    let (key, afterKey) ←
      if second.toNat < 128 then some (none, afterLength)
      else (readKey afterLength).map fun (key, rest) => (some key, rest)
    let (body, rest) ← Bytes.splitAt? length afterKey
    some (match key with
      | none => (⟨first, none, body, 2 + width + length⟩, rest)
      | some key => (⟨first, some key, key.mask body, 2 + width + 4 + length⟩, rest))
  | _ => none

/-- Reads at most `count` frames, one after the other, and stops at the bytes that form no complete frame. -/
def readMany : (count : Nat) → Bytes → List WireFrame × Bytes
  | 0, bytes => ([], bytes)
  | count + 1, bytes =>
    match read bytes with
    | none => ([], bytes)
    | some (frame, rest) =>
      let (frames, left) := readMany count rest
      (frame :: frames, left)

/-- All complete frames at the front of `bytes`, and the bytes after them. A frame takes up at least one
byte, so the number of bytes bounds the number of frames. -/
def readAll (bytes : Bytes) : List WireFrame × Bytes := readMany bytes.length bytes

end WireFrame
end Egress
