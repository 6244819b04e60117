import Egress.Bytes
import Egress.Opcode

/-!
Frames: an opcode, a mark on the last frame of a message, and a payload.
-/
namespace Egress

/-- One frame, before it is encoded for the wire. -/
structure Frame where
  opcode : Opcode
  /-- Whether the frame is the last of its message. -/
  final : Bool
  payload : Bytes
  deriving DecidableEq

namespace Frame

def text (content : String) : Frame := ⟨.text, true, Bytes.ofText content⟩

def binary (payload : Bytes) : Frame := ⟨.binary, true, payload⟩

def continuation (payload : Bytes) (final : Bool) : Frame := ⟨.continuation, final, payload⟩

def ping (payload : Bytes) : Frame := ⟨.ping, true, payload⟩

def pong (payload : Bytes) : Frame := ⟨.pong, true, payload⟩

/-- Ends the connection. A reason can only follow a status code, so without a code the body is empty. -/
def close (code : Option UInt16) (reason : String) : Frame :=
  ⟨.close, true, match code with
    | some code => Bytes.bigEndian 2 code.toNat ++ Bytes.ofText reason
    | none => []⟩

def withFinal (frame : Frame) (final : Bool) : Frame := { frame with final }

/-- Data frames take part in the sequence of messages. -/
def isData (frame : Frame) : Bool := frame.opcode.isData

end Frame
end Egress
