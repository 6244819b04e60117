import Egress.Frame.Wire
import Egress.Ledger
import Egress.Writer.Transport

/-!
Frames that wait to be written together, with their tickets.
-/
namespace Egress

/-- A frame in the form in which it is written. -/
structure EncodedFrame where
  header : Bytes
  body : Bytes
  deriving DecidableEq

namespace EncodedFrame

def ofFrame (frame : Frame) (key : Option MaskKey) : EncodedFrame := ⟨frame.header key, frame.body key⟩

def size (frame : EncodedFrame) : Nat := frame.header.length + frame.body.length

def bytes (frame : EncodedFrame) : Bytes := frame.header ++ frame.body

/-- The frame as one slice or two: the header, and the payload unless it is empty. -/
def slices (frame : EncodedFrame) : List Bytes :=
  if frame.body.isEmpty then [frame.header] else [frame.header, frame.body]

end EncodedFrame

/-- Frames that wait, the oldest first; the tickets that wait with them; and the bytes that they take up. -/
structure Batch where
  frames : List EncodedFrame
  tickets : List Ticket
  bytes : Nat
  deriving DecidableEq

namespace Batch

def empty : Batch := ⟨[], [], 0⟩

def push (batch : Batch) (frame : EncodedFrame) (ticket : Ticket) : Batch where
  frames := batch.frames ++ [frame]
  tickets := batch.tickets ++ [ticket]
  bytes := batch.bytes + frame.size

def slices (frames : List EncodedFrame) : List Bytes := frames.flatMap EncodedFrame.slices

/-- What is left of the slices of the frames when the first `count` bytes have been taken. -/
def remaining (frames : List EncodedFrame) (count : Nat) : List Bytes :=
  Transport.dropBytes count (slices frames)

end Batch
end Egress
