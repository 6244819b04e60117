/-!
What a frame is for: the six opcodes of the protocol and the two kinds of message they carry.
-/
namespace Egress

/-- The kind of a data message, whole or in fragments. -/
inductive MessageKind where
  | text
  | binary
  deriving DecidableEq

inductive Opcode where
  | continuation
  | text
  | binary
  | close
  | ping
  | pong
  deriving DecidableEq

namespace MessageKind

def opcode : MessageKind → Opcode
  | .text => .text
  | .binary => .binary

def name : MessageKind → String
  | .text => "Text"
  | .binary => "Binary"

def all : List MessageKind := [.text, .binary]

def ofName? (name : String) : Option MessageKind := all.find? (·.name = name)

def label : MessageKind → String
  | .text => "TEXT"
  | .binary => "BINARY"

end MessageKind

namespace Opcode

/-- The four bits that stand for the opcode in a frame header. -/
def code : Opcode → UInt8
  | .continuation => 0
  | .text => 1
  | .binary => 2
  | .close => 8
  | .ping => 9
  | .pong => 10

/-- Data frames take part in the sequence of messages. -/
def isData : Opcode → Bool
  | .continuation | .text | .binary => true
  | .close | .ping | .pong => false

/-- Control frames may stand between the fragments of a message. -/
def isControl (op : Opcode) : Bool := !op.isData

/-- The kind of message that a frame with this opcode begins, if any. -/
def kind? : Opcode → Option MessageKind
  | .text => some .text
  | .binary => some .binary
  | _ => none

def name : Opcode → String
  | .continuation => "Continuation"
  | .text => "Text"
  | .binary => "Binary"
  | .close => "Close"
  | .ping => "Ping"
  | .pong => "Pong"

def all : List Opcode := [.continuation, .text, .binary, .close, .ping, .pong]

def ofName? (name : String) : Option Opcode := all.find? (·.name = name)

/-- The opcode that a header's four low bits stand for. -/
def ofCode? : UInt8 → Option Opcode
  | 0 => some .continuation
  | 1 => some .text
  | 2 => some .binary
  | 8 => some .close
  | 9 => some .ping
  | 10 => some .pong
  | _ => none

theorem ofCode?_code (op : Opcode) : ofCode? op.code = some op := by cases op <;> rfl

end Opcode

@[simp] theorem MessageKind.isData_opcode (kind : MessageKind) : kind.opcode.isData = true := by
  cases kind <;> rfl

@[simp] theorem MessageKind.kind?_opcode (kind : MessageKind) : kind.opcode.kind? = some kind := by
  cases kind <;> rfl

end Egress
