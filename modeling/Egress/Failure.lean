import Egress.Opcode

/-!
Why a send fails. A failure is a cause; `message` gives its wording and `category` its class. Everything but
an `unexpected` failure is a normal outcome of sending; an unexpected one points to a defect.
-/
namespace Egress

/-- A frame that would break the rules of framing. -/
inductive FramingError where
  | cannotBegin (opcode : Opcode)
  /-- A message of one kind cannot start before the current one, of the other kind, has ended. -/
  | inProgress (current attempted : MessageKind)
  /-- A control frame's payload is longer than the limit. -/
  | controlTooLong (size limit : Nat)
  /-- A control frame cannot be split into fragments. -/
  | fragmentedControl (opcode : Opcode)
  deriving DecidableEq

namespace FramingError

def message : FramingError → String
  | .cannotBegin opcode => s!"Encountered invalid data frame opcode {opcode.name}"
  | .inProgress current attempted =>
    s!"Cannot start {attempted.label} message when {current.label} message is not complete yet"
  | .controlTooLong size limit => s!"Control frame payload of {size} bytes exceeds maximum of {limit}"
  | .fragmentedControl opcode => s!"Control frame {opcode.name} must have the final flag set"

end FramingError

/-- A value that its encoder could not turn into a message. -/
structure EncodingError where
  text : String
  typeName : Option String
  /-- Whether another error stands behind this one. -/
  hasSource : Bool
  deriving DecidableEq

namespace EncodingError

def new (text : String) : EncodingError := ⟨text, none, false⟩

def caused (text : String) : EncodingError := ⟨text, none, true⟩

/-- The same error, about a value of the named type. -/
def forType (error : EncodingError) (typeName : String) : EncodingError :=
  { error with typeName := some typeName }

/-- The same error; it names the type if it did not name one before. -/
def orForType (error : EncodingError) (typeName : String) : EncodingError :=
  match error.typeName with
  | some _ => error
  | none => error.forType typeName

def message (error : EncodingError) : String :=
  match error.typeName with
  | some typeName => s!"{error.text} (value of type {typeName})"
  | none => error.text

end EncodingError

inductive TransportFault where
  | brokenPipe
  | connectionReset
  | interrupted
  | timedOut
  | wouldBlock
  | writeZero
  | other
  deriving DecidableEq

namespace TransportFault

def name : TransportFault → String
  | .brokenPipe => "BrokenPipe"
  | .connectionReset => "ConnectionReset"
  | .interrupted => "Interrupted"
  | .timedOut => "TimedOut"
  | .wouldBlock => "WouldBlock"
  | .writeZero => "WriteZero"
  | .other => "Other"

def all : List TransportFault :=
  [.brokenPipe, .connectionReset, .interrupted, .timedOut, .wouldBlock, .writeZero, .other]

/-- The fault of that name. Names that stand for none of the others are other faults. -/
def ofName (name : String) : TransportFault := (all.find? (·.name = name)).getD .other

end TransportFault

structure TransportError where
  fault : TransportFault
  text : String
  deriving DecidableEq

inductive SendError where
  | invalidArgument (text : String)
  | framing (error : FramingError)
  | encoding (error : EncodingError)
  | transport (error : TransportError)
  /-- The connection, or the writer that serves it, is gone. -/
  | closed
  | backpressure
  | unexpected (text : String)
  deriving DecidableEq

inductive ErrorCategory where
  | invalidArgument
  | protocol
  | encode
  | transport
  | unexpected
  deriving DecidableEq

def ErrorCategory.name : ErrorCategory → String
  | .invalidArgument => "InvalidArgument"
  | .protocol => "Protocol"
  | .encode => "Encode"
  | .transport => "Transport"
  | .unexpected => "Unexpected"

namespace SendError

def category : SendError → ErrorCategory
  | .invalidArgument _ => .invalidArgument
  | .framing _ => .protocol
  | .encoding _ => .encode
  | .transport _ | .closed | .backpressure => .transport
  | .unexpected _ => .unexpected

/-- A declared failure is a normal outcome, not a defect. -/
def isDeclared (error : SendError) : Bool := error.category != .unexpected

/-- Whether the failure is the account of another error. -/
def hasSource : SendError → Bool
  | .framing _ | .encoding _ => true
  | _ => false

def message : SendError → String
  | .invalidArgument text => "Invalid argument: " ++ text
  | .framing error => "Protocol violation: " ++ error.message
  | .encoding error => "Encode error: " ++ error.message
  | .transport error => "I/O error: " ++ error.text
  | .closed => "Connection closed"
  | .backpressure => "Backpressure limit reached"
  | .unexpected text => "Unexpected failure: " ++ text

end SendError

abbrev Outcome := Except SendError Unit

end Egress
