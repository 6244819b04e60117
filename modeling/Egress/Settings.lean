import Egress.BatchMode
import Egress.Duration
import Egress.Failure

/-!
The settings of a sender, and which of them are usable.
-/
namespace Egress

/-- What happens to a control frame whose payload is too long. -/
inductive ControlPolicy where
  | reject
  | truncate
  deriving DecidableEq

namespace ControlPolicy

def keyword : ControlPolicy → String
  | .reject => "reject"
  | .truncate => "truncate"

def name : ControlPolicy → String
  | .reject => "Reject"
  | .truncate => "Truncate"

def all : List ControlPolicy := [.reject, .truncate]

def ofKeyword? (keyword : String) : Option ControlPolicy := all.find? (·.keyword = keyword)

end ControlPolicy

structure Settings where
  /-- How many bytes of a streamed text message are put together before a frame goes out. -/
  textBufferSize : UInt64
  /-- How many bytes of a streamed binary message are put together before a frame goes out. -/
  binaryBufferSize : UInt64
  controlPolicy : ControlPolicy
  batchMode : BatchMode
  /-- How long a connection may be idle, in milliseconds. -/
  idleMillis : UInt64
  deriving DecidableEq

namespace Settings

/-- The settings that hold where nothing else is said. -/
def standard : Settings where
  textBufferSize := 32768
  binaryBufferSize := 32768
  controlPolicy := .reject
  batchMode := .off
  idleMillis := 30000

inductive Key where
  | textBufferSize
  | binaryBufferSize
  | controlPolicy
  | batchMode
  | idleMillis
  deriving DecidableEq

namespace Key

def name : Key → String
  | .textBufferSize => "max_text_message_buffer_size"
  | .binaryBufferSize => "max_binary_message_buffer_size"
  | .controlPolicy => "control_payload_policy"
  | .batchMode => "batch_mode"
  | .idleMillis => "idle_timeout_ms"

def all : List Key := [.textBufferSize, .binaryBufferSize, .controlPolicy, .batchMode, .idleMillis]

def ofName? (name : String) : Option Key := all.find? (·.name = name)

end Key

def idleTimeout (settings : Settings) : Duration := .ofMillis settings.idleMillis.toNat

/-- The same settings with another idle time; one too long to be stated becomes the longest that can be. -/
def withIdleTimeout (settings : Settings) (span : Duration) : Settings :=
  { settings with idleMillis := span.millisClamped }

/-- The settings are usable if a frame of a streamed message can hold at least a byte. -/
def validate (settings : Settings) : Outcome :=
  if settings.textBufferSize = 0 then
    .error (.invalidArgument (Key.textBufferSize.name ++ " must be greater than zero"))
  else if settings.binaryBufferSize = 0 then
    .error (.invalidArgument (Key.binaryBufferSize.name ++ " must be greater than zero"))
  else .ok ()

/-- How many bytes of a streamed message of this kind are put together before a frame goes out. -/
def bufferSize (settings : Settings) : MessageKind → Nat
  | .text => settings.textBufferSize.toNat
  | .binary => settings.binaryBufferSize.toNat

def valueText (settings : Settings) : Key → String
  | .textBufferSize => toString settings.textBufferSize.toNat
  | .binaryBufferSize => toString settings.binaryBufferSize.toNat
  | .controlPolicy => "\"" ++ settings.controlPolicy.keyword ++ "\""
  | .batchMode => "\"" ++ settings.batchMode.keyword ++ "\""
  | .idleMillis => toString settings.idleMillis.toNat

def memberText (settings : Settings) (key : Key) : String :=
  "\"" ++ key.name ++ "\":" ++ settings.valueText key

def toJson (settings : Settings) : String :=
  "\x7b" ++ ",".intercalate (Key.all.map settings.memberText) ++ "\x7d"

end Settings
end Egress
