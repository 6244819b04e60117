import Egress.Bytes
import Egress.Failure

/-!
What an encoder does. A whole-message encoder gives its message or a fault. A streaming encoder acts on the
writer that it is given, step by step, and may look at each answer before it goes on: an `Emission` is that
behaviour, for any encoder that stops in the end. A `Draft` is the plain case in which the pieces to be written
are known beforehand.
-/
namespace Egress

inductive Panic where
  | text (content : String)
  | other
  deriving DecidableEq

def Panic.message : Panic → String
  | .text content => content
  | .other => "encoder panicked"

/-- Why an encoder did not do its work. -/
inductive Fault where
  | failed (error : EncodingError)
  | panicked (panic : Panic)
  deriving DecidableEq

/-- The fault as a failure of the send; an error that names no type is about a value of the given type. -/
def Fault.toSendError (typeName : String) : Fault → SendError
  | .failed error => .encoding (error.orForType typeName)
  | .panicked panic => .unexpected panic.message

/-- The behaviour of a streaming encoder: it ends, or it acts and goes on with the answer. -/
inductive Emission (Action : Type) (Refusal : Type) where
  | done (result : Except Fault Unit)
  | act (action : Action) (next : Except Refusal Unit → Emission Action Refusal)

/-- What an encoder can do to a binary writer. -/
inductive ByteAction where
  /-- Writes all of some bytes. No bytes do not reach the writer. -/
  | write (bytes : Bytes)
  /-- Calls the writer once, even with no bytes. -/
  | call (bytes : Bytes)
  | flush
  deriving DecidableEq

/-- A streaming text encoder. It writes texts, and of a refusal it learns nothing more. -/
abbrev TextEmission := Emission String Unit

/-- A streaming binary encoder. A refusal tells it why. -/
abbrev ByteEmission := Emission ByteAction SendError

namespace Emission

/-- Runs an encoder on a writer that answers from a state. -/
def run {Action Refusal State : Type} (answer : State → Action → Except Refusal Unit × State) :
    State → Emission Action Refusal → Except Fault Unit × State
  | state, .done result => (result, state)
  | state, .act action next =>
    match answer state action with
    | (reply, state) => run answer state (next reply)

/-- Writes pieces one after the other and ends with the result, or with `refused` at the first piece that the
writer does not take. -/
def writeAll {Action Refusal : Type} (result : Except Fault Unit) (refused : Fault) :
    List Action → Emission Action Refusal
  | [] => .done result
  | piece :: pieces => .act piece fun
    | .ok () => writeAll result refused pieces
    | .error _ => .done (.error refused)

end Emission

/-- What a printer has written so far, and the fault that stopped it. -/
structure Draft (Piece : Type) where
  pieces : Array Piece
  fault : Option Fault

namespace Draft

variable {Piece : Type}

def empty : Draft Piece := ⟨#[], none⟩

/-- Writes a piece, unless the printer has stopped. -/
def put (draft : Draft Piece) (piece : Piece) : Draft Piece :=
  match draft.fault with
  | none => { draft with pieces := draft.pieces.push piece }
  | some _ => draft

/-- Stops the printer, unless it has stopped. -/
def stop (draft : Draft Piece) (fault : Fault) : Draft Piece :=
  match draft.fault with
  | none => { draft with fault := some fault }
  | some _ => draft

def result (draft : Draft Piece) : Except Fault Unit :=
  match draft.fault with
  | none => .ok ()
  | some fault => .error fault

end Draft
end Egress
