import Egress.Emission
import Egress.Json.Printer
import Egress.MessagePack

/-!
Encoders of application values, in four shapes: text or binary, as a whole message or as a stream. An encoder
for one type of value becomes an encoder for objects of any type by refusing objects of the other types.
-/
namespace Egress

/-- The types of an application's values, and their names. -/
structure ValueTypes where
  Kind : Type
  decEq : DecidableEq Kind
  Content : Kind → Type
  name : Kind → String

namespace ValueTypes

instance (types : ValueTypes) : DecidableEq types.Kind := types.decEq

structure Object (types : ValueTypes) where
  kind : types.Kind
  content : types.Content kind

/-- The value, if it is of the given type. -/
def Object.as? {types : ValueTypes} (object : types.Object) (kind : types.Kind) : Option (types.Content kind) :=
  if same : object.kind = kind then some (same ▸ object.content) else none

variable {types : ValueTypes} {kind : types.Kind}

theorem Object.as?_self (kind : types.Kind) (content : types.Content kind) :
    (⟨kind, content⟩ : types.Object).as? kind = some content := dif_pos rfl

theorem Object.as?_of_ne {object : types.Object} (foreign : object.kind ≠ kind) : object.as? kind = none :=
  dif_neg foreign

end ValueTypes

inductive Encoder (α : Type) where
  | text (encode : α → Except Fault String)
  | textStream (encode : α → TextEmission)
  | binary (encode : α → Except Fault Bytes)
  | binaryStream (encode : α → ByteEmission)

namespace Encoder

def shape {α : Type} : Encoder α → String
  | .text _ => "text"
  | .textStream _ => "text-stream"
  | .binary _ => "binary"
  | .binaryStream _ => "binary-stream"

def describe {α : Type} (encoder : Encoder α) : String := "Encoder(\"" ++ encoder.shape ++ "\")"

variable {types : ValueTypes}

/-- What is said about a value of a type other than the encoder's own. -/
def mismatch (types : ValueTypes) (kind : types.Kind) : Fault :=
  .failed ((EncodingError.new "value does not match the encoder's type").forType (types.name kind))

/-- The same encoder for objects of every type. It works on objects of its own type only. -/
def erase {kind : types.Kind} : Encoder (types.Content kind) → Encoder types.Object
  | .text encode => .text fun object =>
    match object.as? kind with
    | some content => encode content
    | none => .error (mismatch types kind)
  | .textStream encode => .textStream fun object =>
    match object.as? kind with
    | some content => encode content
    | none => .done (.error (mismatch types kind))
  | .binary encode => .binary fun object =>
    match object.as? kind with
    | some content => encode content
    | none => .error (mismatch types kind)
  | .binaryStream encode => .binaryStream fun object =>
    match object.as? kind with
    | some content => encode content
    | none => .done (.error (mismatch types kind))

/-! ## Encoders for common formats -/

def json {α : Type} (toValue : α → Value) : Encoder α := .text fun a => Json.encode (toValue a)

def jsonStream {α : Type} (toValue : α → Value) : Encoder α := .textStream fun a => Json.emission (toValue a)

def messagePack {α : Type} (toValue : α → Value) : Encoder α := .binary fun a => MessagePack.encode (toValue a)

def messagePackStream {α : Type} (toValue : α → Value) : Encoder α :=
  .binaryStream fun a => MessagePack.emission (toValue a)

def rawText : Encoder String := .text .ok

def rawBytes : Encoder Bytes := .binary .ok

end Encoder

/-! ## Writers in memory -/

namespace Emission

/-- A writer in memory that takes texts. -/
def appendText (written : String) (text : String) : Except Unit Unit × String := (.ok (), written ++ text)

def appendBytes (written : Array UInt8) : ByteAction → Except SendError Unit × Array UInt8
  | .write bytes | .call bytes => (.ok (), written ++ bytes)
  | .flush => (.ok (), written)

/-- What a text encoder writes into memory, and how it ends. -/
def collectText (emission : TextEmission) : Except Fault Unit × String := emission.run appendText ""

def collectBytes (emission : ByteEmission) : Except Fault Unit × Array UInt8 := emission.run appendBytes #[]

/-- A writer that counts bytes and refuses what would take it over the limit. -/
def takeWithin {Refusal : Type} (limit : Nat) (refusal : Refusal) (written size : Nat) :
    Except Refusal Unit × Nat :=
  if written + size ≤ limit then (.ok (), written + size) else (.error refusal, written)

/-- How a text encoder ends on a writer that takes at most `limit` bytes in all. -/
def runTextWithin (limit : Nat) (emission : TextEmission) : Except Fault Unit :=
  (emission.run (fun written text => takeWithin limit () written (Bytes.ofText text).length) 0).1

def runBytesWithin (limit : Nat) (emission : ByteEmission) : Except Fault Unit :=
  (emission.run (fun written action =>
    match action with
    | .write bytes | .call bytes => takeWithin limit .backpressure written bytes.length
    | .flush => (.ok (), written)) 0).1

end Emission

/-- What an encoder makes of a value in memory: a text or bytes, whichever it writes. A whole message that
fails leaves nothing, a stream what it had written. -/
structure Encoded where
  result : Except Fault Unit
  text : Option String
  bytes : Option Bytes

def Encoder.inMemory {α : Type} (encoder : Encoder α) (a : α) : Encoded :=
  match encoder with
  | .text encode =>
    match encode a with
    | .ok content => ⟨.ok (), some content, none⟩
    | .error fault => ⟨.error fault, none, none⟩
  | .binary encode =>
    match encode a with
    | .ok content => ⟨.ok (), none, some content⟩
    | .error fault => ⟨.error fault, none, none⟩
  | .textStream encode =>
    match (encode a).collectText with
    | (result, written) => ⟨result, some written, none⟩
  | .binaryStream encode =>
    match (encode a).collectBytes with
    | (result, written) => ⟨result, none, some written.toList⟩

/-- How an encoder ends on a writer that takes at most `limit` bytes in all. A whole message needs no writer. -/
def Encoder.within {α : Type} (limit : Nat) (encoder : Encoder α) (a : α) : Except Fault Unit :=
  match encoder with
  | .textStream encode => (encode a).runTextWithin limit
  | .binaryStream encode => (encode a).runBytesWithin limit
  | whole => (whole.inMemory a).result

end Egress
