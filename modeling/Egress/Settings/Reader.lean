import Egress.Json.Scan
import Egress.Settings

/-!
Reading settings from a JSON document: an object with any of the settings by name, where unknown members are
passed over, or an array with the first few of them in order. What is not given has its standard value.
-/
namespace Egress.Settings

/-- The settings that a document has given so far. -/
structure Given where
  textBufferSize : Option UInt64
  binaryBufferSize : Option UInt64
  controlPolicy : Option ControlPolicy
  batchMode : Option BatchMode
  idleMillis : Option UInt64

namespace Given

def nothing : Given := ⟨none, none, none, none, none⟩

def has (given : Given) : Key → Bool
  | .textBufferSize => given.textBufferSize.isSome
  | .binaryBufferSize => given.binaryBufferSize.isSome
  | .controlPolicy => given.controlPolicy.isSome
  | .batchMode => given.batchMode.isSome
  | .idleMillis => given.idleMillis.isSome

/-- All settings, with standard values where none was given. -/
def complete (given : Given) : Settings where
  textBufferSize := given.textBufferSize.getD standard.textBufferSize
  binaryBufferSize := given.binaryBufferSize.getD standard.binaryBufferSize
  controlPolicy := given.controlPolicy.getD standard.controlPolicy
  batchMode := given.batchMode.getD standard.batchMode
  idleMillis := given.idleMillis.getD standard.idleMillis

end Given

open Json

/-- A choice among keywords: the keyword, or an object with the keyword as the name of a null. -/
def readKeyword (text : List Char) : Option (String × List Char) :=
  match skipBlanks text with
  | '\x7b' :: rest => do
    let (keyword, afterName) ← readString rest
    let value ← expect ':' afterName
    let afterValue ← expectWord "null".toList (skipBlanks value)
    let after ← expect '\x7d' afterValue
    some (keyword, after)
  | text => readString text

def readValue (given : Given) (key : Key) (text : List Char) : Option (Given × List Char) :=
  match key with
  | .textBufferSize => do
    let (n, rest) ← readUInt64 text
    some ({ given with textBufferSize := some n }, rest)
  | .binaryBufferSize => do
    let (n, rest) ← readUInt64 text
    some ({ given with binaryBufferSize := some n }, rest)
  | .controlPolicy => do
    let (keyword, rest) ← readKeyword text
    let policy ← ControlPolicy.ofKeyword? keyword
    some ({ given with controlPolicy := some policy }, rest)
  | .batchMode => do
    let (keyword, rest) ← readKeyword text
    let mode ← BatchMode.ofKeyword? keyword
    some ({ given with batchMode := some mode }, rest)
  | .idleMillis => do
    let (n, rest) ← readUInt64 text
    some ({ given with idleMillis := some n }, rest)

/-- Reads one member of the object. A setting may be given once. -/
def readMember (given : Given) (text : List Char) : Option (Given × List Char) := do
  let (name, afterName) ← readString text
  let value ← expect ':' afterName
  match Key.ofName? name with
  | some key => if given.has key then none else readValue given key value
  | none => do
    let rest ← skipValue value
    some (given, rest)

/-- Reads members up to the end of the object, at most `count` of them. -/
def readMembers : (count : Nat) → Given → List Char → Option (Given × List Char)
  | 0, _, _ => none
  | count + 1, given, text => do
    let (given, rest) ← readMember given text
    match skipBlanks rest with
    | ',' :: more => readMembers count given more
    | '\x7d' :: after => some (given, after)
    | _ => none

/-- Reads the settings in `keys`, one after the other, up to the end of the array. -/
def readElements : (keys : List Key) → Given → List Char → Option (Given × List Char)
  | [], _, _ => none
  | key :: keys, given, text => do
    let (given, rest) ← readValue given key text
    match skipBlanks rest with
    | ',' :: more => readElements keys given more
    | ']' :: after => some (given, after)
    | _ => none

def readGiven (text : List Char) : Option (Given × List Char) :=
  match skipBlanks text with
  | '\x7b' :: rest =>
    match skipBlanks rest with
    | '\x7d' :: after => some (.nothing, after)
    | _ => readMembers rest.length .nothing rest
  | '[' :: rest =>
    match skipBlanks rest with
    | ']' :: after => some (.nothing, after)
    | _ => readElements Key.all .nothing rest
  | _ => none

def read? (document : String) : Option Settings :=
  match readGiven document.toList with
  | some (given, rest) => if (skipBlanks rest).isEmpty then some given.complete else none
  | none => none

/-- The start of the message about a document that cannot be read. -/
def refusal : String := "endpoint config: "

/-- The usable settings that a document gives. -/
def ofJson (document : String) : Except SendError Settings :=
  match read? document with
  | none => .error (.invalidArgument refusal)
  | some settings =>
    match settings.validate with
    | .ok () => .ok settings
    | .error error => .error error

end Egress.Settings
