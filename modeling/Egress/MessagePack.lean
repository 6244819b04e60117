import Egress.Emission
import Egress.Value

/-!
Values as MessagePack, with records as maps from their field names. Every length and integer has its shortest
form. A sequence or map whose length is not known beforehand is put together first and written at its end, so
nothing of it is written if one of its elements fails.
-/
namespace Egress.MessagePack

/-- A marker byte and a number of `width` bytes after it. -/
def marked (marker : UInt8) (width n : Nat) : Bytes := marker :: Bytes.bigEndian width n

def unsigned (n : Nat) : Bytes :=
  if n < 128 then [UInt8.ofNat n]
  else if n < 0x100 then marked 0xcc 1 n
  else if n < 0x10000 then marked 0xcd 2 n
  else if n < 0x100000000 then marked 0xce 4 n
  else marked 0xcf 8 n

/-- An integer of at most 64 bits. Negative numbers are written as complements of two. -/
def integer (n : Int) : Bytes :=
  if 0 ≤ n then unsigned n.toNat
  else if -32 ≤ n then [UInt8.ofNat (256 + n).toNat]
  else if -0x80 ≤ n then marked 0xd0 1 (0x100 + n).toNat
  else if -0x8000 ≤ n then marked 0xd1 2 (0x10000 + n).toNat
  else if -0x80000000 ≤ n then marked 0xd2 4 (0x100000000 + n).toNat
  else marked 0xd3 8 (0x10000000000000000 + n).toNat

def textHeader (n : Nat) : Bytes :=
  if n < 32 then [UInt8.ofNat (0xa0 + n)]
  else if n < 0x100 then marked 0xd9 1 n
  else if n < 0x10000 then marked 0xda 2 n
  else marked 0xdb 4 n

def bytesHeader (n : Nat) : Bytes :=
  if n < 0x100 then marked 0xc4 1 n
  else if n < 0x10000 then marked 0xc5 2 n
  else marked 0xc6 4 n

def arrayHeader (n : Nat) : Bytes :=
  if n < 16 then [UInt8.ofNat (0x90 + n)]
  else if n < 0x10000 then marked 0xdc 2 n
  else marked 0xdd 4 n

def mapHeader (n : Nat) : Bytes :=
  if n < 16 then [UInt8.ofNat (0x80 + n)]
  else if n < 0x10000 then marked 0xde 2 n
  else marked 0xdf 4 n

def text (content : String) : Bytes :=
  let bytes := Bytes.ofText content
  textHeader bytes.length ++ bytes

def bytes (content : Bytes) : Bytes := bytesHeader content.length ++ content

/-- A map of one entry from the tag of a variant, up to its content. -/
def variantHeader (tag : String) : Bytes := mapHeader 1 ++ text tag

/-- What is said about a value that cannot be written. -/
def failure : Fault := .failed (.caused "MsgPack encoding failed")

/-- Writes the content of a sequence or map behind its header, once the content is complete. -/
def putWhole (draft : Draft Bytes) (header : Bytes) (content : Draft Bytes) : Draft Bytes :=
  match content.fault with
  | none => (draft.put header).put content.pieces.toList.flatten
  | some fault => draft.stop fault

mutual
def print (draft : Draft Bytes) : Value → Draft Bytes
  | .unit | .none => draft.put [0xc0]
  | .unitRecord => draft.put (arrayHeader 0)
  | .bool b => draft.put [if b then 0xc3 else 0xc2]
  | .int n => draft.put (integer n)
  | .wideInt n => draft.put (bytes (Bytes.bigEndian 16 (n % Int.pow 2 128).toNat))
  | .float32 bits => draft.put (marked 0xca 4 bits.toNat)
  | .float64 bits => draft.put (marked 0xcb 8 bits.toNat)
  | .char c => draft.put (text (String.singleton c))
  | .text content => draft.put (text content)
  | .bytes content => draft.put (bytes content)
  | .some value | .wrapped value => print draft value
  | .seq true items => printItems (draft.put (arrayHeader items.length)) items
  | .seq false items => putWhole draft (arrayHeader items.length) (printItems .empty items)
  | .map true entries => printEntries (draft.put (mapHeader entries.length)) entries
  | .map false entries => putWhole draft (mapHeader entries.length) (printEntries .empty entries)
  | .record fields => printFields (draft.put (mapHeader fields.length)) fields
  | .variant tag => draft.put (text tag)
  | .wrappedVariant tag value => print (draft.put (variantHeader tag)) value
  | .tupleVariant tag items => printItems (draft.put (variantHeader tag ++ arrayHeader items.length)) items
  | .recordVariant tag fields => printFields (draft.put (variantHeader tag ++ mapHeader fields.length)) fields
  | .failing => draft.stop failure
  | .panicking message => draft.stop (.panicked (.text message))

def printItems (draft : Draft Bytes) : List Value → Draft Bytes
  | [] => draft
  | item :: items => printItems (print draft item) items

def printEntries (draft : Draft Bytes) : List (Value × Value) → Draft Bytes
  | [] => draft
  | (key, value) :: entries => printEntries (print (print draft key) value) entries

def printFields (draft : Draft Bytes) : List (String × Value) → Draft Bytes
  | [] => draft
  | (name, value) :: fields => printFields (print (draft.put (text name)) value) fields
end

/-- What is written of a value, and whether that is all of it. -/
def draft (value : Value) : Draft Bytes := print .empty value

def encode (value : Value) : Except Fault Bytes :=
  match (draft value).fault with
  | none => .ok (draft value).pieces.toList.flatten
  | some fault => .error fault

def emission (value : Value) : ByteEmission :=
  Emission.writeAll (draft value).result failure ((draft value).pieces.toList.map .write)

end Egress.MessagePack
