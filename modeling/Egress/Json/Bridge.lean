import Egress.Emission

/-!
From bytes to texts. A printer writes bytes and may end a piece within a character, but a writer of texts takes whole
characters. A bridge between the two holds back a character that is cut until the rest of it comes.
-/
namespace Egress

namespace Bytes

/-- The character that some bytes begin with. -/
def char? (bytes : Bytes) : Option Char := (bytes.take 4).toByteArray.utf8DecodeChar? 0

/-- Adds the characters that some bytes begin with to a text, in at most `rounds` rounds, and gives the bytes after them. -/
def readInto : (rounds : Nat) → (text : String) → Bytes → String × Bytes
  | 0, text, bytes => (text, bytes)
  | rounds + 1, text, bytes =>
    match bytes.char? with
    | some c => readInto rounds (text.push c) (bytes.drop c.utf8Size)
    | none => (text, bytes)

/-- The text that some bytes begin with, and the bytes after it. A round takes at least one byte. -/
def readText (bytes : Bytes) : String × Bytes := readInto bytes.length "" bytes

/-- Whether a byte may come second in a character. After some first bytes, not all of them may. -/
def maySecond (first second : UInt8) : Bool :=
  let lowest := if first = 0xe0 then 0xa0 else if first = 0xf0 then 0x90 else 0x80
  let highest := if first = 0xed then 0x9f else if first = 0xf4 then 0x8f else 0xbf
  lowest ≤ second && second ≤ highest

/-- Whether more is to come of the character that some bytes begin. -/
def beginsChar : Bytes → Bool
  | [first] => 0xc2 ≤ first && first ≤ 0xf4
  | [first, second] => 0xe0 ≤ first && first ≤ 0xf4 && maySecond first second
  | [first, second, third] => 0xf0 ≤ first && first ≤ 0xf4 && maySecond first second && 0x80 ≤ third && third ≤ 0xbf
  | _ => false

end Bytes

namespace Json

/-- A bridge holds the bytes of a character that is not complete. -/
structure Bridge where
  held : Bytes

namespace Bridge

def empty : Bridge := ⟨[]⟩

/-- The text that bytes complete, and the bridge after it; none if they are not UTF-8. -/
def take? (bridge : Bridge) (bytes : Bytes) : Option (String × Bridge) :=
  match (bridge.held ++ bytes).readText with
  | (text, rest) => if rest.isEmpty || rest.beginsChar then some (text, ⟨rest⟩) else none

/-- At the end no character may be missing its rest. -/
def finish (bridge : Bridge) : Except Fault Unit :=
  if bridge.held.isEmpty then .ok () else .error (.failed (.new "JSON output ended inside a UTF-8 sequence"))

/-- Writes pieces one after the other and ends with the result, or with `refused` at the first piece that the writer does
not take. No bytes are not written at all. -/
def writeAll (result : Except Fault Unit) (refused : Fault) : Bridge → List Bytes → TextEmission
  | bridge, [] =>
    match result with
    | .ok () => .done bridge.finish
    | .error fault => .done (.error fault)
  | bridge, piece :: pieces =>
    if piece.isEmpty then bridge.writeAll result refused pieces
    else
      match bridge.take? piece with
      | some (text, bridge) => .act text fun
        | .ok () => bridge.writeAll result refused pieces
        | .error _ => .done (.error refused)
      | none => .done (.error refused)

end Bridge
end Json
end Egress
