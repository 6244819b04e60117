import Egress.Bytes

/-!
Scanning JSON text. A scanner takes the characters that are still to be read and gives what it has read with
the rest, or nothing if the text is not as the grammar wants it.
-/
namespace Egress.Json

def isBlank (c : Char) : Bool := c = ' ' || c = '\n' || c = '\t' || c = '\r'

def skipBlanks (text : List Char) : List Char := text.dropWhile isBlank

/-- The rest after a character that must come next, blanks apart. -/
def expect (c : Char) (text : List Char) : Option (List Char) :=
  match skipBlanks text with
  | d :: rest => if d = c then some rest else none
  | [] => none

def expectWord : (word text : List Char) → Option (List Char)
  | [], text => some text
  | c :: word, d :: rest => if c = d then expectWord word rest else none
  | _ :: _, [] => none

def simpleEscape? : Char → Option Char
  | '"' => some '"'
  | '\\' => some '\\'
  | '/' => some '/'
  | 'b' => some '\x08'
  | 'f' => some '\x0c'
  | 'n' => some '\n'
  | 'r' => some '\r'
  | 't' => some '\t'
  | _ => none

/-! ## Quoted text -/

/-- Where a reader stands inside quoted text. -/
inductive QuoteState where
  | plain
  | escape
  /-- In a numeric escape with `left` digits to come; `high` is the first half of a pair. -/
  | hex (left value : Nat) (high : Option Nat)
  | half (high : Nat)
  /-- After the backslash of the second half. -/
  | halfEscape (high : Nat)

/-- A code unit that a numeric escape gives, after the first half of a pair if there was one. -/
inductive UnitReading where
  | char (c : Char)
  | firstHalf (high : Nat)
  | malformed

/-- Two units that form a pair make one character; half a pair makes none. -/
def readUnit (high : Option Nat) (unit : Nat) : UnitReading :=
  let isHigh := 0xD800 ≤ unit ∧ unit < 0xDC00
  let isLow := 0xDC00 ≤ unit ∧ unit < 0xE000
  match high with
  | none => if isHigh then .firstHalf unit else if isLow then .malformed else .char (Char.ofNat unit)
  | some high =>
    if isLow then .char (Char.ofNat (0x10000 + (high - 0xD800) * 1024 + (unit - 0xDC00))) else .malformed

/-- The characters of quoted text whose opening quote has been read, and the rest after the closing quote.
`seen` are the characters read so far, the last first. -/
def readQuoted : QuoteState → (seen text : List Char) → Option (List Char × List Char)
  | _, _, [] => none
  | .plain, seen, c :: rest =>
    if c = '"' then some (seen.reverse, rest)
    else if c = '\\' then readQuoted .escape seen rest
    else if c.toNat < 32 then none
    else readQuoted .plain (c :: seen) rest
  | .escape, seen, c :: rest =>
    if c = 'u' then readQuoted (.hex 4 0 none) seen rest
    else
      match simpleEscape? c with
      | some d => readQuoted .plain (d :: seen) rest
      | none => none
  | .hex left value high, seen, c :: rest =>
    match Bytes.hexDigit? c with
    | none => none
    | some digit =>
      let value := value * 16 + digit
      if left ≤ 1 then
        match readUnit high value with
        | .char d => readQuoted .plain (d :: seen) rest
        | .firstHalf high => readQuoted (.half high) seen rest
        | .malformed => none
      else readQuoted (.hex (left - 1) value high) seen rest
  | .half high, seen, c :: rest => if c = '\\' then readQuoted (.halfEscape high) seen rest else none
  | .halfEscape high, seen, c :: rest =>
    if c = 'u' then readQuoted (.hex 4 0 (some high)) seen rest else none

/-- The rest after quoted text whose opening quote has been read. Nothing is made of the text, so halves of
pairs pass. `digits` counts the digits that a numeric escape still needs, and `escaped` holds after a backslash. -/
def skipQuoted : (escaped : Bool) → (digits : Nat) → List Char → Option (List Char)
  | _, _, [] => none
  | escaped, digits + 1, c :: rest => if (Bytes.hexDigit? c).isSome then skipQuoted escaped digits rest else none
  | true, 0, c :: rest =>
    if c = 'u' then skipQuoted false 4 rest
    else if (simpleEscape? c).isSome then skipQuoted false 0 rest
    else none
  | false, 0, c :: rest =>
    if c = '"' then some rest
    else if c = '\\' then skipQuoted true 0 rest
    else if c.toNat < 32 then none
    else skipQuoted false 0 rest

def readString (text : List Char) : Option (String × List Char) := do
  let afterQuote ← expect '"' text
  let (content, rest) ← readQuoted .plain [] afterQuote
  some (String.ofList content, rest)

/-! ## Numbers -/

def spanDigits (text : List Char) : List Char × List Char :=
  (text.takeWhile Char.isDigit, text.dropWhile Char.isDigit)

def digitsToNat (digits : List Char) : Nat :=
  digits.foldl (fun n c => n * 10 + (c.toNat - '0'.toNat)) 0

/-- The whole part of a number: digits without a leading zero, except zero itself. -/
def readWhole (text : List Char) : Option (List Char × List Char) :=
  match spanDigits text with
  | ([], _) => none
  | ('0' :: _ :: _, _) => none
  | (digits, rest) => some (digits, rest)

/-- Whether a number goes on with a fraction or an exponent. -/
def goesOn (text : List Char) : Bool :=
  match text with
  | c :: _ => c = '.' || c = 'e' || c = 'E'
  | [] => false

/-- A number without sign, fraction and exponent that fits 64 bits. -/
def readUInt64 (text : List Char) : Option (UInt64 × List Char) := do
  let (digits, rest) ← readWhole (skipBlanks text)
  if goesOn rest then none
  else
    let n := digitsToNat digits
    if n < UInt64.size then some (UInt64.ofNat n, rest) else none

/-- The rest after digits, of which there must be one. -/
def skipDigits (text : List Char) : Option (List Char) :=
  match spanDigits text with
  | ([], _) => none
  | (_, rest) => some rest

def skipExponent (text : List Char) : Option (List Char) :=
  match text with
  | c :: rest =>
    if c = 'e' || c = 'E' then
      match rest with
      | sign :: digits => if sign = '+' || sign = '-' then skipDigits digits else skipDigits rest
      | [] => none
    else some text
  | [] => some []

def skipNumber (text : List Char) : Option (List Char) := do
  let (_, afterWhole) ← readWhole text
  match afterWhole with
  | '.' :: fraction => skipDigits fraction >>= skipExponent
  | _ => skipExponent afterWhole

/-! ## Values of which nothing is made -/

/-- An array or an object that has been entered and not left. -/
inductive Enclosure where
  | array
  | object
  deriving DecidableEq

def Enclosure.closer : Enclosure → Char
  | .array => ']'
  | .object => '\x7d'

def skipName (text : List Char) : Option (List Char) := do
  let afterQuote ← expect '"' text
  let rest ← skipQuoted false 0 afterQuote
  expect ':' rest

/-- The rest after a value that is neither an array nor an object. -/
def skipScalar (text : List Char) : Option (List Char) :=
  match text with
  | '"' :: rest => skipQuoted false 0 rest
  | '-' :: rest => skipNumber rest
  | 'n' :: rest => expectWord "ull".toList rest
  | 't' :: rest => expectWord "rue".toList rest
  | 'f' :: rest => expectWord "alse".toList rest
  | _ => skipNumber text

mutual
/-- The rest after the value that comes next and after all that it is enclosed in. -/
def skipValueIn : (steps : Nat) → List Enclosure → List Char → Option (List Char)
  | 0, _, _ => none
  | steps + 1, around, text =>
    match skipBlanks text with
    | [] => none
    | c :: rest =>
      if c = '[' then
        match skipBlanks rest with
        | ']' :: after => leaveValueIn steps around after
        | _ => skipValueIn steps (.array :: around) rest
      else if c = '\x7b' then
        match skipBlanks rest with
        | '\x7d' :: after => leaveValueIn steps around after
        | _ => skipName rest >>= skipValueIn steps (.object :: around)
      else skipScalar (c :: rest) >>= leaveValueIn steps around

/-- The rest after a value has ended inside of `around`. -/
def leaveValueIn : (steps : Nat) → List Enclosure → List Char → Option (List Char)
  | _, [], text => some text
  | 0, _ :: _, _ => none
  | steps + 1, innermost :: around, text =>
    match skipBlanks text with
    | [] => none
    | c :: rest =>
      if c = ',' then
        match innermost with
        | .array => skipValueIn steps (.array :: around) rest
        | .object => skipName rest >>= skipValueIn steps (.object :: around)
      else if c = innermost.closer then leaveValueIn steps around rest
      else none
end

/-- The rest after the value that comes next. Each step takes at least one character. -/
def skipValue (text : List Char) : Option (List Char) := skipValueIn (text.length + 1) [] text

end Egress.Json
