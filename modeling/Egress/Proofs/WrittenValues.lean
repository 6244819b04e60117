import Egress.Proofs.CharacterBridge
import Egress.Proofs.TextOnWire

/-!
Values that are written piece by piece. An encoder that writes pieces one after the other, and stops at the first that is
refused, does to every writer that takes them what their content alone determines. Both formats are written so, and what
is written of a value is what it is encoded as.
-/
namespace Egress

namespace Emission

variable {Piece Action Refusal State : Type} {asking : Piece → Action} {content : Piece → Bytes} {result : Except Fault Unit}
  {refused : Fault} {bytes data : Bytes} {emission : Emission Action Refusal}

/-- Pieces with the given content are written one after the other. At the end comes the result, at a refusal the fault. -/
inductive Puts (asking : Piece → Action) (content : Piece → Bytes) (result : Except Fault Unit) (refused : Fault) :
    Bytes → Emission Action Refusal → Prop where
  | done : Puts asking content result refused [] (.done result)
  | act (piece : Piece) {rest : Bytes} {next : Except Refusal Unit → Emission Action Refusal}
    (goesOn : Puts asking content result refused rest (next (.ok ())))
    (stops : ∀ refusal, next (.error refusal) = .done (.error refused)) :
    Puts asking content result refused (content piece ++ rest) (.act (asking piece) next)

theorem puts_writeAll (asking : Piece → Action) (content : Piece → Bytes) (result : Except Fault Unit) (refused : Fault)
    (pieces : List Piece) : Puts asking content result refused (pieces.flatMap content)
      (writeAll result refused (pieces.map asking) : Emission Action Refusal) := by
  induction pieces with
  | nil => exact .done
  | cons piece pieces ih => exact .act piece ih fun _ => rfl

/-- A writer that takes every piece has all of the content in the end. -/
theorem Puts.run (puts : Puts asking content result refused bytes emission)
    (answer : State → Action → Except Refusal Unit × State) (Holds : Bytes → State → Prop)
    (takes : ∀ data state piece, Holds data state →
      (answer state (asking piece)).1 = .ok () ∧ Holds (data ++ content piece) (answer state (asking piece)).2)
    {state : State} (holds : Holds data state) :
    (emission.run answer state).1 = result ∧ Holds (data ++ bytes) (emission.run answer state).2 := by
  induction puts generalizing data state with
  | done =>
    rw [List.append_nil]
    exact ⟨rfl, holds⟩
  | act piece goesOn stops ih =>
    obtain ⟨taken, holds⟩ := takes data state piece holds
    have rest := ih holds
    unfold Emission.run
    revert taken rest
    rcases answer state (asking piece) with ⟨reply, after⟩
    intro taken rest
    obtain rfl : reply = .ok () := taken
    rw [← List.append_assoc]
    exact rest

/-- A writer with a limit lets the encoder succeed if there is room for all of the content. -/
theorem Puts.run_within (puts : Puts asking content result refused bytes emission) {limit : Nat} {refusal : Refusal}
    {answer : Nat → Action → Except Refusal Unit × Nat}
    (counts : ∀ written piece, answer written (asking piece) = takeWithin limit refusal written (content piece).length)
    {written : Nat} (inside : written ≤ limit) :
    (emission.run answer written).1 = .ok () ↔ result = .ok () ∧ written + bytes.length ≤ limit := by
  induction puts generalizing written with
  | done => exact ⟨fun ended => ⟨ended, inside⟩, And.left⟩
  | act piece goesOn stops ih =>
    unfold Emission.run
    rw [counts, List.length_append, ← Nat.add_assoc]
    unfold takeWithin
    by_cases room : written + (content piece).length ≤ limit
    · rw [if_pos room]
      exact ih room
    · rw [if_neg room]
      dsimp only
      rw [stops]
      constructor
      · intro ended
        cases ended
      · rintro ⟨_, fits⟩
        omega

end Emission

/-! ## The two formats -/

theorem Bytes.ofText_ofList (chars : List Char) : ofText (String.ofList chars) = chars.flatMap String.utf8EncodeChar := by
  rw [ofText, String.toList_ofList]

/-- Texts with the same bytes are the same. -/
theorem Bytes.ofText_inj {text other : String} : ofText text = ofText other ↔ text = other := by
  refine ⟨fun same => ?_, congrArg ofText⟩
  have bytes (text : String) : text.toByteArray = (ofText text).toByteArray := by
    have encoded := String.toByteArray_ofList (l := text.toList)
    rwa [String.ofList_toList] at encoded
  rw [← String.toByteArray_inj, bytes, bytes, same]

/-- Over a bridge the bytes of some characters are written as texts, however they were cut. -/
theorem Json.Bridge.puts_writeAll {result : Except Fault Unit} {refused : Fault} {bridge : Bridge} {pieces : List Bytes}
    {chars : List Char} (cut : Bytes.Cut bridge.held chars)
    (all : bridge.held ++ pieces.flatten = chars.flatMap String.utf8EncodeChar) :
    (bridge.writeAll result refused pieces).Puts id Bytes.ofText result refused (chars.flatMap String.utf8EncodeChar) := by
  induction pieces generalizing bridge chars with
  | nil =>
    rw [List.flatten_nil, List.append_nil] at all
    obtain ⟨empty, rfl⟩ := cut.eq_nil all
    unfold writeAll finish
    rw [empty]
    rcases result with fault | ⟨⟩ <;> exact .done
  | cons piece pieces ih =>
    rw [List.flatten_cons] at all
    unfold writeAll
    by_cases none : piece = []
    · rw [none] at all ⊢
      exact ih cut all
    · rw [← List.append_assoc] at all
      obtain ⟨front, later, rest, rfl, taken, more, cut⟩ := take?_eq all
      rw [if_neg (by rwa [List.isEmpty_iff]), taken, List.flatMap_append, ← Bytes.ofText_ofList front]
      exact .act (String.ofList front) (ih cut more) fun _ => rfl

/-- What can be written: a format, and the two ways to write it. -/
inductive Format where
  | json
  | messagePack
  deriving DecidableEq

namespace Format

variable {α : Type}

def kind : Format → MessageKind
  | .json => .text
  | .messagePack => .binary

def whole (format : Format) (toValue : α → Value) : Encoder α :=
  match format with
  | .json => .json toValue
  | .messagePack => .messagePack toValue

def streamed (format : Format) (toValue : α → Value) : Encoder α :=
  match format with
  | .json => .jsonStream toValue
  | .messagePack => .messagePackStream toValue

/-- The bytes that are written of a value. -/
def written : Format → Value → Bytes
  | .json, value => .ofText (String.join (Json.draft value).pieces.toList)
  | .messagePack, value => (MessagePack.draft value).pieces.toList.flatten

/-- Whether they are all of it. -/
def result : Format → Value → Except Fault Unit
  | .json, value => (Json.draft value).result
  | .messagePack, value => (MessagePack.draft value).result

/-- The bytes of the message that a value is encoded as. -/
def encode : Format → Value → Except Fault Bytes
  | .json, value => (Json.encode value).map Bytes.ofText
  | .messagePack, value => MessagePack.encode value

/-- A value is encoded as what is written of it, if that is all of it. -/
theorem encode_eq (format : Format) (value : Value) :
    format.encode value = (format.result value).map fun _ => format.written value := by
  cases format with
  | json =>
    unfold encode result written Json.encode Draft.result
    dsimp only
    cases (Json.draft value).fault <;> rfl
  | messagePack =>
    unfold encode result written MessagePack.encode Draft.result
    dsimp only
    cases (MessagePack.draft value).fault <;> rfl

theorem encode_ok_iff {format : Format} {value : Value} {bytes : Bytes} :
    format.encode value = .ok bytes ↔ format.result value = .ok () ∧ format.written value = bytes := by
  rw [encode_eq]
  rcases format.result value with fault | ⟨⟩
  · exact ⟨nofun, nofun⟩
  · exact ⟨fun same => ⟨rfl, Except.ok.inj same⟩, fun ⟨_, same⟩ => congrArg Except.ok same⟩

theorem encode_error_iff {format : Format} {value : Value} {fault : Fault} :
    format.encode value = .error fault ↔ format.result value = .error fault := by
  rw [encode_eq]
  rcases format.result value with other | ⟨⟩
  · exact ⟨fun same => congrArg Except.error (Except.error.inj same), fun same => congrArg Except.error (Except.error.inj same)⟩
  · exact ⟨nofun, nofun⟩

end Format

theorem Json.puts_emission (value : Value) : (Json.emission value).Puts id Bytes.ofText (Format.result .json value) Json.failure
    (Format.written .json value) := by
  unfold Json.emission
  exact Bridge.puts_writeAll (.inl rfl) (by rw [← List.flatMap_def, ← Bytes.ofText_join]; rfl)

theorem MessagePack.puts_emission (value : Value) : (MessagePack.emission value).Puts ByteAction.write id
    (Format.result .messagePack value) MessagePack.failure (Format.written .messagePack value) := by
  have puts : (MessagePack.emission value).Puts ByteAction.write id (Format.result .messagePack value) MessagePack.failure
      ((MessagePack.draft value).pieces.toList.flatMap id) := Emission.puts_writeAll _ _ _ _ _
  rwa [List.flatMap_id] at puts

/-! ## Writers in memory -/

theorem Json.collectText_emission (value : Value) :
    (Json.emission value).collectText = (Format.result .json value, String.join (Json.draft value).pieces.toList) := by
  obtain ⟨ended, all⟩ := (puts_emission value).run Emission.appendText (fun data text => Bytes.ofText text = data)
    (fun _ text piece holds => ⟨rfl, holds ▸ Bytes.ofText_append text piece⟩) rfl
  exact Prod.ext ended (Bytes.ofText_inj.mp all)

theorem MessagePack.collectBytes_emission (value : Value) :
    (MessagePack.emission value).collectBytes =
      (Format.result .messagePack value, (Format.written .messagePack value).toArray) := by
  obtain ⟨ended, all⟩ := (puts_emission value).run Emission.appendBytes (fun data array => array.toList = data)
    (fun _ array piece holds => ⟨rfl, holds ▸ by simp [Emission.appendBytes]⟩) rfl
  exact Prod.ext ended (Array.toList_inj.mp all)

namespace Format

variable {α : Type} (format : Format) (toValue : α → Value) (a : α)

/-- In memory a stream ends as the whole message does, and if there is a message, it is the same. -/
theorem inMemory_streamed : ((format.streamed toValue).inMemory a).result = ((format.whole toValue).inMemory a).result ∧
    (((format.whole toValue).inMemory a).result = .ok () →
      (format.streamed toValue).inMemory a = (format.whole toValue).inMemory a) := by
  cases format with
  | json =>
    unfold streamed whole Encoder.jsonStream Encoder.json Encoder.inMemory
    dsimp only
    rw [Json.collectText_emission]
    unfold result Json.encode Draft.result
    dsimp only
    cases (Json.draft (toValue a)).fault with
    | none => exact ⟨rfl, fun _ => rfl⟩
    | some fault =>
      refine ⟨rfl, fun succeeds => ?_⟩
      cases succeeds
  | messagePack =>
    unfold streamed whole Encoder.messagePackStream Encoder.messagePack Encoder.inMemory
    dsimp only
    rw [MessagePack.collectBytes_emission]
    unfold result written MessagePack.encode Draft.result
    dsimp only
    cases (MessagePack.draft (toValue a)).fault with
    | none => exact ⟨rfl, fun _ => rfl⟩
    | some fault =>
      refine ⟨rfl, fun succeeds => ?_⟩
      cases succeeds

/-- On a writer that takes so many bytes a stream succeeds if there is a message, and it is not longer. -/
theorem within_streamed (limit : Nat) : (format.streamed toValue).within limit a = .ok () ↔
    ∃ bytes, format.encode (toValue a) = .ok bytes ∧ bytes.length ≤ limit := by
  have room : (format.streamed toValue).within limit a = .ok () ↔
      format.result (toValue a) = .ok () ∧ 0 + (format.written (toValue a)).length ≤ limit := by
    cases format with
    | json => exact (Json.puts_emission (toValue a)).run_within (fun _ _ => rfl) (Nat.zero_le limit)
    | messagePack => exact (MessagePack.puts_emission (toValue a)).run_within (fun _ _ => rfl) (Nat.zero_le limit)
  rw [room, Nat.zero_add]
  constructor
  · rintro ⟨ended, fits⟩
    exact ⟨_, encode_ok_iff.mpr ⟨ended, rfl⟩, fits⟩
  · rintro ⟨bytes, encoded, fits⟩
    obtain ⟨ended, rfl⟩ := encode_ok_iff.mp encoded
    exact ⟨ended, fits⟩

end Format
end Egress
