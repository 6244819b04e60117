import Egress.Registry
import Mathlib.Data.Finset.Card

/-!
What a registry knows. Whatever has been registered, and in whatever order, a registry finds for a value the encoder that
was registered last for the value's type. The encoder that it keeps takes values of every type, but works on its own only:
with those it does what the registered encoder does, and the others it refuses at once.
-/
namespace Egress

/-- An encoder that is registered for a type of value. -/
structure Enrolment (types : ValueTypes) where
  kind : types.Kind
  encoder : Encoder (types.Content kind)

namespace Enrolment

variable {types : ValueTypes}

/-- What a registry keeps of it. -/
def registration (enrolment : Enrolment types) : Registration types := ⟨enrolment.kind, enrolment.encoder.erase⟩

/-- It is the last one for its type. -/
def LastIn (enrolment : Enrolment types) (history : List (Enrolment types)) : Prop :=
  ∃ before after, history = before ++ enrolment :: after ∧ ∀ later ∈ after, later.kind ≠ enrolment.kind

end Enrolment

namespace Registry

variable {types : ValueTypes}

/-- The registry after everything in a history has been registered. -/
def ofHistory (history : List (Enrolment types)) : Registry types :=
  history.foldl (fun registry enrolment => registry.register enrolment.kind enrolment.encoder) .empty

theorem ofHistory_concat (history : List (Enrolment types)) (enrolment : Enrolment types) :
    ofHistory (history ++ [enrolment]) = (ofHistory history).register enrolment.kind enrolment.encoder :=
  List.foldl_concat ..

variable {kind : types.Kind}

/-- The types that a registry has an encoder for. -/
def kinds (registry : Registry types) : List types.Kind := registry.entries.map (·.kind)

theorem kinds_register (registry : Registry types) (encoder : Encoder (types.Content kind)) :
    (registry.register kind encoder).kinds = kind :: registry.kinds.filter (· ≠ kind) := by
  simp [register, kinds, List.filter_map, Function.comp_def]

/-- The last registration for a type is the one that is found. -/
theorem find?_ofHistory (history : List (Enrolment types)) (kind : types.Kind) :
    (ofHistory history).find? kind = (history.reverse.find? (·.kind = kind)).map Enrolment.registration := by
  induction history using List.reverseRecOn with
  | nil => rfl
  | append_singleton history enrolment ih =>
    rw [ofHistory_concat, List.reverse_concat]
    by_cases same : enrolment.kind = kind
    · subst same
      rw [find?_register_self, List.find?_cons_of_pos (by simp)]
      rfl
    · rw [find?_register_other _ _ same, ih, List.find?_cons_of_neg (by simpa using same)]

theorem nodup_kinds_ofHistory (history : List (Enrolment types)) : (ofHistory history).kinds.Nodup := by
  induction history using List.reverseRecOn with
  | nil => exact List.nodup_nil
  | append_singleton history enrolment ih =>
    rw [ofHistory_concat, kinds_register]
    exact List.nodup_cons.mpr ⟨by simp, ih.filter _⟩

theorem mem_kinds_ofHistory (history : List (Enrolment types)) (kind : types.Kind) :
    kind ∈ (ofHistory history).kinds ↔ kind ∈ history.map Enrolment.kind := by
  induction history using List.reverseRecOn with
  | nil => rfl
  | append_singleton history enrolment ih =>
    rw [ofHistory_concat, kinds_register, List.mem_cons, List.mem_filter, ih, List.map_append, List.mem_append]
    by_cases same : kind = enrolment.kind <;> simp [same]

theorem size_ofHistory (history : List (Enrolment types)) :
    (ofHistory history).size = (history.map Enrolment.kind).toFinset.card := by
  have same : (ofHistory history).kinds.toFinset = (history.map Enrolment.kind).toFinset := by
    ext kind
    rw [List.mem_toFinset, List.mem_toFinset, mem_kinds_ofHistory]
  rw [← same, List.toFinset_card_of_nodup (nodup_kinds_ofHistory history), kinds, List.length_map]
  rfl

/-- What is registered for one type does not depend on what is registered for others. -/
theorem find?_ofHistory_own (history : List (Enrolment types)) (kind : types.Kind) :
    (ofHistory (history.filter (·.kind = kind))).find? kind = (ofHistory history).find? kind := by
  rw [find?_ofHistory, find?_ofHistory, ← List.filter_reverse, List.find?_filter]
  simp

theorem lastIn_iff (history : List (Enrolment types)) (enrolment : Enrolment types) :
    enrolment.LastIn history ↔ history.reverse.find? (·.kind = enrolment.kind) = some enrolment := by
  rw [List.find?_eq_some_iff_append]
  constructor
  · rintro ⟨before, after, rfl, last⟩
    refine ⟨decide_eq_true rfl, after.reverse, before.reverse, by simp, fun later member => ?_⟩
    simpa using last later (List.mem_reverse.mp member)
  · rintro ⟨_, after, before, same, last⟩
    refine ⟨before.reverse, after.reverse, ?_, fun later member => ?_⟩
    · rw [← List.reverse_reverse history, same]
      simp
    · simpa using last later (List.mem_reverse.mp member)

theorem find?_eq_some_iff (history : List (Enrolment types)) (kind : types.Kind) (registration : Registration types) :
    (ofHistory history).find? kind = some registration ↔
      ∃ enrolment : Enrolment types, enrolment.LastIn history ∧ enrolment.kind = kind ∧
        enrolment.registration = registration := by
  rw [find?_ofHistory, Option.map_eq_some_iff]
  refine exists_congr fun enrolment => ?_
  rw [lastIn_iff, ← and_assoc]
  refine and_congr_left fun _ => ⟨fun found => ?_, fun ⟨found, same⟩ => same ▸ found⟩
  have same : enrolment.kind = kind := by simpa using List.find?_some found
  exact ⟨same ▸ found, same⟩

theorem find?_eq_none_iff (history : List (Enrolment types)) (kind : types.Kind) :
    (ofHistory history).find? kind = none ↔ ∀ enrolment ∈ history, enrolment.kind ≠ kind := by
  rw [find?_ofHistory, Option.map_eq_none_iff, List.find?_eq_none]
  simp

end Registry

/-! ## Encoders that take values of every type -/

/-- What an encoder is given to write on: a writer of texts and a writer of bytes, which answer from a state. -/
structure Writers (State : Type) where
  text : State → String → Except Unit Unit × State
  bytes : State → ByteAction → Except SendError Unit × State

/-- What comes of encoding a value: a message, or the end of a stream. -/
inductive Product where
  | text (result : Except Fault String)
  | bytes (result : Except Fault Bytes)
  | ended (result : Except Fault Unit)

namespace Encoder

variable {types : ValueTypes} {State : Type}

/-- Encodes a value: what comes of it, and the state of the writers after that. -/
def perform {α : Type} (encoder : Encoder α) (writers : Writers State) (state : State) (a : α) : Product × State :=
  match encoder with
  | .text encode => (.text (encode a), state)
  | .textStream encode =>
    match (encode a).run writers.text state with
    | (result, state) => (.ended result, state)
  | .binary encode => (.bytes (encode a), state)
  | .binaryStream encode =>
    match (encode a).run writers.bytes state with
    | (result, state) => (.ended result, state)

/-- What comes of an encoder of this shape that fails. -/
def failing {α : Type} (fault : Fault) : Encoder α → Product
  | .text _ => .text (.error fault)
  | .textStream _ => .ended (.error fault)
  | .binary _ => .bytes (.error fault)
  | .binaryStream _ => .ended (.error fault)

theorem failing_of_shape {α : Type} {encoder other : Encoder α} (alike : encoder.shape = other.shape) (fault : Fault) :
    encoder.failing fault = other.failing fault := by
  revert alike
  cases encoder <;> cases other <;> simp [shape, failing]

variable {kind : types.Kind} (encoder : Encoder (types.Content kind)) (writers : Writers State) (state : State)

theorem shape_erase : encoder.erase.shape = encoder.shape := by cases encoder <;> rfl

theorem perform_erase_self (content : types.Content kind) :
    encoder.erase.perform writers state ⟨kind, content⟩ = encoder.perform writers state content := by
  cases encoder <;> simp only [erase, perform, ValueTypes.Object.as?_self]

theorem perform_erase_of_ne {object : types.Object} (foreign : object.kind ≠ kind) :
    encoder.erase.perform writers state object = (encoder.failing (mismatch types kind), state) := by
  cases encoder <;> simp only [erase, perform, failing, ValueTypes.Object.as?_of_ne foreign, Emission.run]

end Encoder

/-- What a registry knows after everything in a history has been registered. -/
structure Registry.Knows {types : ValueTypes} (registry : Registry types) (history : List (Enrolment types)) : Prop where
  /-- What is found for a value is the last registration for its type. -/
  found : ∀ object registration, registry.lookup object = some registration ↔
    ∃ enrolment : Enrolment types, enrolment.LastIn history ∧ enrolment.kind = object.kind ∧
      enrolment.registration = registration
  missing : ∀ object, registry.lookup object = none ↔ ∀ enrolment ∈ history, enrolment.kind ≠ object.kind
  /-- Registrations for other types make no difference. -/
  own : ∀ object, registry.lookup object = (ofHistory (history.filter (·.kind = object.kind))).lookup object
  contains : ∀ kind, registry.contains kind = true ↔ ∃ enrolment ∈ history, enrolment.kind = kind
  agrees : ∀ object, registry.contains object.kind = (registry.lookup object).isSome
  size : registry.size = (history.map Enrolment.kind).toFinset.card
  isEmpty : registry.isEmpty = true ↔ registry.size = 0

theorem Registry.knows_ofHistory {types : ValueTypes} (history : List (Enrolment types)) :
    (ofHistory history).Knows history where
  found object registration := find?_eq_some_iff history object.kind registration
  missing object := find?_eq_none_iff history object.kind
  own object := (find?_ofHistory_own history object.kind).symm
  contains kind := by
    unfold Registry.contains
    rw [Option.isSome_iff_ne_none, ne_eq, find?_eq_none_iff]
    simp
  agrees _ := rfl
  size := size_ofHistory history
  isEmpty := by
    unfold Registry.isEmpty Registry.size
    rw [List.isEmpty_iff, List.length_eq_zero_iff]

/-- What is found for a type takes values of all types. With those of its own type it does what the registered encoder
does; a value of another type it refuses with an error that names its own type, and nothing is written. -/
structure Enrolment.Serves {types : ValueTypes} (enrolment : Enrolment types) (registration : Registration types) :
    Prop where
  typeName : registration.typeName = types.name enrolment.kind
  shape : registration.encoder.shape = enrolment.encoder.shape
  own : ∀ (State : Type) (writers : Writers State) (state : State) (content : types.Content enrolment.kind),
    registration.encoder.perform writers state ⟨enrolment.kind, content⟩ = enrolment.encoder.perform writers state content
  foreign : ∀ (State : Type) (writers : Writers State) (state : State) (object : types.Object),
    object.kind ≠ enrolment.kind → registration.encoder.perform writers state object =
      (enrolment.encoder.failing (Encoder.mismatch types enrolment.kind), state)
  names : ∃ error, Encoder.mismatch types enrolment.kind = .failed error ∧
    error.typeName = some (types.name enrolment.kind)
  /-- The registered encoder is not asked about values of other types: any other of its shape would do as well. -/
  unasked : ∀ other : Encoder (types.Content enrolment.kind), other.shape = enrolment.encoder.shape →
    ∀ (State : Type) (writers : Writers State) (state : State) (object : types.Object), object.kind ≠ enrolment.kind →
      other.erase.perform writers state object = registration.encoder.perform writers state object

theorem Enrolment.serves {types : ValueTypes} (enrolment : Enrolment types) : enrolment.Serves enrolment.registration where
  typeName := rfl
  shape := enrolment.encoder.shape_erase
  own _ writers state content := enrolment.encoder.perform_erase_self writers state content
  foreign _ writers state _ foreign := enrolment.encoder.perform_erase_of_ne writers state foreign
  names := ⟨_, rfl, rfl⟩
  unasked other alike _ writers state object foreign := by
    show _ = enrolment.encoder.erase.perform writers state object
    rw [other.perform_erase_of_ne writers state foreign, enrolment.encoder.perform_erase_of_ne writers state foreign,
      Encoder.failing_of_shape alike]

/-- After any registrations a registry finds for each value the last registration for the value's type, and it counts the
types. The encoder that it finds for a value does with it what the registered encoder does with its content; values of
other types it refuses, whatever the registered encoder would do, and writes nothing. -/
theorem Registry.finds_last_registered {types : ValueTypes} (history : List (Enrolment types)) :
    (ofHistory history).Knows history ∧ ∀ enrolment : Enrolment types, enrolment.Serves enrolment.registration :=
  ⟨knows_ofHistory history, Enrolment.serves⟩

end Egress
