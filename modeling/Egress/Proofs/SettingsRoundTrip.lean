import Egress.Proofs.ScannedText
import Egress.Session
import Egress.Settings.Reader

/-!
Settings as a document. The document that settings are written to is read back as these very settings. Reading a document
and building a session accept the same settings, and refuse the others for the same reason.
-/
namespace Egress

namespace Settings

open Json

variable {settings : Settings} {given : Given} {key other : Key}

/-! ## One setting -/

theorem plain_name (key : Key) : key.name.toList.all plainChar := by
  cases key <;> decide

theorem ofName?_name (key : Key) : Key.ofName? key.name = some key := by
  cases key <;> decide

theorem plain_policy (policy : ControlPolicy) : policy.keyword.toList.all plainChar := by
  cases policy <;> decide

theorem ofKeyword?_policy (policy : ControlPolicy) : ControlPolicy.ofKeyword? policy.keyword = some policy := by
  cases policy <;> decide

theorem plain_mode (mode : BatchMode) : mode.keyword.toList.all plainChar := by
  cases mode <;> decide

theorem ofKeyword?_mode (mode : BatchMode) : BatchMode.ofKeyword? mode.keyword = some mode := by
  cases mode <;> decide

/-- What has been given when a setting is given besides. -/
def Given.take (given : Given) (settings : Settings) : Key → Given
  | .textBufferSize => { given with textBufferSize := some settings.textBufferSize }
  | .binaryBufferSize => { given with binaryBufferSize := some settings.binaryBufferSize }
  | .controlPolicy => { given with controlPolicy := some settings.controlPolicy }
  | .batchMode => { given with batchMode := some settings.batchMode }
  | .idleMillis => { given with idleMillis := some settings.idleMillis }

theorem has_take_of_ne (different : other ≠ key) : (given.take settings key).has other = given.has other := by
  cases key <;> cases other <;> first | rfl | exact absurd rfl different

theorem complete_take_all (settings : Settings) :
    (Key.all.foldl (Given.take · settings) .nothing).complete = settings := rfl

theorem readKeyword_quoted {keyword : String} (plain : keyword.toList.all plainChar) (rest : List Char) :
    readKeyword (("\"" ++ keyword ++ "\"").toList ++ rest) = some (keyword, rest) := by
  have read := readString_quoted plain rest
  have shown : ("\"" ++ keyword ++ "\"").toList ++ rest = '"' :: (keyword.toList ++ '"' :: rest) := by
    simp
  unfold readKeyword
  rw [shown] at read ⊢
  rw [skipBlanks_of_ink rfl]
  exact read

variable {c : Char} {rest : List Char}

theorem readValue_valueText (given : Given) (settings : Settings) (key : Key) (ends : Delimits c) :
    readValue given key ((settings.valueText key).toList ++ c :: rest) = some (given.take settings key, c :: rest) := by
  cases key with
  | controlPolicy =>
    have read := readKeyword_quoted (plain_policy settings.controlPolicy) (c :: rest)
    simp only [valueText, readValue, read, Option.bind_eq_bind, Option.bind_some, ofKeyword?_policy, Given.take]
  | batchMode =>
    have read := readKeyword_quoted (plain_mode settings.batchMode) (c :: rest)
    simp only [valueText, readValue, read, Option.bind_eq_bind, Option.bind_some, ofKeyword?_mode, Given.take]
  | _ => simp only [valueText, readValue, readUInt64_toString _ ends, Option.bind_eq_bind, Option.bind_some, Given.take]

/-- A setting that was not given before is given by its member. -/
theorem readMember_memberText (settings : Settings) (fresh : given.has key = false) (ends : Delimits c) :
    readMember given ((settings.memberText key).toList ++ c :: rest) = some (given.take settings key, c :: rest) := by
  have shown : (settings.memberText key).toList ++ c :: rest =
      ("\"" ++ key.name ++ "\"").toList ++ ':' :: ((settings.valueText key).toList ++ c :: rest) := by
    simp [memberText]
  unfold readMember
  rw [shown, readString_quoted (plain_name key)]
  simp [expect_self, ofName?_name, fresh, readValue_valueText _ _ _ ends, isBlank]

/-! ## All settings -/

/-- The members with the settings in `keys`, as they stand in a document. -/
def membersText (settings : Settings) (keys : List Key) : List Char :=
  [','].intercalate (keys.map fun key => (settings.memberText key).toList)

/-- Members of different names are read one after the other up to the end. -/
theorem readMembers_membersText (settings : Settings) (keys : List Key) :
    ∀ {key : Key} {given : Given} {count : Nat}, (key :: keys).Nodup → (∀ other ∈ key :: keys, given.has other = false) →
      keys.length < count →
        readMembers count given (settings.membersText (key :: keys) ++ '\x7d' :: rest) =
          some ((key :: keys).foldl (Given.take · settings) given, rest) := by
  induction keys with
  | nil =>
    intro key given count _ fresh enough
    obtain ⟨count, rfl⟩ := Nat.exists_eq_add_one_of_ne_zero (Nat.ne_zero_of_lt enough)
    have read : readMember given ((settings.memberText key).toList ++ '\x7d' :: rest) = _ :=
      readMember_memberText settings (fresh key List.mem_cons_self) (Or.inr rfl)
    have last : settings.membersText [key] = (settings.memberText key).toList := List.intercalate_singleton
    rw [last, readMembers, read]
    simp [skipBlanks_of_ink, isBlank]
  | cons next keys ih =>
    intro key given count distinct fresh enough
    obtain ⟨count, rfl⟩ := Nat.exists_eq_add_one_of_ne_zero (Nat.ne_zero_of_lt enough)
    obtain ⟨apart, others⟩ := List.nodup_cons.mp distinct
    have read : readMember given
        ((settings.memberText key).toList ++ ',' :: (settings.membersText (next :: keys) ++ '\x7d' :: rest)) = _ :=
      readMember_memberText settings (fresh key List.mem_cons_self) (Or.inl rfl)
    have more : settings.membersText (key :: next :: keys) ++ '\x7d' :: rest =
        (settings.memberText key).toList ++ ',' :: (settings.membersText (next :: keys) ++ '\x7d' :: rest) := by
      simp [membersText, List.intercalate_cons_cons]
    have still : ∀ other ∈ next :: keys, (given.take settings key).has other = false := fun other member =>
      (has_take_of_ne (ne_of_mem_of_not_mem member apart)).trans (fresh other (List.mem_cons_of_mem _ member))
    have later := ih others still (Nat.lt_of_succ_lt_succ enough)
    rw [more, readMembers, read]
    simpa [skipBlanks_of_ink, isBlank] using later

theorem readGiven_toJson (settings : Settings) :
    readGiven settings.toJson.toList = some (Key.all.foldl (Given.take · settings) .nothing, []) := by
  have shown : settings.toJson.toList = '\x7b' :: (settings.membersText Key.all ++ ['\x7d']) := by
    simp [toJson, membersText, String.toList_intercalate, Function.comp_def]
  have enough : 4 < (settings.membersText Key.all ++ ['\x7d']).length := by
    simp [membersText, Key.all, List.intercalate_cons_cons]
    omega
  have read : readMembers (settings.membersText Key.all ++ ['\x7d']).length .nothing
      (settings.membersText Key.all ++ ['\x7d']) = some (Key.all.foldl (Given.take · settings) .nothing, []) :=
    readMembers_membersText settings [.binaryBufferSize, .controlPolicy, .batchMode, .idleMillis] (by decide) (by decide)
      enough
  -- The object is not empty: a quoted name comes next.
  obtain ⟨front, starts⟩ : ∃ front, settings.membersText Key.all ++ ['\x7d'] = '"' :: front := by
    simp [membersText, Key.all, List.intercalate_cons_cons, memberText]
  have inside : skipBlanks ('"' :: front) = '"' :: front := skipBlanks_of_ink rfl front
  unfold readGiven
  rw [shown, skipBlanks_of_ink rfl]
  rw [starts] at read ⊢
  simp only [inside]
  exact read

/-- The document of all settings is read as it was written. -/
theorem read?_toJson (settings : Settings) : read? settings.toJson = some settings := by
  unfold read?
  rw [readGiven_toJson]
  exact congrArg some (complete_take_all settings)

/-! ## The two validators -/

theorem ofJson_toJson (settings : Settings) : ofJson settings.toJson = settings.validate.map fun _ => settings := by
  unfold ofJson
  rw [read?_toJson]
  dsimp only
  rcases settings.validate with error | ⟨⟩ <;> rfl

theorem validate_of_ofJson {document : String} {settings : Settings} (read : ofJson document = .ok settings) :
    settings.validate = .ok () := by
  revert read
  unfold ofJson
  rcases read? document with _ | found
  · exact nofun
  · dsimp only
    rcases valid : found.validate with error | ⟨⟩
    · exact nofun
    · rintro ⟨⟩
      exact valid

theorem category_of_validate {settings : Settings} {error : SendError} (invalid : settings.validate = .error error) :
    error.category = .invalidArgument := by
  unfold validate at invalid
  split at invalid
  · cases invalid
    rfl
  · split at invalid
    · cases invalid
      rfl
    · cases invalid

/-- Settings are usable exactly if both buffers can hold something. -/
theorem validate_ok_iff (settings : Settings) :
    settings.validate = .ok () ↔ settings.textBufferSize ≠ 0 ∧ settings.binaryBufferSize ≠ 0 := by
  unfold validate
  split
  · simp [*]
  · split <;> simp [*]

end Settings

namespace Session

variable {types : ValueTypes}

theorem build_of_valid {settings : Settings} (valid : settings.validate = .ok ()) (registry : Registry types)
    (pool : Option BufferPool) :
    ∃ session, build settings registry pool = .ok session ∧ session.settings = settings := by
  unfold build
  rw [valid]
  exact ⟨_, rfl, rfl⟩

theorem build_of_invalid {settings : Settings} {error : SendError} (invalid : settings.validate = .error error)
    (registry : Registry types) (pool : Option BufferPool) : build settings registry pool = .error error := by
  unfold build
  rw [invalid]

/-- Settings that are written to a document and read back are as they were if a session can be built with them, and are
refused for the same reason if none can. With the settings that any document gives a session can be built. -/
theorem reading_agrees_with_building (registry : Registry types) (pool : Option BufferPool) :
    (∀ settings : Settings,
      (∀ session, build settings registry pool = .ok session →
        Settings.ofJson settings.toJson = .ok settings ∧ session.settings = settings) ∧
      (∀ error, build settings registry pool = .error error →
        Settings.ofJson settings.toJson = .error error ∧ error.category = .invalidArgument) ∧
      ((∃ session, build settings registry pool = .ok session) ↔
        settings.textBufferSize ≠ 0 ∧ settings.binaryBufferSize ≠ 0)) ∧
    (∀ document settings, Settings.ofJson document = .ok settings →
      ∃ session, build settings registry pool = .ok session ∧ session.settings = settings) := by
  refine ⟨fun settings => ?_, fun document settings read =>
    build_of_valid (Settings.validate_of_ofJson read) registry pool⟩
  rw [settings.ofJson_toJson, ← settings.validate_ok_iff]
  rcases valid : settings.validate with error | ⟨⟩
  · have built := build_of_invalid valid registry pool
    rw [built]
    refine ⟨nofun, ?_, ?_⟩
    · rintro _ ⟨⟩
      exact ⟨rfl, Settings.category_of_validate valid⟩
    · exact ⟨nofun, nofun⟩
  · obtain ⟨session, built, own⟩ := build_of_valid valid registry pool
    rw [built]
    refine ⟨?_, nofun, ?_⟩
    · rintro _ ⟨⟩
      exact ⟨rfl, own⟩
    · exact ⟨fun _ => rfl, fun _ => ⟨session, rfl⟩⟩

end Session
end Egress
