import StaticDispatch.Config
import StaticDispatch.Proofs.Traversal

/-!
Contract: which values are configurations.

The format asks for an object with the name of the format and version zero, in which
two fields may list names and three may hold flags. Every value of the format is
accepted. Beyond it, `false` passes for version zero, and a value that holds nothing
passes for a list of names. Everything else is refused, and the report blames what is
wrong.

Owns: the format, what is accepted beyond it, and the reports of refused values.
Does not own: what a configuration enables, and the text format.
-/

namespace StaticDispatch.Config

open Json (isBlank isZero)
open Traversal (Confined)

/-! ## The format -/

/-- The number zero, written with or without a fraction. -/
def IsNumberZero (value : Json) : Prop :=
  value = .int 0 ∨ ∃ negative, value = .number (.finite negative 0)

def IsNameList (value : Json) : Prop :=
  ∃ names : List String, value = .array (names.map Json.string)

def IsFlag (value : Json) : Prop :=
  ∃ flag, value = .bool flag

def nameFields : List String := ["enabled", "disabled"]

def flagFields : List String := ["enable_all", "checks_required", "abstain_on_unordered"]

/-- An object with the fields of a configuration, for given demands on its version and on
its lists of names. Fields may be left out, but for the format and the version. -/
structure Conforms (isVersion isNames : Json → Prop) (json : Json) : Prop where
  object : ∃ members, json = .object members
  format : json.get? "format" = some (.string formatName)
  version : ∃ value, json.get? "version" = some value ∧ isVersion value
  names : ∀ field ∈ nameFields, ∀ value, json.get? field = some value → isNames value
  flags : ∀ field ∈ flagFields, ∀ value, json.get? field = some value → IsFlag value

/-- The format as it is documented: a list of names may be null. -/
def Documented : Json → Prop :=
  Conforms IsNumberZero fun value => value = .null ∨ IsNameList value

/-- What passes for version zero. -/
def PassesAsZero (value : Json) : Prop :=
  IsNumberZero value ∨ value = .bool false

/-- What passes for a list of names: such a list, or a value that holds nothing. -/
def PassesAsNames (value : Json) : Prop :=
  IsNameList value ∨ value = .null ∨ value = .bool false ∨ IsNumberZero value ∨
    value = .string "" ∨ value = .object []

private theorem Documented.conforms {json : Json} (documented : Documented json) :
    Conforms PassesAsZero PassesAsNames json := by
  obtain ⟨version, present, isZero⟩ := documented.version
  refine ⟨documented.object, documented.format, ⟨version, present, .inl isZero⟩, ?_,
    documented.flags⟩
  intro field isField value found
  rcases documented.names field isField value found with isNull | isList
  · exact .inr (.inl isNull)
  · exact .inl isList

/-! ## What is accepted -/

private theorem exact_eq_zero_iff (value : Number.Binary64) :
    value.exact = .finite 0 ↔ ∃ negative, value = .finite negative 0 := by
  cases value with
  | finite negative size =>
      cases negative with
      | false => simp [Number.Binary64.exact]
      | true => cases size <;> simp [Number.Binary64.exact, Neg.neg, Dyadic.neg]
  | infinite negative => simp [Number.Binary64.exact]
  | undefined identity => simp [Number.Binary64.exact]

private theorem isZero_iff (value : Json) : value.isZero = true ↔ PassesAsZero value := by
  cases value with
  | number value =>
      simp only [isZero, PassesAsZero, IsNumberZero, decide_eq_true_eq]
      refine (exact_eq_zero_iff value).trans ?_
      simp
  | _ => simp [isZero, PassesAsZero, IsNumberZero]

private theorem isBlank_iff (value : Json) :
    value.isBlank = true ↔ value = .null ∨ value = .bool false ∨ IsNumberZero value ∨
      value = .string "" ∨ value = .array [] ∨ value = .object [] := by
  cases value with
  | number value =>
      simp only [isBlank, IsNumberZero, decide_eq_true_eq]
      refine (exact_eq_zero_iff value).trans ?_
      simp
  | _ => simp [isBlank, IsNumberZero]

private theorem mapM_string?_eq_some_iff {items : List Json} {names : List String} :
    items.mapM Json.string? = some names ↔ items = names.map Json.string := by
  have each : ∀ item name, Json.string? item = some name ↔ item = .string name := by
    intro item name
    cases item <;> simp [Json.string?]
  simp only [Traversal.mapM_eq_some_iff, each]
  rw [← List.forall₂_map_right_iff, List.forall₂_eq_eq_eq]

private theorem isNameList_iff (value : Json) :
    IsNameList value ↔ ∃ names, value.array?.bind (·.mapM Json.string?) = some names := by
  cases value with
  | array items => simp [IsNameList, Json.array?, mapM_string?_eq_some_iff]
  | _ => simp [IsNameList, Json.array?]

/-- A blank list lists no names, and all other blank values are told apart from lists. -/
private theorem passesAsNames_iff (value : Json) :
    PassesAsNames value ↔ value.isBlank = true ∨ IsNameList value := by
  have emptyList : value = .array [] → IsNameList value := fun isEmpty => ⟨[], isEmpty⟩
  rw [isBlank_iff, PassesAsNames]
  tauto

/-! ## Fields and reports -/

def Fault.Blames (json : Json) : Fault → Prop
  | .notAnObject => ∀ members, json ≠ .object members
  | .unsupportedFormat => json.get? "format" ≠ some (.string formatName) ∨
      ∀ value, json.get? "version" = some value → ¬ PassesAsZero value
  | .names field => field ∈ nameFields ∧
      ∃ value, json.get? field = some value ∧ ¬ PassesAsNames value
  | .boolean field => field ∈ flagFields ∧ ∃ value, json.get? field = some value ∧ ¬ IsFlag value
  | .invalidText _ _ => False

private theorem Fault.Blames.not_conforms {json : Json} {fault : Fault}
    (blames : fault.Blames json) :
    ¬ Conforms PassesAsZero PassesAsNames json := by
  intro conforms
  cases fault with
  | notAnObject =>
      obtain ⟨members, isObject⟩ := conforms.object
      exact blames members isObject
  | unsupportedFormat =>
      obtain ⟨version, present, passes⟩ := conforms.version
      rcases blames with otherFormat | otherVersion
      · exact otherFormat conforms.format
      · exact otherVersion version present passes
  | names field =>
      obtain ⟨isField, value, present, fails⟩ := blames
      exact fails (conforms.names field isField value present)
  | boolean field =>
      obtain ⟨isField, value, present, fails⟩ := blames
      exact fails (conforms.flags field isField value present)
  | invalidText path report => exact blames

private theorem isSupported_iff (json : Json) :
    isSupported json = true ↔ json.get? "format" = some (.string formatName) ∧
      ∃ value, json.get? "version" = some value ∧ PassesAsZero value := by
  have format : (json.get? "format").bind Json.string? = some formatName ↔
      json.get? "format" = some (.string formatName) := by
    cases json.get? "format" with
    | none => simp
    | some value => cases value <;> simp [Json.string?]
  simp only [isSupported, Bool.and_eq_true, beq_iff_eq, format, Option.any_eq_true, isZero_iff]

/-- A list of names is read exactly if it passes for one. -/
theorem namesField_cases (json : Json) (field : String) :
    (∃ names, namesField json field = .ok names) ∧
        (∀ value, json.get? field = some value → PassesAsNames value) ∨
      namesField json field = .error (.names field) ∧
        ∃ value, json.get? field = some value ∧ ¬ PassesAsNames value := by
  unfold namesField
  cases json.get? field with
  | none => simp
  | some value =>
      have passes := passesAsNames_iff value
      by_cases blank : value.isBlank = true
      · simp [blank, passes]
      · cases listed : value.array?.bind (·.mapM Json.string?) with
        | none => simp [blank, listed, passes, isNameList_iff]
        | some names => simp [blank, listed, passes, isNameList_iff]

private theorem booleanField_cases (json : Json) (field : String) (absent : Bool) :
    (∃ flag, booleanField json field absent = .ok flag) ∧
        (∀ value, json.get? field = some value → IsFlag value) ∨
      booleanField json field absent = .error (.boolean field) ∧
        ∃ value, json.get? field = some value ∧ ¬ IsFlag value := by
  unfold booleanField
  cases json.get? field with
  | none => simp
  | some value => cases value <;> simp [Json.bool?, IsFlag]

private theorem passes_of_namesField {json : Json} {field : String} {names : List String}
    (read : namesField json field = .ok names) :
    ∀ value, json.get? field = some value → PassesAsNames value := by
  rcases namesField_cases json field with ⟨-, passes⟩ | ⟨refused, -⟩
  · exact passes
  · rw [refused] at read
    cases read

private theorem isFlag_of_booleanField {json : Json} {field : String} {absent flag : Bool}
    (read : booleanField json field absent = .ok flag) :
    ∀ value, json.get? field = some value → IsFlag value := by
  rcases booleanField_cases json field absent with ⟨-, areFlags⟩ | ⟨refused, -⟩
  · exact areFlags
  · rw [refused] at read
    cases read

private theorem namesField_confined (json : Json) {field : String} (isField : field ∈ nameFields) :
    Confined (Fault.Blames json) (namesField json field) := by
  rcases namesField_cases json field with ⟨answers, -⟩ | ⟨refused, fails⟩
  · exact .of_answers answers
  · rw [refused]
    exact .error ⟨isField, fails⟩

private theorem booleanField_confined (json : Json) {field : String} (absent : Bool)
    (isField : field ∈ flagFields) :
    Confined (Fault.Blames json) (booleanField json field absent) := by
  rcases booleanField_cases json field absent with ⟨answers, -⟩ | ⟨refused, fails⟩
  · exact .of_answers answers
  · rw [refused]
    exact .error ⟨isField, fails⟩

/-! ## Configurations -/

/-- **A refused value is at fault** in the way that the report says. -/
theorem ofJson_confined (json : Json) : Confined (Fault.Blames json) (ofJson json) := by
  cases json with
  | object members =>
      by_cases supported : isSupported (.object members) = true
      · simp only [ofJson, supported, if_true]
        apply (namesField_confined _ (by decide : "enabled" ∈ nameFields)).bind
        intro enabled _
        apply (namesField_confined _ (by decide : "disabled" ∈ nameFields)).bind
        intro disabled _
        apply (booleanField_confined _ _ (by decide : "enable_all" ∈ flagFields)).bind
        intro enableAll _
        apply (booleanField_confined _ _ (by decide : "checks_required" ∈ flagFields)).bind
        intro checksRequired _
        apply (booleanField_confined _ _ (by decide : "abstain_on_unordered" ∈ flagFields)).bind
        intro abstainOnUnordered _
        exact .ok _
      · simp only [ofJson, supported]
        apply Confined.error
        rw [isSupported_iff, not_and_or, not_exists] at supported
        exact supported.imp_right fun unsupported value present passes =>
          unsupported value ⟨present, passes⟩
  | _ =>
      apply Confined.error
      intro members isObject
      cases isObject

private theorem conforms_of_ofJson {json : Json} {config : Config}
    (accepted : ofJson json = .ok config) :
    Conforms PassesAsZero PassesAsNames json := by
  cases json with
  | object members =>
      by_cases supported : isSupported (.object members) = true
      · simp only [ofJson, supported, if_true] at accepted
        obtain ⟨format, version⟩ := (isSupported_iff _).mp supported
        obtain ⟨_, enabled, accepted⟩ := Traversal.bind_eq_ok.mp accepted
        obtain ⟨_, disabled, accepted⟩ := Traversal.bind_eq_ok.mp accepted
        obtain ⟨_, enableAll, accepted⟩ := Traversal.bind_eq_ok.mp accepted
        obtain ⟨_, checksRequired, accepted⟩ := Traversal.bind_eq_ok.mp accepted
        obtain ⟨_, abstainOnUnordered, -⟩ := Traversal.bind_eq_ok.mp accepted
        refine ⟨⟨members, rfl⟩, format, version, ?_, ?_⟩
        · simp only [nameFields, List.forall_mem_cons]
          exact ⟨passes_of_namesField enabled, passes_of_namesField disabled, by simp⟩
        · simp only [flagFields, List.forall_mem_cons]
          exact ⟨isFlag_of_booleanField enableAll, isFlag_of_booleanField checksRequired,
            isFlag_of_booleanField abstainOnUnordered, by simp⟩
      · simp [ofJson, supported] at accepted
  | _ => cases accepted

/-- **A value is a configuration exactly if it conforms to the format**, where `false`
passes for version zero and a value that holds nothing for a list of names. A refused
value is blamed for what is wrong with it. -/
theorem ofJson_accepts_iff_conforms (json : Json) :
    ((∃ config, ofJson json = .ok config) ↔ Conforms PassesAsZero PassesAsNames json) ∧
      (Documented json → ∃ config, ofJson json = .ok config) ∧
      ∀ fault, ofJson json = .error fault → fault.Blames json := by
  have accepts : Conforms PassesAsZero PassesAsNames json → ∃ config, ofJson json = .ok config := by
    intro conforms
    cases outcome : ofJson json with
    | ok config => exact ⟨config, rfl⟩
    | error fault => exact absurd conforms (ofJson_confined json fault outcome).not_conforms
  exact ⟨⟨fun ⟨config, accepted⟩ => conforms_of_ofJson accepted, accepts⟩,
    fun documented => accepts documented.conforms, ofJson_confined json⟩

namespace Announcing

/-- An object of the one format with a version and further fields. -/
def announced (version : Json) (fields : List (String × Json)) : Json :=
  .object (("format", .string formatName) :: ("version", version) :: fields)

/-- Names to enable, none to disable, and a flag. -/
def plain : Json :=
  announced (.number (.finite true 0)) [("enabled", .array [.string "area", .string "draw"]),
    ("disabled", .null), ("enable_all", .bool false)]

theorem plain_accepted : Documented plain ∧ ∃ config, ofJson plain = .ok config := by
  have documented : Documented plain := by
    refine ⟨⟨_, rfl⟩, rfl, ⟨_, rfl, .inr ⟨true, rfl⟩⟩, ?_, ?_⟩
    · simp only [nameFields, List.forall_mem_cons]
      refine ⟨?_, ?_, by simp⟩
      · rintro _ ⟨⟩
        exact .inr ⟨["area", "draw"], rfl⟩
      · rintro _ ⟨⟩
        exact .inl rfl
    · simp only [flagFields, List.forall_mem_cons]
      refine ⟨?_, nofun, nofun, by simp⟩
      rintro _ ⟨⟩
      exact ⟨false, rfl⟩
  exact ⟨documented, (ofJson_accepts_iff_conforms plain).2.1 documented⟩

/-- A flag in the place of a list of names is accepted, and so is one in the place of the
version. -/
theorem misplaced_flags_accepted :
    ofJson (announced (.int 0) [("enabled", .bool false)]) = .ok {} ∧
      ofJson (announced (.bool false) []) = .ok {} ∧
      ¬ Documented (announced (.int 0) [("enabled", .bool false)]) ∧
      ¬ Documented (announced (.bool false) []) := by
  refine ⟨by decide, by decide, fun documented => ?_, fun documented => ?_⟩
  · rcases documented.names "enabled" (by decide) (.bool false) rfl with isNull | ⟨names, isList⟩
    · cases isNull
    · cases isList
  · obtain ⟨version, present, isZero⟩ := documented.version
    cases present
    rcases isZero with isInteger | ⟨negative, isNumber⟩
    · cases isInteger
    · cases isNumber

end Announcing

end StaticDispatch.Config
