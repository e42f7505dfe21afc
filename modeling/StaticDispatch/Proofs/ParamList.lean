import Mathlib.Data.List.Nodup
import StaticDispatch.ParamList.Binding
import StaticDispatch.Proofs.RegistryHistory
import StaticDispatch.Text.WordCharacter

/-!
Contract: what validation says of the names of parameters.

Valid names differ from each other, can name a variable and do not start with an
underscore. The functions of a registry have valid parameters if its calls were given
such: the parameters that a first method declares by itself are valid. A name in ASCII is
one word and its own normal form.

Owns: plain words, well named parameters, and that a registry keeps its parameters well
named.
Does not own: names outside ASCII.
-/

namespace StaticDispatch

/-! ## Plain words -/

namespace Text

/-- A letter, a digit or the underscore, in ASCII. -/
def isPlain (character : Char) : Bool :=
  character.isAlphanum || character == '_'

variable {character : Char}

theorem ascii_of_isPlain (plain : isPlain character = true) : character.toNat < 0x80 := by
  have spelled : (((decide (65 ≤ character.val ∧ character.val ≤ 90) ||
      decide (97 ≤ character.val) && decide (character.val ≤ 122)) ||
      decide (48 ≤ character.val) && decide (character.val ≤ 57)) || character == '_') = true :=
    plain
  simp only [Bool.or_eq_true, Bool.and_eq_true, decide_eq_true_eq, beq_iff_eq,
    UInt32.le_iff_toNat_le] at spelled
  change ((((65 ≤ character.toNat ∧ character.toNat ≤ 90) ∨
    (97 ≤ character.toNat ∧ character.toNat ≤ 122)) ∨
    (48 ≤ character.toNat ∧ character.toNat ≤ 57)) ∨ character = '_') at spelled
  rcases spelled with inRange | rfl
  · omega
  · decide

theorem isWordCharacter_of_isPlain (plain : isPlain character = true) :
    isWordCharacter character = true := by
  rw [isWordCharacter, if_pos (ascii_of_isPlain plain)]
  exact plain

private theorem isIdentifierContinue_of_isPlain (plain : isPlain character = true) :
    isIdentifierContinue character = true := by
  rw [isIdentifierContinue, if_pos (ascii_of_isPlain plain)]
  exact plain

theorem isPlain_of_isWordCharacter (ascii : character.toNat < 0x80)
    (isWord : isWordCharacter character = true) : isPlain character = true := by
  rwa [isWordCharacter, if_pos ascii] at isWord

private theorem isPlain_of_isIdentifierContinue (ascii : character.toNat < 0x80)
    (continues : isIdentifierContinue character = true) : isPlain character = true := by
  rwa [isIdentifierContinue, if_pos ascii] at continues

private theorem isPlain_of_isIdentifierStart (ascii : character.toNat < 0x80)
    (starts : isIdentifierStart character = true) : isPlain character = true := by
  rw [isIdentifierStart, if_pos ascii, Bool.or_eq_true] at starts
  rw [isPlain, Char.isAlphanum, Bool.or_eq_true, Bool.or_eq_true]
  exact starts.imp_left Or.inl

theorem isPlain_of_mem_digits {number : Nat} (inside : character ∈ Nat.toDigits 10 number) :
    isPlain character = true := by
  have isDigit := Nat.isDigit_of_mem_toDigits (by decide) (by decide) inside
  simp [isPlain, Char.isAlphanum, isDigit]

theorem toList_toString (number : Nat) : (toString number).toList = Nat.toDigits 10 number := by
  rw [Nat.toString_eq_repr, Nat.repr_eq_ofList_toDigits, String.toList_ofList]

theorem digits_inj {first second : Nat} (same : Nat.toDigits 10 first = Nat.toDigits 10 second) :
    first = second := by
  have value : ∀ number, Nat.ofDigitChars 10 (Nat.toDigits 10 number) 0 = number :=
    fun number => Nat.ofDigitChars_toDigits (by decide) (by decide)
  rw [← value first, same, value]

/-- A text of plain characters that is not empty. -/
structure IsWord (text : String) : Prop where
  nonempty : text.toList ≠ []
  plain : ∀ character ∈ text.toList, isPlain character = true

private theorem isWord_iff {text : String} :
    IsWord text ↔ (!text.toList.isEmpty && text.toList.all isPlain) = true := by
  rw [Bool.and_eq_true, List.all_eq_true, Bool.not_eq_true', List.isEmpty_eq_false_iff]
  exact ⟨fun isWord => ⟨isWord.nonempty, isWord.plain⟩, fun holds => ⟨holds.1, holds.2⟩⟩

instance (text : String) : Decidable (IsWord text) :=
  decidable_of_iff _ isWord_iff.symm

theorem isWord_of_isIdentifier {name : String} (ascii : isAscii name.toList = true)
    (isName : isIdentifier name = true) : IsWord name := by
  have small : ∀ character ∈ name.toList, character.toNat < 0x80 := by
    simpa [isAscii] using ascii
  unfold isIdentifier at isName
  cases characters : name.toList with
  | nil => simp [characters, identifierShape] at isName
  | cons first rest =>
      rw [characters, identifierShape, Bool.and_eq_true, List.all_eq_true] at isName
      obtain ⟨starts, continues⟩ := isName
      rw [characters] at small
      refine ⟨by simp [characters], ?_⟩
      rw [characters, List.forall_mem_cons]
      exact ⟨isPlain_of_isIdentifierStart (small first (by simp)) starts,
        fun character inside => isPlain_of_isIdentifierContinue
          (small character (by simp [inside])) (continues character inside)⟩

theorem isIdentifier_of_isWord {name : String} {first : Char} (isWord : IsWord name)
    (isFirst : name.toList.head? = some first) (starts : isIdentifierStart first = true) :
    isIdentifier name = true := by
  obtain ⟨rest, characters⟩ := List.head?_eq_some_iff.mp isFirst
  have plain := isWord.plain
  rw [characters, List.forall_mem_cons] at plain
  rw [isIdentifier, characters, identifierShape, starts, Bool.true_and, List.all_eq_true]
  exact fun character inside => isIdentifierContinue_of_isPlain (plain.2 character inside)

theorem normalForm_of_ascii {text : String} (ascii : isAscii text.toList = true) :
    normalForm text = text := by
  rw [normalForm, if_pos ascii]

theorem IsWord.ascii {text : String} (isWord : IsWord text) : isAscii text.toList = true := by
  simpa [isAscii] using fun character inside => ascii_of_isPlain (isWord.plain character inside)

end Text

/-! ## Validation -/

namespace ParamList

/-- What validation asks of names. -/
structure WellNamed (names : List String) : Prop where
  identifiers : ∀ name ∈ names, Text.isIdentifier name = true
  unreserved : ∀ name ∈ names, Text.isReservedWord name = false
  unmarked : ∀ name ∈ names, name.toList.head? ≠ some '_'
  distinct : names.Nodup

private theorem nameFault?_eq_none {seen : List String} {name : String} :
    nameFault? seen name = none ↔ Text.isIdentifier name = true ∧
      Text.isReservedWord name = false ∧ name.toList.head? ≠ some '_' ∧ name ∉ seen := by
  simp only [nameFault?]
  grind

/-- Names are without a fault exactly if they are well named and none was seen before. -/
theorem firstFault?_eq_none {seen names : List String} :
    firstFault? seen names = none ↔ WellNamed names ∧ ∀ name ∈ names, name ∉ seen := by
  induction names generalizing seen with
  | nil => simpa [firstFault?] using WellNamed.mk (by simp) (by simp) (by simp) .nil
  | cons name rest inductionHypothesis =>
      rw [firstFault?]
      cases faulty : nameFault? seen name with
      | some fault =>
          simp only [reduceCtorEq, false_iff]
          rintro ⟨wellNamed, unseen⟩
          have faultless := nameFault?_eq_none.mpr ⟨wellNamed.identifiers name (by simp),
            wellNamed.unreserved name (by simp), wellNamed.unmarked name (by simp),
            unseen name (by simp)⟩
          rw [faulty] at faultless
          cases faultless
      | none =>
          obtain ⟨isName, free, unmarked, unseen⟩ := nameFault?_eq_none.mp faulty
          rw [inductionHypothesis]
          constructor
          · rintro ⟨others, apart⟩
            refine ⟨⟨List.forall_mem_cons.mpr ⟨isName, others.identifiers⟩,
              List.forall_mem_cons.mpr ⟨free, others.unreserved⟩,
              List.forall_mem_cons.mpr ⟨unmarked, others.unmarked⟩,
              List.nodup_cons.mpr ⟨fun inside => apart name inside (by simp), others.distinct⟩⟩,
              List.forall_mem_cons.mpr ⟨unseen, fun other inside isSeen =>
                apart other inside (by simp [isSeen])⟩⟩
          · rintro ⟨all, apart⟩
            obtain ⟨absent, distinct⟩ := List.nodup_cons.mp all.distinct
            refine ⟨⟨(List.forall_mem_cons.mp all.identifiers).2,
              (List.forall_mem_cons.mp all.unreserved).2,
              (List.forall_mem_cons.mp all.unmarked).2, distinct⟩, fun other inside isSeen => ?_⟩
            rcases List.mem_cons.mp isSeen with rfl | wasSeen
            · exact absent inside
            · exact apart other (by simp [inside]) wasSeen

/-- **Parameters are valid exactly if they are well named.** -/
theorem validate_eq_ok {params : ParamList} :
    params.validate = .ok params ↔ WellNamed params.names := by
  unfold validate
  cases faulty : firstFault? [] params.names with
  | none => simpa using (firstFault?_eq_none.mp faulty).1
  | some fault =>
      simp only [reduceCtorEq, false_iff]
      intro wellNamed
      rw [firstFault?_eq_none.mpr ⟨wellNamed, by simp⟩] at faulty
      cases faulty

theorem mem_names {params : ParamList} {name : String} : name ∈ params.names ↔
    name ∈ params.required ∨ name ∈ params.optional.map (·.name) ∨ params.rest = some name ∨
      name ∈ params.keywords.map (·.name) ∨ params.otherKeys = some name := by
  simp only [names, List.mem_append, Option.mem_toList, or_assoc]

theorem mem_names_of_default {params : ParamList} {param : DefaultParam}
    (inside : param ∈ params.optional ∨ param ∈ params.keywords) : param.name ∈ params.names := by
  rcases inside with isOptional | isKeyword
  · exact mem_names.mpr (.inr (.inl (List.mem_map_of_mem isOptional)))
  · exact mem_names.mpr (.inr (.inr (.inr (.inl (List.mem_map_of_mem isKeyword)))))

theorem required_sublist (params : ParamList) : params.required.Sublist params.names := by
  simp only [names, List.append_assoc]
  exact List.sublist_append_left ..

theorem defaults_sublist (params : ParamList) :
    ((params.optional ++ params.keywords).map (·.name)).Sublist params.names := by
  rw [List.map_append, names]
  have optionalFirst : (params.optional.map (·.name)).Sublist
      (params.required ++ params.optional.map (·.name) ++ params.rest.toList) :=
    (List.sublist_append_right ..).trans (List.sublist_append_left ..)
  exact (optionalFirst.append (.refl _)).trans (List.sublist_append_left ..)

theorem isWord_defaultName {name : String} (isWord : Text.IsWord name) :
    Text.IsWord (defaultName name) := by
  have characters : (defaultName name).toList = "_default_".toList ++ name.toList :=
    String.toList_append
  refine ⟨by simp [characters], fun character inside => ?_⟩
  rw [characters, List.mem_append] at inside
  rcases inside with inFixed | inName
  · exact List.all_eq_true.mp (by decide : "_default_".toList.all Text.isPlain = true) _ inFixed
  · exact isWord.plain character inName

/-- Parameters in ASCII are their own normal forms. -/
theorem normalized_of_ascii {params : ParamList}
    (ascii : ∀ name ∈ params.names, Text.isAscii name.toList = true) :
    params.normalized = params := by
  have unchanged : ∀ name ∈ params.names, Text.normalForm name = name :=
    fun name inside => Text.normalForm_of_ascii (ascii name inside)
  have parts : ∀ names : List String, (∀ name ∈ names, name ∈ params.names) →
      names.map Text.normalForm = names := fun names inside =>
    (List.map_congr_left fun name isName => unchanged name (inside name isName)).trans
      (List.map_id' names)
  have defaultParts : ∀ given : List DefaultParam, (∀ param ∈ given, param.name ∈ params.names) →
      given.map (fun param => { param with name := Text.normalForm param.name }) = given :=
    fun given inside =>
      (List.map_congr_left fun param isParam => by rw [unchanged _ (inside param isParam)]).trans
        (List.map_id' given)
  have optionParts : ∀ given : Option String, (∀ name ∈ given, name ∈ params.names) →
      given.map Text.normalForm = given := fun given inside => by
    cases given with
    | none => rfl
    | some name => rw [Option.map_some, unchanged name (inside name rfl)]
  rw [normalized, parts params.required, defaultParts params.optional, optionParts params.rest,
    defaultParts params.keywords, optionParts params.otherKeys]
  · exact fun name inside => mem_names.mpr (.inr (.inr (.inr (.inr inside))))
  · exact fun param inside => mem_names_of_default (.inr inside)
  · exact fun name inside => mem_names.mpr (.inr (.inr (.inl inside)))
  · exact fun param inside => mem_names_of_default (.inl inside)
  · exact fun name inside => mem_names.mpr (.inl inside)

end ParamList

/-! ## Registries -/

namespace Registry

/-- The names of parameters that a first method declares by itself. -/
theorem toList_implicitName (index : Nat) :
    (s!"arg{index}").toList = 'a' :: 'r' :: 'g' :: Nat.toDigits 10 index := by
  show ("arg" ++ toString index).toList = _
  rw [String.toList_append, Text.toList_toString]
  rfl

/-- The parameters that a first method declares by itself are valid. -/
private theorem implicitParams_wellNamed (count : Nat) :
    ParamList.WellNamed (implicitParams count).names := by
  have isNames : (implicitParams count).names =
      (List.range count).map fun index => s!"arg{index}" := by
    simp [ParamList.names, implicitParams]
  rw [isNames]
  refine ⟨?_, ?_, ?_, ?_⟩
  · rw [List.forall_mem_map]
    intro index _
    have isWord : Text.IsWord s!"arg{index}" := by
      refine ⟨by simp, ?_⟩
      simp only [toList_implicitName, List.forall_mem_cons]
      exact ⟨by decide, by decide, by decide, fun _ => Text.isPlain_of_mem_digits⟩
    exact Text.isIdentifier_of_isWord isWord (by rw [toList_implicitName]; rfl) (by decide)
  · rw [List.forall_mem_map]
    intro index _
    -- No reserved word starts as these names do.
    have apart : ∀ word ∈ Text.reservedWords, word.toList.take 3 ≠ ['a', 'r', 'g'] := by decide
    rw [Text.isReservedWord, List.contains_eq_mem, decide_eq_false_iff_not]
    intro isReserved
    exact apart _ isReserved (by rw [toList_implicitName]; rfl)
  · rw [List.forall_mem_map]
    intro index _
    rw [toList_implicitName, List.head?_cons]
    decide
  · refine List.nodup_range.map ?_
    intro first second same
    have sameDigits := congrArg String.toList same
    rw [toList_implicitName, toList_implicitName] at sameDigits
    simp only [List.cons.injEq, true_and] at sameDigits
    exact Text.digits_inj sameDigits

def Call.params? : Call → Option ParamList
  | .declare _ params _ => some params
  | .register _ _ _ params _ => params

def Validated (registry : Registry) : Prop :=
  ∀ generic ∈ registry.generics, generic.params.validate = .ok generic.params

variable {registry next : Registry} {name : String} {params : ParamList}
  {order : Option (List String)} {generic : GenericFunction}

theorem Validated.provides (validated : registry.Validated)
    (valid : params.validate = .ok params)
    (provides : registry.Provides name params order generic next) : next.Validated := by
  rcases provides with ⟨-, rfl⟩ | ⟨-, rfl, -, rfl⟩
  · exact validated
  · intro other inside
    rcases List.mem_append.mp inside with older | added
    · exact validated other older
    · rw [List.mem_singleton.mp added]
      exact valid

/-- **One call with valid parameters keeps all parameters valid.** -/
theorem Validated.after (validated : registry.Validated) {call : Call}
    (valid : ∀ params, call.params? = some params → params.validate = .ok params) :
    (call.after registry).Validated := by
  cases call with
  | declare name params order =>
      rw [Call.after]
      split
      · rename_i generic next accepted
        exact validated.provides (valid params rfl) (provides_of_declare accepted)
      · exact validated
  | register name proposals body given order =>
      rw [Call.after]
      rcases register_cases registry name proposals body given order with
        ⟨fault, refused⟩ | ⟨specializers, generic, declared, -, provided, outcome⟩
      · rw [refused]
        exact validated
      · have validParams : (given.getD (implicitParams specializers.length)).validate =
            .ok (given.getD (implicitParams specializers.length)) := by
          cases given with
          | none => exact ParamList.validate_eq_ok.mpr (implicitParams_wellNamed _)
          | some params => exact valid params rfl
        have provides := provides_of_declareFor provided
        have declaredValid := validated.provides validParams provides
        rcases outcome with ⟨-, refused⟩ | ⟨-, method, methods, used, -, answered⟩
        · rw [refused]
          exact declaredValid
        · rw [answered]
          intro other inside
          obtain ⟨existing, isExisting, same⟩ := List.mem_map.mp inside
          split at same
          · rw [← same]
            exact declaredValid generic provides.mem
          · rw [← same]
            exact declaredValid existing isExisting

theorem Validated.run (validated : registry.Validated) {calls : List Call}
    (valid : ∀ call ∈ calls, ∀ params, call.params? = some params →
      params.validate = .ok params) :
    (registry.run calls).1.Validated := by
  induction calls generalizing registry with
  | nil => exact validated
  | cons call rest inductionHypothesis =>
      exact inductionHypothesis (validated.after (valid call (by simp)))
        fun other inside => valid other (by simp [inside])

end Registry

end StaticDispatch
