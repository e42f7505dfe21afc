import StaticDispatch.Proofs.Cascade
import StaticDispatch.Proofs.Wrapper.Namespace
import StaticDispatch.Proofs.Wrapper.Source
import StaticDispatch.Wrapper.Compile

/-!
Contract: the wrapper of an emitted cascade is closed and compiles.

A cascade that is emitted for candidates of a function has guards in every branch, each on
a required parameter, and calls methods of the function. Its wrapper uses no names but
parameters and bound private names, and the two never meet, since no parameter starts with
an underscore.

Owns: emitted cascades, how a wrapper is made, and the names in its source.
Does not own: what the wrapper answers.
-/

namespace StaticDispatch

variable {table : TypeTable} {generic : GenericFunction} {permutation : List Nat}
  {types : List TypeId} {candidates : List Candidate} {cascade : Cascade}

/-! ## Emitted cascades -/

structure Cascade.WellMade (generic : GenericFunction) (cascade : Cascade) : Prop where
  named : cascade.generic = generic.name
  methods : ∀ method ∈ cascade.methods, method ∈ generic.methods
  guarded : ∀ branch ∈ cascade.branches, branch.guards ≠ []
  places : ∀ branch ∈ cascade.branches, ∀ guard ∈ branch.guards,
    generic.params.required[guard.index]? = some guard.argument

/-- A collected candidate is for a method of the function, and has no inapplicable place. -/
theorem Candidate.mem_of_collect {collected : List Candidate} {candidate : Candidate}
    (collects : collect table generic permutation types = .ok collected)
    (inside : candidate ∈ collected) :
    candidate.method ∈ generic.methods ∧ .inapplicable ∉ candidate.classes := by
  unfold collect at collects
  split at collects
  · cases collects
  · obtain ⟨method, isMethod, made⟩ := Traversal.exists_of_mem_filterMapM collects inside
    unfold ofMethod? at made
    split at made
    · cases made
    · split at made
      · cases made
      · split at made
        · cases made
        next classes _ applicable =>
          cases made
          exact ⟨isMethod, by simpa using applicable⟩

/-- A candidate that is not definite, and has no inapplicable place, has an open one. -/
private theorem Candidate.ambiguousPlaces_ne_nil {candidate : Candidate}
    (notDefinite : candidate.isDefinite = false)
    (noneInapplicable : .inapplicable ∉ candidate.classes) : candidate.ambiguousPlaces ≠ [] := by
  rw [isDefinite, List.all_eq_false] at notDefinite
  obtain ⟨applicability, inside, other⟩ := notDefinite
  obtain ⟨place, classAt⟩ := List.getElem?_of_mem inside
  have isOpen : applicability = .ambiguous := by
    cases applicability with
    | applicable => simp at other
    | ambiguous => rfl
    | inapplicable => exact absurd inside noneInapplicable
  subst isOpen
  exact List.ne_nil_of_mem (mem_ambiguousPlaces_iff.mpr classAt)

private theorem Cascade.argument_of_guardAt {candidate : Candidate} {place : Nat} {guard : Guard}
    (made : guardAt generic permutation candidate place = .ok guard) :
    generic.params.required[guard.index]? = some guard.argument := by
  unfold guardAt at made
  split at made
  · cases made
  · split at made
    next isArgument _ =>
      cases made
      exact isArgument
    next isArgument _ =>
      cases made
      exact isArgument
    · cases made
    · cases made

/-- The candidates of a function that have no inapplicable place. -/
def Candidate.AllOwn (generic : GenericFunction) (candidates : List Candidate) : Prop :=
  ∀ candidate ∈ candidates,
    candidate.method ∈ generic.methods ∧ .inapplicable ∉ candidate.classes

private theorem Cascade.wellMade_of_guarded (own : Candidate.AllOwn generic candidates)
    (made : guarded generic permutation candidates = .ok cascade) : cascade.WellMade generic := by
  induction candidates generalizing cascade with
  | nil =>
      cases made
      exact ⟨rfl, by simp [methods], by simp, by simp⟩
  | cons candidate rest inductionHypothesis =>
      obtain ⟨isMethod, noneInapplicable⟩ := own candidate (by simp)
      unfold guarded at made
      split at made
      next =>
        cases made
        exact ⟨rfl, by simpa [methods] using isMethod, by simp, by simp⟩
      next notDefinite =>
        obtain ⟨guards, guardsAre, remaining⟩ := Traversal.bind_eq_ok.mp made
        obtain ⟨others, othersAre, built⟩ := Traversal.bind_eq_ok.mp remaining
        cases built
        have later := inductionHypothesis (fun other inside => own other (by simp [inside]))
          othersAre
        have made := Traversal.mapM_eq_ok_iff.mp guardsAre
        refine ⟨later.named, ?_, ?_, ?_⟩
        · exact List.forall_mem_cons.mpr ⟨isMethod, later.methods⟩
        · refine List.forall_mem_cons.mpr ⟨fun empty => ?_, later.guarded⟩
          dsimp only at empty
          subst empty
          exact Candidate.ambiguousPlaces_ne_nil (by simpa using notDefinite) noneInapplicable
            (List.forall₂_nil_right_iff.mp made)
        · refine List.forall_mem_cons.mpr ⟨fun guard inside => ?_, later.places⟩
          obtain ⟨place, -, guardIs⟩ := Traversal.exists_of_mem_right made inside
          exact argument_of_guardAt guardIs

/-- **What is emitted for candidates of a function is a cascade of that function**: it
calls its methods, and every branch has a guard on a required parameter. -/
theorem Cascade.wellMade_of_emit {checks : Bool} (own : Candidate.AllOwn generic candidates)
    (emitted : emit generic permutation checks candidates = .ok (some cascade)) :
    cascade.WellMade generic := by
  unfold emit at emitted
  split at emitted
  · cases emitted
  next top rest =>
    split at emitted
    · obtain ⟨made, isMade, same⟩ := Traversal.map_eq_ok.mp emitted
      cases same
      exact wellMade_of_guarded own isMade
    · split at emitted
      · cases emitted
        exact ⟨rfl, by simpa [methods] using (own top (by simp)).1, by simp, by simp⟩
      · cases emitted

/-! ## Making a wrapper -/

namespace Wrapper

variable {wrapper : Wrapper} {names : Names}

def finalLabel : Cascade.Final → Label
  | .method method => .body method.ordinal
  | .dispatch _ => .dispatcher

/-- How a wrapper is made from a cascade: in names that are sound in the end. -/
structure Made (table : TypeTable) (generic : GenericFunction) (cascade : Cascade)
    (wrapper : Wrapper) (names : Names) : Prop where
  name : wrapper.name = nameFor generic.name
  params : wrapper.params = generic.params
  space : wrapper.space = names.space
  sound : names.Sound table generic
  defaults : ∀ param ∈ generic.params.optional ++ generic.params.keywords,
    names.IsBound (.fallback param.name)
  branches : List.Forall₂ (names.RendersBranch table) cascade.branches wrapper.branches
  final : wrapper.final = (finalLabel cascade.final).text
  finalBound : names.IsBound (finalLabel cascade.final)

/-- **A wrapper is made unless a type is missing or there is no dispatcher to end in.** -/
theorem ofCascade_answers (named : cascade.generic = generic.name) (hasDispatcher : Bool) :
    (∃ wrapper, ofCascade generic cascade table hasDispatcher none = .ok wrapper) ↔
      (∀ branch ∈ cascade.branches, ∀ guard ∈ branch.guards, guard.Defined table) ∧
        (hasDispatcher = true ∨ ∃ method, cascade.final = .method method) := by
  rw [ofCascade, if_neg (by simp [named]),
    ← Names.branches_answers (Names.start generic.params) cascade.branches]
  cases made : (Names.start generic.params).branches table cascade.branches with
  | error fault => simp
  | ok result =>
      cases cascade.final with
      | method method => simp
      | dispatch name => cases hasDispatcher <;> simp

theorem exists_made (wellMade : cascade.WellMade generic) {hasDispatcher : Bool}
    (wraps : ofCascade generic cascade table hasDispatcher none = .ok wrapper) :
    ∃ names, Made table generic cascade wrapper names := by
  rw [ofCascade, if_neg (by simp [wellMade.named])] at wraps
  split at wraps
  · cases wraps
  next branches names made =>
    obtain ⟨startSound, startBound⟩ := Names.start_spec table generic
    have own : ∀ branch ∈ cascade.branches, branch.method ∈ generic.methods :=
      fun branch inside => wellMade.methods _
        (List.mem_append_left _ (List.mem_map_of_mem inside))
    obtain ⟨sound, grows, rendered⟩ := Names.branches_spec startSound own made
    -- The final call gives one more name, which the branches survive.
    have finish : ∀ {last : Names} {final : Cascade.Final}, cascade.final = final →
        last.Sound table generic → names.Grows last → last.IsBound (finalLabel final) →
        Made table generic cascade
          { name := nameFor generic.name, params := generic.params, branches
            final := (finalLabel final).text, space := last.space } last := by
      rintro last final rfl lastSound lastGrows bound
      refine ⟨rfl, rfl, rfl, lastSound, fun param inside => ?_, ?_, rfl, bound⟩
      · exact lastGrows.bound _ (grows.bound _ (startBound param inside))
      · exact rendered.imp fun _ _ renders => renders.grows lastGrows
    dsimp only at wraps
    split at wraps
    next method isFinal =>
      cases wraps
      have isMethod : method ∈ generic.methods :=
        wellMade.methods method (by simp [Cascade.methods, isFinal])
      obtain ⟨lastSound, lastGrows, bound⟩ := Names.method_spec sound isMethod
      exact ⟨_, finish isFinal lastSound lastGrows bound⟩
    next name isFinal =>
      split at wraps
      · cases wraps
        obtain ⟨lastSound, lastGrows, bound⟩ := sound.bind .dispatcher rfl
        exact ⟨_, finish isFinal lastSound lastGrows bound⟩
      · cases wraps

/-! ## Words -/

/-- The number of a type of the table is not negative, so it is written in digits. -/
theorem isPlain_of_mem_id {id : TypeId} {host : Option ClassId}
    (answered : table.host? id = .ok host) :
    ∀ character ∈ (toString id).toList, Text.isPlain character = true := by
  cases id with
  | ofNat number =>
      intro character inside
      have digits : (toString (Int.ofNat number)).toList = Nat.toDigits 10 number :=
        Text.toList_toString number
      exact Text.isPlain_of_mem_digits (digits ▸ inside)
  | negSucc number => cases answered

/-- The names of labels with a meaning are words. -/
theorem isWord_text {values : List Value} {label : Label} {meaning : Meaning}
    (areWords : ∀ name ∈ generic.params.names, Text.IsWord name)
    (means : label.Means table generic values meaning) : Text.IsWord label.text := by
  refine ⟨by simp [Label.toList_text], ?_⟩
  rw [Label.toList_text, List.forall_mem_cons]
  refine ⟨by decide, ?_⟩
  cases label with
  | fallback name =>
      obtain ⟨param, isParam, rfl, -⟩ := means
      have isWord := areWords param.name
        (ParamList.mem_names_of_default (List.mem_append.mp isParam))
      exact List.forall_mem_append.mpr ⟨List.all_eq_true.mp (by decide), isWord.plain⟩
  | body ordinal =>
      exact List.forall_mem_cons.mpr ⟨by decide, fun _ => Text.isPlain_of_mem_digits⟩
  | hostClass id =>
      obtain ⟨host, isHost, -⟩ := means
      exact List.forall_mem_cons.mpr ⟨by decide, isPlain_of_mem_id isHost⟩
  | typeTest id =>
      exact List.forall_mem_append.mpr ⟨List.all_eq_true.mp (by decide), isPlain_of_mem_id means.1⟩
  | value index =>
      exact List.forall_mem_cons.mpr ⟨by decide, fun _ => Text.isPlain_of_mem_digits⟩
  | instanceTest => exact List.all_eq_true.mp (by decide)
  | equalityTest => exact List.all_eq_true.mp (by decide)
  | dispatcher => exact List.all_eq_true.mp (by decide)

/-- A name that a wrapper may use: a parameter or a bound name. -/
def MayUse (generic : GenericFunction) (names : Names) (name : String) : Prop :=
  name ∈ generic.params.names ∨ ∃ label : Label, label.text = name ∧ names.IsBound label

theorem MayUse.isWord {name : String} (areWords : ∀ name ∈ generic.params.names, Text.IsWord name)
    (sound : names.Sound table generic) (mayUse : MayUse generic names name) :
    Text.IsWord name := by
  rcases mayUse with isParam | ⟨label, rfl, bound⟩
  · exact areWords name isParam
  · obtain ⟨meaning, -, means⟩ := sound.exists_means bound
    exact isWord_text areWords means

/-- The check of a guard uses its parameter and bound names. -/
private theorem mayUse_of_renders {guard : Guard} {check : Check}
    (isParam : guard.argument ∈ generic.params.names)
    (renders : names.Renders table guard check) :
    ∀ name ∈ check.names, MayUse generic names name := by
  cases renders with
  | @isInstance id host isTest isHost hostBound testBound =>
      simp only [Check.names, List.forall_mem_cons]
      exact ⟨.inr ⟨.instanceTest, rfl, testBound⟩, .inl isParam,
        .inr ⟨.hostClass id, rfl, hostBound⟩, by simp⟩
  | @passes id isTest noHost testBound =>
      simp only [Check.names, List.forall_mem_cons]
      exact ⟨.inr ⟨.typeTest id, rfl, testBound⟩, .inl isParam, by simp⟩
  | @equals value first index isTest isFirst equal valueBound testBound =>
      simp only [Check.names, List.forall_mem_cons]
      exact ⟨.inr ⟨.equalityTest, rfl, testBound⟩, .inl isParam,
        .inr ⟨.value index, rfl, valueBound⟩, by simp⟩

theorem Made.mayUse (made : Made table generic cascade wrapper names)
    (wellMade : cascade.WellMade generic) :
    ∀ name ∈ wrapper.usedNames, MayUse generic names name := by
  intro name isUsed
  rw [usedNames, List.mem_append, List.mem_flatMap, List.mem_singleton] at isUsed
  rcases isUsed with ⟨branch, isBranch, inBranch⟩ | rfl
  · obtain ⟨cascaded, isCascaded, renders⟩ := Traversal.exists_of_mem_right made.branches isBranch
    rw [Branch.names, List.mem_append, List.mem_flatMap, List.mem_singleton] at inBranch
    rcases inBranch with ⟨check, isCheck, inCheck⟩ | rfl
    · obtain ⟨guard, isGuard, rendersCheck⟩ := Traversal.exists_of_mem_right renders.checks isCheck
      have isRequired := wellMade.places cascaded isCascaded guard isGuard
      exact mayUse_of_renders (ParamList.mem_names.mpr (.inl (List.mem_of_getElem? isRequired)))
        rendersCheck name inCheck
    · exact Or.inr ⟨.body cascaded.method.ordinal, renders.target.symm, renders.bound⟩
  · exact Or.inr ⟨finalLabel cascade.final, made.final.symm, made.finalBound⟩

private theorem toList_nameFor (name : String) : (nameFor name).toList =
    ['i', 'n', 'l', 'i', 'n', 'e', '_'] ++ name.toList.map fun character =>
      if Text.isWordCharacter character then character else '_' := by
  rw [nameFor, String.toList_append, String.toList_map]
  rfl

/-- The name of a wrapper for a function with a name in ASCII is a word. -/
theorem isWord_nameFor {name : String} (ascii : Text.isAscii name.toList = true) :
    Text.IsWord (nameFor name) := by
  have small : ∀ character ∈ name.toList, character.toNat < 0x80 := by
    simpa [Text.isAscii] using ascii
  refine ⟨by simp [toList_nameFor], ?_⟩
  rw [toList_nameFor, List.forall_mem_append, List.forall_mem_map]
  refine ⟨List.all_eq_true.mp (by decide), fun character inside => ?_⟩
  split
  next isWord => exact Text.isPlain_of_isWordCharacter (small character inside) isWord
  next => decide

/-- The name of a wrapper for a function with a name in ASCII can name a function. -/
theorem nameFor_spec {name : String} (ascii : Text.isAscii name.toList = true) :
    Text.isIdentifier (nameFor name) = true ∧ Text.isReservedWord (nameFor name) = false := by
  constructor
  · exact Text.isIdentifier_of_isWord (isWord_nameFor ascii) (by rw [toList_nameFor]; rfl)
      (by decide)
  · -- No reserved word starts as the names of wrappers do.
    have apart : ∀ word ∈ Text.reservedWords,
        word.toList.take 7 ≠ ['i', 'n', 'l', 'i', 'n', 'e', '_'] := by decide
    rw [Text.isReservedWord, List.contains_eq_mem, decide_eq_false_iff_not]
    intro isReserved
    exact apart _ isReserved (by rw [toList_nameFor]; rfl)

/-- **The source of a wrapper is closed**: every word is a keyword, the name of the
function, a parameter or a bound name. -/
theorem Made.closed (made : Made table generic cascade wrapper names)
    (wellMade : cascade.WellMade generic) (asciiName : Text.isAscii generic.name.toList = true)
    (areWords : ∀ name ∈ generic.params.names, Text.IsWord name) :
    ∀ word ∈ Text.words wrapper.source.toList, word ∈ keywords ∨ word = wrapper.name ∨
      word ∈ wrapper.params.names ∨ (wrapper.space.find? word).isSome = true := by
  intro word inside
  have mayUse := made.mayUse wellMade
  have places := mem_words_source (made.name ▸ isWord_nameFor asciiName)
    (made.params ▸ areWords) (fun name isUsed => (mayUse name isUsed).isWord areWords made.sound)
    inside
  rw [made.space]
  rcases places with isKeyword | isName | isParam | ⟨param, isParam, rfl⟩ | isUsed
  · exact Or.inl isKeyword
  · exact Or.inr (.inl isName)
  · exact Or.inr (.inr (.inl isParam))
  · exact Or.inr (.inr (.inr (made.defaults param (made.params ▸ isParam))))
  · rcases mayUse word isUsed with isParam | ⟨label, rfl, bound⟩
    · exact Or.inr (.inr (.inl (made.params ▸ isParam)))
    · exact Or.inr (.inr (.inr bound))

/-- **No parameter is a bound name**, since it does not start with an underscore. -/
theorem Made.apart (made : Made table generic cascade wrapper names)
    (wellNamed : ParamList.WellNamed generic.params.names) :
    ∀ name ∈ wrapper.params.names, wrapper.space.find? name = none := by
  rw [made.params, made.space]
  intro name isParam
  rw [Option.eq_none_iff_forall_not_mem]
  intro meaning found
  obtain ⟨label, rfl, -⟩ := made.sound name meaning found
  exact wellNamed.unmarked _ isParam (by rw [Label.toList_text]; rfl)

/-- The default of each parameter stands under its name. -/
theorem Made.default_eq (made : Made table generic cascade wrapper names)
    (wellNamed : ParamList.WellNamed generic.params.names) {param : DefaultParam}
    (isParam : param ∈ generic.params.optional ++ generic.params.keywords) :
    wrapper.space.find? (ParamList.defaultName param.name) = some (.value param.fallback) := by
  rw [made.space]
  obtain ⟨meaning, found, other, isOther, sameName, rfl⟩ :=
    made.sound.exists_means (made.defaults param isParam)
  have distinct : ((generic.params.optional ++ generic.params.keywords).map (·.name)).Nodup :=
    wellNamed.distinct.sublist generic.params.defaults_sublist
  obtain rfl := List.inj_on_of_nodup_map distinct isOther isParam sameName
  exact found

/-- **The source of a wrapper compiles**, and defines the function that it names. -/
theorem Made.compile_eq (made : Made table generic cascade wrapper names)
    (asciiName : Text.isAscii generic.name.toList = true)
    (wellNamed : ParamList.WellNamed generic.params.names)
    (ascii : ∀ name ∈ generic.params.names, Text.isAscii name.toList = true) :
    wrapper.compile = .ok wrapper := by
  have isWord : Text.IsWord wrapper.name := made.name ▸ isWord_nameFor asciiName
  obtain ⟨isName, unreserved⟩ := made.name ▸ nameFor_spec asciiName
  have distinct : wrapper.params.normalized.names.Nodup := by
    rw [made.params, ParamList.normalized_of_ascii ascii]
    exact wellNamed.distinct
  have compiles : wrapper.compiles = true := by
    rw [Wrapper.compiles, isName, unreserved, decide_eq_true distinct]
    rfl
  have noneUnbound : wrapper.unboundDefault? = none := by
    rw [unboundDefault?, List.find?_eq_none, List.forall_mem_map, made.params]
    rintro ⟨name, value⟩ isDefault
    rw [ParamList.defaults, List.mem_map] at isDefault
    obtain ⟨param, isParam, same⟩ := isDefault
    cases same
    dsimp only
    have isParamName := ParamList.mem_names_of_default (List.mem_append.mp isParam)
    have isWordName := ParamList.isWord_defaultName
      (Text.isWord_of_isIdentifier (ascii _ isParamName) (wellNamed.identifiers _ isParamName))
    rw [Text.normalForm_of_ascii isWordName.ascii, made.default_eq wellNamed isParam]
    simp
  rw [compile, compiles, noneUnbound, Text.normalForm_of_ascii isWord.ascii]
  simp

end Wrapper

end StaticDispatch
