import Mathlib.Computability.RegularExpressions
import StaticDispatch.Declaration.World
import StaticDispatch.Proofs.ParamList
import StaticDispatch.Proofs.Traversal

/-!
Contract: which lists of parameters a declaration may spell.

Loading takes parameters one by one and asks of each whether it may stand behind those
before it. What it accepts has one shape: plain parameters, parameters with a default, a
star with the keyword parameters behind it, and the other keys last. The names must also
pass validation. Each part of the parameter list is then the group of the same place, with
nothing left out and nothing moved.

Owns: the forms and groups of parameters, and the lists that loading accepts.
Does not own: the names that a text can spell.
-/

namespace StaticDispatch.Declaration

/-- The form of a parameter, whatever its name and its value. -/
inductive ParamForm where
  | plain
  | fallback
  | star
  | doubleStar
deriving DecidableEq, Repr

namespace ParamDecl

def form (decl : ParamDecl) : ParamForm :=
  match decl.kind with
  | .plain => .plain
  | .fallback _ => .fallback
  | .star => .star
  | .doubleStar => .doubleStar

/-- The value a parameter has by itself; a plain one has nil. -/
def value (decl : ParamDecl) : Value :=
  match decl.kind with
  | .fallback value => value
  | _ => .nil

def toDefault (decl : ParamDecl) : DefaultParam where
  name := decl.name.getD ""
  fallback := decl.value

/-- Only a star goes without a name. -/
def IsNamed (decl : ParamDecl) : Prop :=
  decl.form ≠ .star → decl.name.isSome = true

end ParamDecl

def ParamForm.one (form : ParamForm) : RegularExpression ParamForm :=
  .char form

open ParamForm in
/-- The shape of a list: plain parameters, those with a default, a star with keyword
parameters of both forms, and the other keys. -/
def paramShape : RegularExpression ParamForm :=
  plain.one.star * fallback.one.star * (1 + star.one * (plain.one + fallback.one).star) *
    (1 + doubleStar.one)

/-- A list of parameters by groups. The keyword parameters come with their star. -/
structure ParamGroups where
  required : List ParamDecl
  optional : List ParamDecl
  starred : Option (ParamDecl × List ParamDecl)
  otherKeys : Option ParamDecl

namespace ParamGroups

def keywords (groups : ParamGroups) : List ParamDecl :=
  (groups.starred.map (·.2)).getD []

def all (groups : ParamGroups) : List ParamDecl :=
  groups.required ++ groups.optional ++
    (groups.starred.toList.flatMap fun (star, keywords) => star :: keywords) ++
    groups.otherKeys.toList

structure Proper (groups : ParamGroups) : Prop where
  required : ∀ decl ∈ groups.required, decl.form = .plain
  optional : ∀ decl ∈ groups.optional, decl.form = .fallback
  star : ∀ starred ∈ groups.starred, starred.1.form = .star
  keywords : ∀ decl ∈ groups.keywords, decl.form = .plain ∨ decl.form = .fallback
  otherKeys : ∀ decl ∈ groups.otherKeys, decl.form = .doubleStar

/-- The list has the groups' parameters in their places, with their own values. -/
structure Spells (groups : ParamGroups) (params : ParamList) : Prop where
  required : groups.required.map (·.name) = params.required.map some
  optional : groups.optional.map (fun decl => (decl.name, decl.value)) =
    params.optional.map fun param => (some param.name, param.fallback)
  rest : groups.starred.bind (·.1.name) = params.rest
  keywords : groups.keywords.map (fun decl => (decl.name, decl.value)) =
    params.keywords.map fun param => (some param.name, param.fallback)
  otherKeys : groups.otherKeys.map (·.name) = params.otherKeys.map some

def empty : ParamGroups where
  required := []
  optional := []
  starred := none
  otherKeys := none

/-- What loading has read when it has read these groups. -/
def state (groups : ParamGroups) : ParamState where
  params :=
    { required := groups.required.map (·.name.getD "")
      optional := groups.optional.map ParamDecl.toDefault
      rest := groups.starred.bind (·.1.name)
      keywords := groups.keywords.map ParamDecl.toDefault
      otherKeys := groups.otherKeys.bind (·.name) }
  seenStar := groups.starred.isSome

variable {groups : ParamGroups} {generic : String} {decl star : ParamDecl}
  {earlier decls : List ParamDecl} {next : ParamState}

private theorem mem_all : decl ∈ groups.all ↔ decl ∈ groups.required ∨ decl ∈ groups.optional ∨
    (∃ starred ∈ groups.starred, decl = starred.1) ∨ decl ∈ groups.keywords ∨
    decl ∈ groups.otherKeys := by
  obtain ⟨required, optional, starred, otherKeys⟩ := groups
  cases starred <;> simp [all, keywords]

/-! ## One parameter more -/

private theorem add_required (isPlain : decl.form = .plain) (unstarred : groups.starred = none)
    (noOptional : groups.optional = []) (isOpen : groups.otherKeys = none) :
    groups.state.add generic decl =
      .ok { groups with required := groups.required ++ [decl] }.state := by
  obtain ⟨kind, name, position⟩ := decl
  cases kind <;> cases isPlain
  simp [ParamState.add, state, unstarred, noOptional, isOpen, keywords]

private theorem add_optional (isFallback : decl.form = .fallback)
    (unstarred : groups.starred = none) (isOpen : groups.otherKeys = none) :
    groups.state.add generic decl =
      .ok { groups with optional := groups.optional ++ [decl] }.state := by
  obtain ⟨kind, name, position⟩ := decl
  cases kind <;> cases isFallback
  simp [ParamState.add, state, unstarred, isOpen, keywords, ParamDecl.toDefault, ParamDecl.value]

private theorem add_star (isStar : decl.form = .star) (unstarred : groups.starred = none)
    (isOpen : groups.otherKeys = none) :
    groups.state.add generic decl = .ok { groups with starred := some (decl, []) }.state := by
  obtain ⟨kind, name, position⟩ := decl
  cases kind <;> cases isStar
  simp [ParamState.add, state, unstarred, isOpen, keywords]

private theorem add_keyword (isKeyword : decl.form = .plain ∨ decl.form = .fallback)
    (starred : groups.starred = some (star, earlier)) (isOpen : groups.otherKeys = none) :
    groups.state.add generic decl =
      .ok { groups with starred := some (star, earlier ++ [decl]) }.state := by
  obtain ⟨kind, name, position⟩ := decl
  rcases isKeyword with isForm | isForm <;> cases kind <;> cases isForm <;>
    simp [ParamState.add, state, starred, isOpen, keywords, ParamDecl.toDefault, ParamDecl.value]

private theorem add_otherKeys (isOther : decl.form = .doubleStar)
    (isOpen : groups.otherKeys = none) :
    groups.state.add generic decl = .ok { groups with otherKeys := some decl }.state := by
  obtain ⟨kind, name, position⟩ := decl
  cases kind <;> cases isOther
  simp [ParamState.add, state, isOpen, keywords]

/-- Nothing may stand behind the other keys. -/
private theorem otherKeys_of_add (proper : groups.Proper) (named : ∀ own ∈ groups.all, own.IsNamed)
    (added : groups.state.add generic decl = .ok next) : groups.otherKeys = none := by
  cases isOther : groups.otherKeys with
  | none => rfl
  | some own =>
      have notStar : own.form ≠ .star := by simp [proper.otherKeys own isOther]
      obtain ⟨name, isName⟩ := Option.isSome_iff_exists.mp
        (named own (mem_all.mpr (by simp [isOther])) notStar)
      simp [ParamState.add, state, isOther, isName] at added

/-- Behind a star, both plain parameters and those with a default are keyword parameters. -/
theorem exists_of_add_keyword (proper : groups.Proper)
    (isKeyword : decl.form = .plain ∨ decl.form = .fallback)
    (isStarred : groups.starred = some (star, earlier)) (isOpen : groups.otherKeys = none) :
    ∃ grown : ParamGroups, grown.Proper ∧ grown.all = groups.all ++ [decl] ∧
      groups.state.add generic decl = .ok grown.state := by
  refine ⟨{ groups with starred := some (star, earlier ++ [decl]) }, ?_,
    by simp [all, isOpen, isStarred], add_keyword isKeyword isStarred isOpen⟩
  have isStar : star.form = .star := proper.star _ isStarred
  have others := proper.keywords
  simp only [keywords, isStarred, Option.map_some, Option.getD_some] at others
  refine { proper with star := by simpa using isStar, keywords := fun own inside => ?_ }
  rcases List.mem_append.mp inside with older | isNew
  · exact others own older
  · rwa [List.mem_singleton.mp isNew]

/-- A parameter that is added joins one of the groups, behind all others. -/
private theorem exists_of_add (proper : groups.Proper) (named : ∀ own ∈ groups.all, own.IsNamed)
    (added : groups.state.add generic decl = .ok next) :
    ∃ grown : ParamGroups, grown.Proper ∧ grown.all = groups.all ++ [decl] ∧
      groups.state.add generic decl = .ok grown.state := by
  have isOpen := otherKeys_of_add proper named added
  cases isForm : decl.form with
  | doubleStar =>
      refine ⟨{ groups with otherKeys := some decl }, ?_, by simp [all, isOpen],
        add_otherKeys isForm isOpen⟩
      exact { proper with otherKeys := by simpa using isForm }
  | star =>
      cases isStarred : groups.starred with
      | some starred =>
          obtain ⟨kind, name, position⟩ := decl
          cases kind <;> cases isForm
          simp [ParamState.add, state, isOpen, isStarred] at added
      | none =>
          refine ⟨{ groups with starred := some (decl, []) }, ?_,
            by simp [all, isOpen, isStarred], add_star isForm isStarred isOpen⟩
          exact { proper with star := by simpa using isForm, keywords := by simp [keywords] }
  | plain =>
      cases isStarred : groups.starred with
      | some starred => exact exists_of_add_keyword proper (.inl isForm) isStarred isOpen
      | none =>
          cases areOptional : groups.optional with
          | cons first others =>
              obtain ⟨kind, name, position⟩ := decl
              cases kind <;> cases isForm
              simp [ParamState.add, state, isOpen, isStarred, areOptional] at added
          | nil =>
              refine ⟨{ groups with required := groups.required ++ [decl] }, ?_,
                by simp [all, isOpen, isStarred, areOptional],
                add_required isForm isStarred areOptional isOpen⟩
              exact { proper with
                required := by simpa [or_imp, forall_and, isForm] using proper.required }
  | fallback =>
      cases isStarred : groups.starred with
      | some starred => exact exists_of_add_keyword proper (.inr isForm) isStarred isOpen
      | none =>
          refine ⟨{ groups with optional := groups.optional ++ [decl] }, ?_,
            by simp [all, isOpen, isStarred], add_optional isForm isStarred isOpen⟩
          exact { proper with
            optional := by simpa [or_imp, forall_and, isForm] using proper.optional }

/-! ## All parameters -/

/-- What is added to proper groups leaves proper groups. -/
private theorem exists_of_addAll (proper : groups.Proper) (named : ∀ own ∈ groups.all, own.IsNamed)
    (declsNamed : ∀ own ∈ decls, own.IsNamed)
    (added : ParamState.addAll generic groups.state decls = .ok next) :
    ∃ grown : ParamGroups, grown.Proper ∧ grown.all = groups.all ++ decls ∧
      grown.state = next := by
  induction decls generalizing groups with
  | nil =>
      cases added
      exact ⟨groups, proper, by simp, rfl⟩
  | cons decl rest inductionHypothesis =>
      rw [ParamState.addAll] at added
      split at added
      · cases added
      · rename_i middle first
        obtain ⟨grown, grownProper, grownAll, isGrown⟩ := exists_of_add proper named first
        cases first.symm.trans isGrown
        have grownNamed : ∀ own ∈ grown.all, own.IsNamed := by
          rw [grownAll]
          intro own inside
          rcases List.mem_append.mp inside with older | isNew
          · exact named own older
          · exact declsNamed own (by simp_all)
        obtain ⟨last, lastProper, lastAll, isLast⟩ := inductionHypothesis grownProper grownNamed
          (fun own inside => declsNamed own (by simp [inside])) added
        exact ⟨last, lastProper, by simp [lastAll, grownAll], isLast⟩

private theorem addAll_append {state middle : ParamState} {first second : List ParamDecl}
    (added : ParamState.addAll generic state first = .ok middle) :
    ParamState.addAll generic state (first ++ second) =
      ParamState.addAll generic middle second := by
  induction first generalizing state with
  | nil =>
      cases added
      rfl
  | cons decl rest inductionHypothesis =>
      rw [ParamState.addAll] at added
      rw [List.cons_append, ParamState.addAll]
      split at added
      · cases added
      · exact inductionHypothesis added

/-- Groups that take one parameter of a kind behind another take a whole list of them. -/
theorem addAll_each (grow : List ParamDecl → ParamGroups) {fits : ParamDecl → Prop}
    (adds : ∀ earlier decl, fits decl →
      (grow earlier).state.add generic decl = .ok (grow (earlier ++ [decl])).state)
    (allFit : ∀ decl ∈ decls, fits decl) (earlier : List ParamDecl) :
    ParamState.addAll generic (grow earlier).state decls = .ok (grow (earlier ++ decls)).state := by
  induction decls generalizing earlier with
  | nil => simp [ParamState.addAll]
  | cons decl rest inductionHypothesis =>
      rw [ParamState.addAll, adds earlier decl (allFit decl (by simp))]
      have later := inductionHypothesis (fun own inside => allFit own (by simp [inside]))
        (earlier ++ [decl])
      simpa using later

/-- **Proper groups can be read in their order.** -/
theorem addAll_all (proper : groups.Proper) :
    ParamState.addAll generic empty.state groups.all = .ok groups.state := by
  obtain ⟨required, optional, starred, otherKeys⟩ := groups
  have plainOnes : ParamState.addAll generic empty.state required =
      .ok { empty with required }.state :=
    addAll_each (fun required => { empty with required })
      (fun _ _ isPlain => add_required isPlain rfl rfl rfl) proper.required []
  have fallbackOnes : ParamState.addAll generic { empty with required }.state optional =
      .ok { empty with required, optional }.state :=
    addAll_each (fun optional => { empty with required, optional })
      (fun _ _ isFallback => add_optional isFallback rfl rfl) proper.optional []
  have starredOnes : ParamState.addAll generic { empty with required, optional }.state
      (starred.toList.flatMap fun (star, keywords) => star :: keywords) =
      .ok { empty with required, optional, starred }.state := by
    cases starred with
    | none => rfl
    | some own =>
        obtain ⟨star, keywords⟩ := own
        rw [Option.toList_some, List.flatMap_singleton, ParamState.addAll,
          add_star (proper.star _ rfl) rfl rfl]
        exact addAll_each
          (fun keywords => { empty with required, optional, starred := some (star, keywords) })
          (fun _ _ isKeyword => add_keyword isKeyword rfl rfl) proper.keywords []
  have lastOnes : ParamState.addAll generic { empty with required, optional, starred }.state
      otherKeys.toList = .ok { required, optional, starred, otherKeys : ParamGroups }.state := by
    cases otherKeys with
    | none => rfl
    | some own =>
        rw [Option.toList_some, ParamState.addAll, add_otherKeys (proper.otherKeys own rfl) rfl]
        rfl
  unfold all
  rw [List.append_assoc, List.append_assoc, addAll_append plainOnes, addAll_append fallbackOnes,
    addAll_append starredOnes, lastOnes]

/-! ## The shape of a list -/

/-- A word over some letters has these letters only. -/
theorem mem_star_iff {letters : RegularExpression ParamForm} {fits : ParamForm → Prop}
    (oneLetter : ∀ word, word ∈ letters.matches' ↔ ∃ letter, fits letter ∧ word = [letter])
    {word : List ParamForm} :
    word ∈ letters.star.matches' ↔ ∀ letter ∈ word, fits letter := by
  rw [RegularExpression.matches'_star, Language.mem_kstar]
  constructor
  · rintro ⟨words, rfl, areLetters⟩ letter inside
    obtain ⟨own, isWord, isIn⟩ := List.mem_flatten.mp inside
    obtain ⟨only, fitsOnly, rfl⟩ := (oneLetter own).mp (areLetters own isWord)
    rwa [List.mem_singleton.mp isIn]
  · intro allFit
    refine ⟨word.map ([·]), by simp [← List.flatMap_def], ?_⟩
    intro own isWord
    obtain ⟨letter, inside, rfl⟩ := List.mem_map.mp isWord
    exact (oneLetter _).mpr ⟨letter, allFit letter inside, rfl⟩

private theorem mem_one_iff {form : ParamForm} {word : List ParamForm} :
    word ∈ form.one.matches' ↔ word = [form] := by
  rw [ParamForm.one, RegularExpression.matches'_char]
  exact Set.mem_singleton_iff

private theorem mem_star_one_iff {form : ParamForm} {word : List ParamForm} :
    word ∈ form.one.star.matches' ↔ ∀ letter ∈ word, letter = form :=
  mem_star_iff fun _ => by simp [mem_one_iff]

private theorem mem_star_keyword_iff {word : List ParamForm} :
    word ∈ (ParamForm.plain.one + ParamForm.fallback.one).star.matches' ↔
      ∀ letter ∈ word, letter = .plain ∨ letter = .fallback :=
  mem_star_iff fun _ => by
    simp [Language.mem_add, mem_one_iff, or_and_right, exists_or]

/-- The part from the star on, cut into the star and the keyword parameters. -/
private theorem exists_starred (isStarred : decls.map ParamDecl.form = [] ∨ ∃ keywords,
      (∀ form ∈ keywords, form = .plain ∨ form = .fallback) ∧
        ParamForm.star :: keywords = decls.map ParamDecl.form) :
    ∃ starred : Option (ParamDecl × List ParamDecl),
      (∀ own ∈ starred, own.1.form = .star ∧
        ∀ decl ∈ own.2, decl.form = .plain ∨ decl.form = .fallback) ∧
      (starred.toList.flatMap fun (star, keywords) => star :: keywords) = decls := by
  cases decls with
  | nil => exact ⟨none, by simp, rfl⟩
  | cons star keywords =>
      rcases isStarred with isEmpty | ⟨forms, areKeywords, same⟩
      · cases isEmpty
      · obtain ⟨isStar, rfl⟩ := List.cons.inj same
        exact ⟨some (star, keywords), by simpa [← isStar] using areKeywords, by simp⟩

/-- **A list has the shape exactly if it falls into proper groups.** -/
theorem mem_paramShape_iff :
    decls.map ParamDecl.form ∈ paramShape.matches' ↔
      ∃ groups : ParamGroups, groups.Proper ∧ groups.all = decls := by
  simp only [paramShape, RegularExpression.matches'_mul, RegularExpression.matches'_add,
    RegularExpression.matches'_epsilon, Language.mem_mul, Language.mem_add, Language.mem_one,
    mem_star_one_iff, mem_star_keyword_iff, mem_one_iff, exists_eq_left, List.singleton_append]
  constructor
  · rintro ⟨_, ⟨_, ⟨plains, arePlain, fallbacks, areFallback, rfl⟩, starredPart, isStarred, rfl⟩,
      others, isOther, whole⟩
    obtain ⟨_, otherKeys, rfl, front, rfl⟩ := List.map_eq_append_iff.mp whole.symm
    obtain ⟨_, starredDecls, rfl, positional, rfl⟩ := List.map_eq_append_iff.mp front
    obtain ⟨required, optional, rfl, rfl, rfl⟩ := List.map_eq_append_iff.mp positional
    obtain ⟨starred, starredProper, rfl⟩ := exists_starred isStarred
    have otherProper : ∃ own : Option ParamDecl, (∀ decl ∈ own, decl.form = .doubleStar) ∧
        own.toList = otherKeys := by
      cases otherKeys with
      | nil => exact ⟨none, by simp, rfl⟩
      | cons own rest => exact ⟨some own, by simp_all, by simp_all⟩
    obtain ⟨other, isDoubleStar, rfl⟩ := otherProper
    refine ⟨⟨required, optional, starred, other⟩, ⟨?_, ?_, ?_, ?_, isDoubleStar⟩, rfl⟩
    · simpa using arePlain
    · simpa using areFallback
    · exact fun own isOwn => (starredProper own isOwn).1
    · cases starred with
      | none => simp [keywords]
      | some own => simpa [keywords] using (starredProper own rfl).2
  · rintro ⟨⟨required, optional, starred, otherKeys⟩, proper, rfl⟩
    refine ⟨_, ⟨_, ⟨required.map ParamDecl.form, ?_, optional.map ParamDecl.form, ?_, rfl⟩,
      (starred.toList.flatMap fun (star, keywords) => star :: keywords).map ParamDecl.form,
      ?_, rfl⟩,
      otherKeys.toList.map ParamDecl.form, ?_, by simp [all]⟩
    · simpa using proper.required
    · simpa using proper.optional
    · cases starred with
      | none => exact .inl rfl
      | some own =>
          have isStar : own.1.form = .star := proper.star own rfl
          refine .inr ⟨own.2.map ParamDecl.form, ?_, by simp [isStar]⟩
          simpa [keywords] using proper.keywords
    · cases otherKeys with
      | none => exact .inl rfl
      | some own => simpa using proper.otherKeys own rfl

/-! ## The names of a list -/

private theorem isSome_name (proper : groups.Proper) (named : ∀ own ∈ groups.all, own.IsNamed) :
    (∀ own ∈ groups.required, own.name.isSome = true) ∧
      (∀ own ∈ groups.optional, own.name.isSome = true) ∧
      (∀ own ∈ groups.keywords, own.name.isSome = true) ∧
      ∀ own ∈ groups.otherKeys, own.name.isSome = true := by
  refine ⟨fun own inside => named own (mem_all.mpr (by simp [inside])) ?_,
    fun own inside => named own (mem_all.mpr (by simp [inside])) ?_,
    fun own inside => named own (mem_all.mpr (by simp [inside])) ?_,
    fun own inside => named own (mem_all.mpr (by simp_all)) ?_⟩
  · simp [proper.required own inside]
  · simp [proper.optional own inside]
  · rcases proper.keywords own inside with isForm | isForm <;> simp [isForm]
  · simp [proper.otherKeys own inside]

private theorem some_getD_name (isNamed : decl.name.isSome = true) :
    some (decl.name.getD "") = decl.name :=
  Option.getD_of_ne_none (Option.isSome_iff_ne_none.mp isNamed) ""

private theorem map_getD_name (areNamed : ∀ own ∈ decls, own.name.isSome = true) :
    decls.map (·.name.getD "") = decls.filterMap (·.name) := by
  refine (List.filterMap_eq_map_iff_forall_eq_some.mpr fun own inside => ?_).symm
  exact (some_getD_name (areNamed own inside)).symm

/-- The names that were read are those of all parameters, in order. -/
theorem names_state (proper : groups.Proper) (named : ∀ own ∈ groups.all, own.IsNamed) :
    groups.state.params.names = groups.all.filterMap (·.name) := by
  obtain ⟨requiredNamed, optionalNamed, keywordsNamed, otherNamed⟩ := isSome_name proper named
  have starredNames : groups.state.params.rest.toList ++
      groups.state.params.keywords.map (·.name) =
      (groups.starred.toList.flatMap fun (star, keywords) => star :: keywords).filterMap
        (·.name) := by
    cases isStarred : groups.starred with
    | none => simp [state, isStarred, keywords]
    | some own =>
        have keywordNames := map_getD_name keywordsNamed
        simp only [keywords, isStarred, Option.map_some, Option.getD_some] at keywordNames
        cases isName : own.1.name <;>
          simp [state, isStarred, keywords, Function.comp_def, ParamDecl.toDefault, keywordNames,
            isName]
  have otherNames : groups.state.params.otherKeys.toList =
      groups.otherKeys.toList.filterMap (·.name) := by
    cases isOther : groups.otherKeys with
    | none => simp [state, isOther]
    | some own =>
        obtain ⟨name, isName⟩ := Option.isSome_iff_exists.mp (otherNamed own isOther)
        simp [state, isOther, isName]
  have optionalNames : groups.state.params.optional.map (·.name) =
      groups.optional.filterMap (·.name) := by
    rw [← map_getD_name optionalNamed]
    simp [state, Function.comp_def, ParamDecl.toDefault]
  rw [ParamList.names, optionalNames, otherNames, List.append_assoc _ _ (List.map _ _),
    starredNames, all, List.filterMap_append, List.filterMap_append, List.filterMap_append,
    ← map_getD_name requiredNamed]
  rfl

/-- The list that was read has the parameters of the groups. -/
theorem spells_state (proper : groups.Proper) (named : ∀ own ∈ groups.all, own.IsNamed) :
    groups.Spells groups.state.params := by
  obtain ⟨requiredNamed, optionalNamed, keywordsNamed, otherNamed⟩ := isSome_name proper named
  have isDefault : ∀ own : ParamDecl, own.name.isSome = true →
      own.name = some own.toDefault.name ∧ own.value = own.toDefault.fallback :=
    fun own isNamed => ⟨(some_getD_name isNamed).symm, rfl⟩
  refine ⟨?_, ?_, rfl, ?_, ?_⟩
  · simpa [state] using fun own inside => (some_getD_name (requiredNamed own inside)).symm
  · simpa [state] using fun own inside => isDefault own (optionalNamed own inside)
  · simpa [state] using fun own inside => isDefault own (keywordsNamed own inside)
  · cases isOther : groups.otherKeys with
    | none => simp [state, isOther]
    | some own =>
        obtain ⟨name, isName⟩ := Option.isSome_iff_exists.mp (otherNamed own isOther)
        simp [state, isOther, isName]

private theorem proper_empty : empty.Proper :=
  ⟨by simp [empty], by simp [empty], by simp [empty], by simp [empty, keywords], by simp [empty]⟩

end ParamGroups

variable {decl : GenericDecl} {params : ParamList}

/-- **What a declaration spells is read from proper groups with good names, and from
nothing else.** -/
theorem GenericDecl.paramList_eq_ok_iff (named : ∀ own ∈ decl.params, own.IsNamed) :
    decl.paramList = .ok params ↔
      ∃ groups : ParamGroups, groups.Proper ∧ groups.all = decl.params ∧
        groups.state.params = params ∧ ParamList.WellNamed params.names := by
  have validated : ∀ given other : ParamList, given.validate = .ok other → other = given := by
    intro given other isValid
    unfold ParamList.validate at isValid
    split at isValid <;> cases isValid
    rfl
  unfold GenericDecl.paramList
  rw [Traversal.bind_eq_ok]
  constructor
  · rintro ⟨last, added, checked⟩
    obtain ⟨groups, proper, allAre, rfl⟩ := ParamGroups.exists_of_addAll ParamGroups.proper_empty
      (by simp [ParamGroups.all, ParamGroups.empty]) named added
    split at checked
    · rename_i own isValid
      cases checked
      cases validated _ _ isValid
      exact ⟨groups, proper, allAre, rfl, ParamList.validate_eq_ok.mp isValid⟩
    · cases checked
  · rintro ⟨groups, proper, allAre, rfl, wellNamed⟩
    refine ⟨groups.state, allAre ▸ ParamGroups.addAll_all proper, ?_⟩
    rw [ParamList.validate_eq_ok.mpr wellNamed]
    rfl

end StaticDispatch.Declaration
