import StaticDispatch.Proofs.Declaration.LabelText
import StaticDispatch.Proofs.Declaration.SpelledParams
import StaticDispatch.Proofs.RegistryHistory

/-!
Contract: the labels of loaded methods.

A program names types by names in letters and gives scalars as exact values, so every
specializer of a loaded method has a text. The body of a method answers with a label
that is made of these texts, with the name of the top type where the declaration has
it. Two methods of a function differ in their specializers, so their labels differ,
unless a type is named like nil or a truth value is shown.

Owns: the specializers and bodies of loaded methods, and when their labels are equal.
Does not own: which method a call chooses.
-/

namespace StaticDispatch

open Specializer (HasText Namesakes)

namespace Declaration

/-! ## What declarations spell -/

/-- A type is named in letters, and an exact value is a scalar. -/
def SpecKind.IsSpelled : SpecKind → Prop
  | .any => True
  | .ofType name => isLettered name = true
  | .exactly value => IsScalar value

private theorem SpecDecl.isSpelled_of_ofPart? {part : List Token} {decl : SpecDecl}
    (lettered : ∀ name ∈ names part, isLettered name = true)
    (numerals : ∀ token ∈ part, token.IsNumeral)
    (spelled : SpecDecl.ofPart? part = .ok (some decl)) : decl.kind.IsSpelled := by
  obtain ⟨first, isFirst, made⟩ := Traversal.bind_eq_ok.mp spelled
  obtain ⟨token, isHead, declIs⟩ := Option.map_eq_some_iff.mp (Except.ok.inj made)
  rw [← declIs]
  dsimp only
  split
  · rename_i isName
    exact lettered _ (mem_names_iff.mpr ⟨token, List.mem_of_head? isHead, isName, rfl⟩)
  · exact isScalar_of_firstValue numerals isFirst
  · trivial

private theorem MethodDecl.isSpelled_of_ofTokens {position : Position} {tokens : List Token}
    {decl : MethodDecl} (lettered : ∀ name ∈ names tokens, isLettered name = true)
    (numerals : ∀ token ∈ tokens, token.IsNumeral)
    (spelled : MethodDecl.ofTokens position tokens = .ok decl) :
    ∀ spec ∈ decl.specs, spec.kind.IsSpelled := by
  obtain ⟨specs, specsAre, same⟩ := Traversal.bind_eq_ok.mp spelled
  cases same
  intro spec inside
  obtain ⟨part, isPart, isSpec⟩ := Traversal.exists_of_mem_filterMapM specsAre inside
  have inside := subset_of_mem_parts isPart
  refine SpecDecl.isSpelled_of_ofPart? (fun name isName => ?_)
    (fun token isToken => numerals token (inside isToken)) isSpec
  obtain ⟨token, isToken, isNamed⟩ := mem_names_iff.mp isName
  exact lettered name (mem_names_iff.mpr ⟨token, inside isToken, isNamed⟩)

/-- A program spells what its methods ask for. -/
private theorem Program.isSpelled_of_read {text : String} {program : Program}
    (spelled : Program.read text = .ok program) :
    ∀ decl ∈ program.methods, ∀ spec ∈ decl.specs, spec.kind.IsSpelled := by
  obtain ⟨accepted, items, scanned, itemsAre, rfl⟩ := Program.exists_of_read spelled
  intro decl isMethod
  obtain ⟨group, isGroup, made⟩ := Program.exists_group_of_method itemsAre isMethod
  refine MethodDecl.isSpelled_of_ofTokens (fun name isName => ?_) (fun token isToken => ?_) made
  · exact isLettered_of_tokens (by decide) scanned name
      (names_subset_of_mem_groups isGroup name isName)
  · exact isNumeral_of_tokens (by decide) scanned token (subset_of_mem_groups isGroup isToken)

/-! ## The texts of declared specializers -/

/-- A specializer as a declaration spells it: by its text, or by the name of the top
type. -/
def Spells (table : TypeTable) (specializer : Specializer) (text : String) : Prop :=
  HasText table specializer text ∨ specializer = .any ∧ text = "Top"

variable {table : TypeTable} {specializers : List Specializer} {texts : List String}

private theorem hasText_of_isScalar {value : Value} (scalar : IsScalar value) :
    HasText table (.exactly value) value.spelling := by
  cases value with
  | nil => exact ⟨_, .word (by simp [wordValues])⟩
  | bool value => exact ⟨_, .word (by cases value <;> simp [wordValues])⟩
  | int value => exact ⟨_, .number scalar⟩
  | str value => exact ⟨_, .text value⟩
  | _ => cases scalar

/-- A declared specializer is spelled by its part of the label. -/
private theorem SpecDecl.spells_label {decl : SpecDecl} {specializer : Specializer}
    (spelled : decl.kind.IsSpelled) (named : decl.specializer table = .ok specializer) :
    Spells table specializer decl.label := by
  unfold SpecDecl.specializer at named
  unfold SpecDecl.label
  cases isKind : decl.kind with
  | any =>
      rw [isKind] at named
      cases named
      exact Or.inl ⟨_, .any⟩
  | exactly value =>
      rw [isKind] at named spelled
      cases named
      exact Or.inl (hasText_of_isScalar spelled)
  | ofType name =>
      rw [isKind] at named spelled
      cases found : table.lookup? name with
      | none => simp [found] at named
      | some id =>
          simp only [found] at named
          cases named
          rcases TypeTable.find?_of_lookup? found with ⟨rfl, isTop⟩ | ⟨supertypes, host, present⟩
          · exact Or.inr ⟨by simp [isTop, TypeDef.isTop], rfl⟩
          · have proper : name ≠ "Top" := by
              rintro rfl
              rw [TypeTable.lookup?, if_pos rfl] at found
              rw [TypeTable.topId?_eq_some found] at present
              cases present
            rw [if_neg (by simp [present, TypeDef.isTop])]
            exact Or.inl ⟨_, .type found spelled proper⟩

namespace Spells

variable {first second : Specializer} {text : String}

private theorem exists_hasText (spelled : Spells table first text) :
    ∃ shown, HasText table first shown := by
  rcases spelled with hasText | ⟨rfl, -⟩
  · exact ⟨text, hasText⟩
  · exact ⟨_, _, .any⟩

theorem endsItself (spelled : Spells table first text) : EndsItself text := by
  rcases spelled with ⟨kind, isShown⟩ | ⟨-, rfl⟩
  · exact isShown.endsItself
  · exact Or.inl (unmarked_of_isLettered rfl)

/-- Specializers that are spelled alike have one text. -/
private theorem label_eq_label (isFirst : Spells table first text)
    (isSecond : Spells table second text) :
    first.label table = second.label table := by
  rcases isFirst with ⟨kind, isShown⟩ | ⟨rfl, rfl⟩
  · rcases isSecond with ⟨otherKind, otherIsShown⟩ | ⟨-, rfl⟩
    · exact isShown.label_eq.trans otherIsShown.label_eq.symm
    · exact absurd rfl isShown.ne_top
  · rcases isSecond with ⟨otherKind, otherIsShown⟩ | ⟨rfl, -⟩
    · exact absurd rfl otherIsShown.ne_top
    · rfl

end Spells

private theorem exists_hasText_of_spells
    (spelled : List.Forall₂ (Spells table) specializers texts) :
    ∃ shown, List.Forall₂ (HasText table) specializers shown := by
  induction spelled with
  | nil => exact ⟨[], .nil⟩
  | cons first _ inductionHypothesis =>
      obtain ⟨text, hasText⟩ := first.exists_hasText
      obtain ⟨others, remaining⟩ := inductionHypothesis
      exact ⟨text :: others, .cons hasText remaining⟩

/-- Specializers of a program with equal keys are equal. -/
private theorem eq_of_sameKey {others : List Specializer} {otherTexts : List String}
    (spelled : List.Forall₂ (Spells table) specializers texts)
    (otherSpelled : List.Forall₂ (Spells table) others otherTexts)
    (same : SameKey specializers others) : specializers = others := by
  induction same generalizing texts otherTexts with
  | nil => rfl
  | cons equal _ inductionHypothesis =>
      obtain ⟨_, _, first, firsts, -⟩ := List.forall₂_cons_left_iff.mp spelled
      obtain ⟨_, _, second, seconds, -⟩ := List.forall₂_cons_left_iff.mp otherSpelled
      obtain ⟨_, _, isShown⟩ := first.exists_hasText
      obtain ⟨_, _, otherIsShown⟩ := second.exists_hasText
      rw [isShown.eq_of_beq otherIsShown equal, inductionHypothesis firsts seconds]

/-! ## The methods of loaded worlds -/

/-- Each method answers with its specializers as a declaration spells them. -/
def IsLabelled (table : TypeTable) (registry : Registry) : Prop :=
  ∀ generic ∈ registry.generics, ∀ method ∈ generic.methods, ∃ texts,
    List.Forall₂ (Spells table) method.specializers texts ∧
      method.body.label = labelText generic.name texts

/-- An installed body is under its specializers, or under those of an older method that
are equal to them. -/
private theorem mem_install {body : Body} {ordinal : Nat} {methods : List Method} {method : Method}
    (inside : method ∈ (GenericFunction.install specializers body ordinal methods).2.1) :
    method ∈ methods ∨ method.body = body ∧
      (method.specializers = specializers ∨
        ∃ older ∈ methods, older.specializers = method.specializers ∧
          SameKey method.specializers specializers) := by
  induction methods with
  | nil =>
      rw [List.mem_singleton.mp inside]
      exact Or.inr ⟨rfl, Or.inl rfl⟩
  | cons first rest inductionHypothesis =>
      rw [GenericFunction.install] at inside
      by_cases same : (first.specializers == specializers) = true
      · rw [if_pos same] at inside
        rcases List.mem_cons.mp inside with rfl | older
        · exact Or.inr ⟨rfl, Or.inr ⟨first, by simp, rfl, beq_iff_sameKey.mp same⟩⟩
        · exact Or.inl (by simp [older])
      · rw [if_neg same] at inside
        rcases List.mem_cons.mp inside with rfl | later
        · exact Or.inl (by simp)
        · rcases inductionHypothesis later with older | ⟨isBody, isNew | ⟨other, isOther, keys⟩⟩
          · exact Or.inl (by simp [older])
          · exact Or.inr ⟨isBody, Or.inl isNew⟩
          · exact Or.inr ⟨isBody, Or.inr ⟨other, by simp [isOther], keys⟩⟩

namespace IsLabelled

variable {registry : Registry} {name : String}

/-- Installing a method in a declared function keeps all labels. -/
theorem install (labelled : IsLabelled table registry) {generic : GenericFunction}
    (found : registry.find? name = some generic)
    (spelled : List.Forall₂ (Spells table) specializers texts) (body : Body)
    (isLabel : body.label = labelText name texts) (ordinal next : Nat) :
    IsLabelled table {
      generics := Registry.update { generic with
        methods := (GenericFunction.install specializers body ordinal generic.methods).2.1 }
        registry.generics
      nextOrdinal := next } := by
  obtain ⟨isGeneric, isName⟩ := Registry.find?_eq_some found
  intro other inside method isMethod
  obtain ⟨existing, isExisting, same⟩ := List.mem_map.mp inside
  split at same
  · rw [← same] at isMethod ⊢
    rcases mem_install isMethod with older | ⟨isBody, isKey⟩
    · exact labelled generic isGeneric method older
    · have isSpelled : List.Forall₂ (Spells table) method.specializers texts := by
        rcases isKey with isNew | ⟨older, isOlder, sameSpecializers, sameKey⟩
        · rw [isNew]
          exact spelled
        · obtain ⟨olderTexts, olderSpelled, -⟩ := labelled generic isGeneric older isOlder
          rw [sameSpecializers] at olderSpelled
          rw [eq_of_sameKey olderSpelled spelled sameKey]
          exact spelled
      exact ⟨texts, isSpelled, by rw [isBody, isLabel, isName]⟩
  · rw [← same] at isMethod ⊢
    exact labelled existing isExisting method isMethod

/-- **Registering a method that a declaration spells keeps all labels.** -/
theorem register (labelled : IsLabelled table registry)
    (declared : registry.isDeclared name = true)
    (spelled : List.Forall₂ (Spells table) specializers texts) :
    IsLabelled table (registry.register name (specializers.map .specializer)
      { label := labelText name texts } none none).2 := by
  obtain ⟨existing, found⟩ := Option.isSome_iff_exists.mp declared
  rcases Registry.register_cases registry name (specializers.map .specializer)
      { label := labelText name texts } none none with
    ⟨fault, refused⟩ | ⟨given, generic, left, accepted, provided, outcome⟩
  · rw [refused]
    exact labelled
  · have sameGiven : specializers = given :=
      List.map_injective_iff.mpr (fun _ _ => Proposal.specializer.inj)
        (Registry.eq_map_of_accepted accepted)
    have isExisting : generic = existing ∧ left = registry := by
      rw [Registry.declareFor, found] at provided
      cases provided
      exact ⟨rfl, rfl⟩
    obtain ⟨rfl, rfl⟩ := isExisting
    rcases outcome with ⟨-, refused⟩ | ⟨-, method, methods, used, placed, answered⟩
    · rw [refused]
      exact labelled
    · rw [answered]
      rw [← sameGiven] at placed
      have installed := labelled.install found spelled { label := labelText name texts } rfl
        left.nextOrdinal
      rw [placed] at installed
      exact installed _

theorem declareMethod (labelled : IsLabelled table registry) {decl : MethodDecl}
    (isSpelled : ∀ spec ∈ decl.specs, spec.kind.IsSpelled) :
    IsLabelled table (declareMethod table registry decl).2 := by
  unfold Declaration.declareMethod
  by_cases declared : registry.isDeclared decl.generic = true
  · rw [if_neg (by simp [declared])]
    cases named : decl.specs.mapM (·.specializer table) with
    | error located => exact labelled
    | ok specializers =>
        have spelled : List.Forall₂ (Spells table) specializers
            (decl.specs.map SpecDecl.label) := by
          rw [List.forall₂_map_right_iff]
          refine (Traversal.forall₂_mem (Traversal.mapM_eq_ok_iff.mp named)).flip.imp ?_
          intro specializer spec isNamed
          exact SpecDecl.spells_label (isSpelled spec isNamed.1) isNamed.2
        -- The registry is what registration leaves, whether it is refused or not.
        have left : IsLabelled table (registry.register decl.generic
            (specializers.map .specializer) { label := decl.label } none none).2 :=
          labelled.register declared spelled
        dsimp only
        split
        · rename_i method registry answered
          rw [answered] at left
          exact left
        · rename_i fault registry answered
          rw [answered] at left
          exact left
  · rw [if_pos (by simp [declared])]
    exact labelled

end IsLabelled

namespace World

private theorem registry_addMethod (world : World) (decl : MethodDecl) :
    (world.addMethod decl).registry = (declareMethod world.table world.registry decl).2 := by
  unfold addMethod
  split
  · rename_i registry declared
    rw [declared]
  · rename_i located registry declared
    rw [declared]
    rfl

private theorem registry_addType (world : World) (decl : TypeDecl) :
    (world.addType decl).registry = world.registry := by
  unfold addType
  split <;> rfl

private theorem isLabelled_addGeneric {world : World}
    (labelled : IsLabelled world.table world.registry) (decl : GenericDecl) :
    IsLabelled (world.addGeneric decl).table (world.addGeneric decl).registry := by
  rw [table_addGeneric]
  unfold addGeneric
  split
  · rename_i registry declared
    obtain ⟨params, -, made⟩ := Traversal.bind_eq_ok.mp declared
    split at made
    · rename_i generic next accepted
      cases made
      exact Registry.forall_of_declared labelled (by simp +contextual)
        (Registry.provides_of_declare accepted).grown
    · cases made
  · exact labelled

private theorem isLabelled_addProgram {world : World} (empty : world.registry.generics = [])
    {program : Program} (isSpelled : ∀ decl ∈ program.methods, ∀ spec ∈ decl.specs,
      spec.kind.IsSpelled) :
    IsLabelled (world.addProgram program).table (world.addProgram program).registry := by
  have typed : (program.types.foldl addType world).registry.generics = [] := by
    refine List.foldlRecOn (motive := fun world => world.registry.generics = [])
      program.types addType empty ?_
    intro before holds decl _
    rw [registry_addType]
    exact holds
  have declared : IsLabelled
      (program.generics.foldl addGeneric (program.types.foldl addType world)).table
      (program.generics.foldl addGeneric (program.types.foldl addType world)).registry := by
    refine List.foldlRecOn (motive := fun world => IsLabelled world.table world.registry)
      program.generics addGeneric ?_ fun before labelled decl _ =>
        isLabelled_addGeneric labelled decl
    intro generic isGeneric
    rw [typed] at isGeneric
    cases isGeneric
  refine List.foldlRecOn (motive := fun world => IsLabelled world.table world.registry)
    program.methods addMethod declared ?_
  intro before labelled decl isMethod
  rw [table_addMethod, registry_addMethod]
  exact labelled.declareMethod (isSpelled decl isMethod)

/-- **Every loaded method answers with its specializers as its declaration spells them.** -/
theorem isLabelled_of_load {file : Option String} {text : String} {world : World}
    (isLoaded : World.load file text = .ok world) : IsLabelled world.table world.registry := by
  unfold World.load at isLoaded
  split at isLoaded
  · rename_i program spelled
    cases isLoaded
    exact isLabelled_addProgram rfl (Program.isSpelled_of_read spelled)
  · cases isLoaded
    intro generic isGeneric
    cases isGeneric
  · cases isLoaded

end World

/-! ## Labels and methods -/

variable {first second : Method}

/-- Methods that are spelled alike have equal labels. -/
private theorem label_eq_of_spells {name : String} {firsts seconds : List String}
    (isFirst : List.Forall₂ (Spells table) first.specializers firsts)
    (isSecond : List.Forall₂ (Spells table) second.specializers seconds)
    (lengths : first.specializers.length = second.specializers.length)
    (same : labelText name firsts = labelText name seconds) :
    first.label (.named table) name = second.label (.named table) name := by
  rw [← texts_eq_of_labelText_eq (fun _ _ => Spells.endsItself) isFirst isSecond lengths same]
    at isSecond
  apply Method.label_congr
  exact Traversal.forall₂_of_common isFirst isSecond fun _ _ _ => Spells.label_eq_label

section Loaded

variable {file : Option String} {text : String} {world : World} {generic : GenericFunction}
  (isLoaded : World.load file text = .ok world) (isGeneric : generic ∈ world.registry.generics)

include isLoaded isGeneric

private theorem exists_hasText_of_load {method : Method} (isMethod : method ∈ generic.methods) :
    ∃ texts, List.Forall₂ (HasText world.table) method.specializers texts := by
  obtain ⟨texts, spelled, -⟩ := World.isLabelled_of_load isLoaded generic isGeneric method isMethod
  exact exists_hasText_of_spells spelled

private theorem length_specializers_of_load (isFirst : first ∈ generic.methods)
    (isSecond : second ∈ generic.methods) :
    first.specializers.length = second.specializers.length := by
  have wellFormed := (World.Loaded.of_load isLoaded).reached.wellFormed generic isGeneric
  rw [wellFormed.lengths first isFirst, wellFormed.lengths second isSecond]

private theorem label_eq_of_same_answer (isFirst : first ∈ generic.methods)
    (isSecond : second ∈ generic.methods) (same : first.body.label = second.body.label) :
    first.label (.named world.table) generic.name =
      second.label (.named world.table) generic.name := by
  have labelled := World.isLabelled_of_load isLoaded generic isGeneric
  obtain ⟨firsts, spelled, isLabel⟩ := labelled first isFirst
  obtain ⟨seconds, otherSpelled, otherIsLabel⟩ := labelled second isSecond
  rw [isLabel, otherIsLabel] at same
  exact label_eq_of_spells spelled otherSpelled
    (length_specializers_of_load isLoaded isGeneric isFirst isSecond) same

private theorem label_eq_iff_of_load (isFirst : first ∈ generic.methods)
    (isSecond : second ∈ generic.methods) :
    first.label (.named world.table) generic.name =
        second.label (.named world.table) generic.name ↔
      List.Forall₂ (fun own other => own = other ∨ Namesakes world.table own other)
        first.specializers second.specializers := by
  obtain ⟨firsts, hasText⟩ := exists_hasText_of_load isLoaded isGeneric isFirst
  obtain ⟨seconds, otherHasText⟩ := exists_hasText_of_load isLoaded isGeneric isSecond
  exact Method.label_eq_iff hasText otherHasText
    (length_specializers_of_load isLoaded isGeneric isFirst isSecond) generic.name

/-- Where no type is named like a word value, methods with one label have equal keys. -/
private theorem sameKey_of_label_eq
    (unnamed : ∀ value ∈ wordValues, world.table.lookup? value.spelling = none)
    (isFirst : first ∈ generic.methods) (isSecond : second ∈ generic.methods)
    (same : first.label (.named world.table) generic.name =
      second.label (.named world.table) generic.name) :
    SameKey first.specializers second.specializers := by
  refine ((label_eq_iff_of_load isLoaded isGeneric isFirst isSecond).mp same).imp ?_
  intro own other related
  rcases related with rfl | namesakes
  · exact own.beq_self
  · cases namesakes with
    | typeFirst isWord found =>
        rw [unnamed _ isWord] at found
        cases found
    | wordFirst isWord found =>
        rw [unnamed _ isWord] at found
        cases found

/-- **Labels tell the methods of a function apart, but for types that are named like nil
or a truth value is shown.** -/
theorem labels_tell_methods_apart :
    (∀ method ∈ generic.methods,
      ∃ label, method.label (.named world.table) generic.name = .ok label) ∧
    (generic.methods.Pairwise fun first second =>
      (first.body.label = second.body.label →
        first.label (.named world.table) generic.name =
          second.label (.named world.table) generic.name) ∧
      (first.label (.named world.table) generic.name =
          second.label (.named world.table) generic.name ↔
        List.Forall₂ (fun own other => own = other ∨ Namesakes world.table own other)
          first.specializers second.specializers)) ∧
    ((∀ value ∈ wordValues, world.table.lookup? value.spelling = none) →
      generic.methods.Pairwise fun first second =>
        first.body.label ≠ second.body.label ∧
          first.label (.named world.table) generic.name ≠
            second.label (.named world.table) generic.name) := by
  refine ⟨?_, ?_, ?_⟩
  · intro method isMethod
    obtain ⟨texts, hasText⟩ := exists_hasText_of_load isLoaded isGeneric isMethod
    exact ⟨_, Method.label_eq_ok hasText generic.name⟩
  · apply List.pairwise_of_forall_mem_list
    intro first isFirst second isSecond
    exact ⟨label_eq_of_same_answer isLoaded isGeneric isFirst isSecond,
      label_eq_iff_of_load isLoaded isGeneric isFirst isSecond⟩
  · intro unnamed
    have wellFormed := (World.Loaded.of_load isLoaded).reached.wellFormed generic isGeneric
    apply wellFormed.distinct.imp_of_mem
    intro first second isFirst isSecond different
    have labelsDiffer : first.label (.named world.table) generic.name ≠
        second.label (.named world.table) generic.name := fun same =>
      different (sameKey_of_label_eq isLoaded isGeneric unnamed isFirst isSecond same)
    exact ⟨fun same => labelsDiffer
      (label_eq_of_same_answer isLoaded isGeneric isFirst isSecond same), labelsDiffer⟩

end Loaded

namespace Sharing

/-- A type, and a text that is the name of the type. -/
def plainText : String :=
  "type A\ngeneric f(x)\nmethod f(A)\nmethod f(\"A\")"

def plainProgram : Program where
  types := [⟨"A", [], ⟨1, 1⟩⟩]
  generics := [⟨"f", [⟨.plain, some "x", ⟨2, 11⟩⟩], none, ⟨2, 1⟩⟩]
  methods := [
    ⟨"f", [⟨.ofType "A", ⟨3, 10⟩⟩], ⟨3, 1⟩⟩,
    ⟨"f", [⟨.exactly (.str "A"), ⟨4, 10⟩⟩], ⟨4, 1⟩⟩]

def plainWorld : World :=
  (World.empty none).addProgram plainProgram

private theorem load_plain : World.load none plainText = .ok plainWorld := by
  have read : Program.read plainText = .ok plainProgram := by with_unfolding_all rfl
  rw [World.load, read]
  rfl

/-- Both methods are loaded, and their labels tell them apart. -/
theorem plain_methods_told_apart :
    World.load none plainText = .ok plainWorld ∧
    (∀ value ∈ wordValues, plainWorld.table.lookup? value.spelling = none) ∧
    ∃ generic ∈ plainWorld.registry.generics, generic.methods.length = 2 ∧
      generic.methods.Pairwise fun first second =>
        first.body.label ≠ second.body.label ∧
          first.label (.named plainWorld.table) generic.name ≠
            second.label (.named plainWorld.table) generic.name := by
  have unnamed : ∀ value ∈ wordValues, plainWorld.table.lookup? value.spelling = none := by
    decide +kernel
  have both : ∃ generic ∈ plainWorld.registry.generics, generic.methods.length = 2 := by
    decide +kernel
  obtain ⟨generic, isGeneric, count⟩ := both
  exact ⟨load_plain, unnamed, generic, isGeneric, count,
    (labels_tell_methods_apart load_plain isGeneric).2.2 unnamed⟩

/-- A type with the name that nil is shown by. -/
def clashText : String :=
  "type None\ngeneric f(x)\nmethod f(None)\nmethod f(nil)"

def clashProgram : Program where
  types := [⟨"None", [], ⟨1, 1⟩⟩]
  generics := [⟨"f", [⟨.plain, some "x", ⟨2, 11⟩⟩], none, ⟨2, 1⟩⟩]
  methods := [
    ⟨"f", [⟨.ofType "None", ⟨3, 10⟩⟩], ⟨3, 1⟩⟩,
    ⟨"f", [⟨.exactly .nil, ⟨4, 10⟩⟩], ⟨4, 1⟩⟩]

def clashWorld : World :=
  (World.empty none).addProgram clashProgram

def typeMethod : Method where
  specializers := [.ofType 2]
  body := { label := "f(None)" }
  ordinal := 0

def nilMethod : Method where
  specializers := [.exactly .nil]
  body := { label := "f(None)" }
  ordinal := 1

private theorem load_clash : World.load none clashText = .ok clashWorld := by
  have read : Program.read clashText = .ok clashProgram := by with_unfolding_all rfl
  rw [World.load, read]
  rfl

/-- Two methods of a function may share their label. -/
theorem type_and_nil_share_label :
    World.load none clashText = .ok clashWorld ∧
    clashWorld.registry.methods "f" = [typeMethod, nilMethod] ∧
    typeMethod.body.label = nilMethod.body.label ∧
    typeMethod.label (.named clashWorld.table) "f" =
      nilMethod.label (.named clashWorld.table) "f" :=
  ⟨load_clash, by with_unfolding_all rfl, rfl, by with_unfolding_all rfl⟩

end Sharing

end Declaration

end StaticDispatch
