import StaticDispatch.Proofs.Specializer.Order
import StaticDispatch.Proofs.TypeTable.Exactness
import StaticDispatch.Proofs.TypeTable.Rooted

/-!
Contract: what a classification and an overlap promise, however the table came about.

What is applicable to a static type matches each of its values, what is inapplicable
matches none, and specializers that a value matches together may overlap. A closed
world promises this for values whose place among the registered classes it knows.
A type below another one inherits both definite answers, because it has no values
of its own.

Owns: soundness and refinement of classifications over regular scenarios.
Does not own: the order of methods.
-/

namespace StaticDispatch

open TypeTable (Demand)

namespace TypeTable

variable {table later : TypeTable} {value : Value} {lower upper other : TypeId}
  {lowerDef upperDef otherDef : TypeDef}

/-- The registered classes of a value are none, or one of them with its own ancestors. -/
def Places (table later : TypeTable) (value : Value) : Prop :=
  (∀ id cls, table.hostAt? id = some cls → value.isInstanceOf later.classes cls = false) ∨
    ∃ own ownCls, table.hostAt? own = some ownCls ∧ ∀ id cls, table.hostAt? id = some cls →
      value.isInstanceOf later.classes cls = table.classes.isSubclass ownCls cls

theorem Places.foresees (placed : table.openWorld = false → table.Places later value)
    (id : TypeId) : table.Foresees later value id := by
  intro closed other otherCls cls otherHost host otherAbove above
  have isOther := Hierarchy.isSubclass_iff.mpr otherAbove
  have isOwn := Hierarchy.isSubclass_iff.mpr above
  rcases placed closed with unplaced | ⟨own, ownCls, ownHost, same⟩
  · have isNone := unplaced id cls host
    rw [Value.isInstanceOf, isOwn] at isNone
    cases isNone
  · rw [← Value.isInstanceOf, same _ _ otherHost, Hierarchy.isSubclass_iff] at isOther
    rw [← Value.isInstanceOf, same _ _ host, Hierarchy.isSubclass_iff] at isOwn
    exact haveCommonHost_iff.mpr ⟨own, ownCls, ownHost, isOther, isOwn⟩

/-- Below a type that is not the top type there is no top type. -/
theorem Mirrors.not_isTop_of_implies (mirrors : table.Mirrors)
    (upperFound : table.find? upper = some upperDef) (notTop : upperDef.isTop = false)
    (below : (Demand.ofDef lowerDef).implies table.classes (Demand.ofDef upperDef) = true) :
    lowerDef.isTop = false := by
  cases lowerDef with
  | classType name supertypes host => rfl
  | literalType pinned base => rfl
  | top =>
      cases upperDef with
      | top => cases notTop
      | literalType pinned base => simp [Demand.implies] at below
      | classType name supertypes host =>
          obtain ⟨cls, rfl, stands⟩ := mirrors.standsFor upperFound
          simp only [Demand.ofDef_classType, Demand.ofDef_top, Demand.implies, Option.all_none,
            Bool.and_true, Hierarchy.isSubclass_iff] at below
          exact absurd (mirrors.wellFormed.eq_root_of_mem below) stands.proper

/-- **Disjointness passes on to types below**, whose values are values of the upper type. -/
theorem excludes_of_implies (mirrors : table.Mirrors)
    (lowerFound : table.find? lower = some lowerDef)
    (upperFound : table.find? upper = some upperDef)
    (otherFound : table.find? other = some otherDef)
    (below : (Demand.ofDef lowerDef).implies table.classes (Demand.ofDef upperDef) = true)
    (excluded : table.excludes (Demand.ofDef upperDef) (Demand.ofDef otherDef) = true) :
    table.excludes (Demand.ofDef lowerDef) (Demand.ofDef otherDef) = true := by
  rw [excludes_iff mirrors lowerFound otherFound]
  rintro later value reckoned ⟨meetsLower, meetsOther⟩
  obtain ⟨wellFormed, growth⟩ := reckoned.spec mirrors
  rw [← Demand.implies_eq growth (mirrors.knows_demand lowerFound)] at below
  exact (excludes_iff mirrors upperFound otherFound).mp excluded later value reckoned
    ⟨Demand.isMet_of_implies wellFormed below meetsLower, meetsOther⟩

end TypeTable

namespace Specializer

variable {table : TypeTable} {specializer : Specializer} {lower upper : TypeId}
  {lowerDef upperDef : TypeDef}

private theorem applicable_of_implies (mirrors : table.Mirrors)
    (isDefined : specializer.Defined table) (lowerFound : table.find? lower = some lowerDef)
    (upperFound : table.find? upper = some upperDef)
    (below : (Demand.ofDef lowerDef).implies table.classes (Demand.ofDef upperDef) = true)
    (applicable : specializer.classify table upper = .ok .applicable) :
    specializer.classify table lower = .ok .applicable := by
  cases specializer with
  | any => rfl
  | exactly wanted =>
      obtain ⟨upperPinned, isUpper, equal⟩ :=
        (classify_exactly_eq_applicable upperFound).mp applicable
      simp only [Demand.implies, isUpper, Option.all_some, Bool.and_eq_true] at below
      obtain ⟨lowerPinned, isLower, lowerEqual⟩ := (Option.any_eq_true _ _).mp below.2
      exact (classify_exactly_eq_applicable lowerFound).mpr
        ⟨lowerPinned, isLower, Value.eql_trans lowerEqual equal⟩
  | ofType id =>
      obtain ⟨definition, found⟩ := isDefined
      rw [classify_ofType_eq_applicable mirrors upperFound found] at applicable
      rw [classify_ofType_eq_applicable mirrors lowerFound found]
      exact ⟨mirrors.not_isTop_of_implies upperFound applicable.1 below,
        Demand.implies_trans mirrors.wellFormed below applicable.2⟩

private theorem inapplicable_of_implies (mirrors : table.Mirrors)
    (isDefined : specializer.Defined table) (lowerFound : table.find? lower = some lowerDef)
    (upperFound : table.find? upper = some upperDef)
    (below : (Demand.ofDef lowerDef).implies table.classes (Demand.ofDef upperDef) = true)
    (inapplicable : specializer.classify table upper = .ok .inapplicable) :
    specializer.classify table lower = .ok .inapplicable := by
  cases specializer with
  | any => cases inapplicable
  | exactly wanted =>
      exact absurd inapplicable (classify_exactly_ne_inapplicable upperFound)
  | ofType id =>
      obtain ⟨definition, found⟩ := isDefined
      rw [classify_ofType_eq_inapplicable mirrors upperFound found] at inapplicable
      rw [classify_ofType_eq_inapplicable mirrors lowerFound found]
      exact ⟨mirrors.not_isTop_of_implies upperFound inapplicable.1 below,
        TypeTable.excludes_of_implies mirrors lowerFound upperFound found below inapplicable.2⟩

end Specializer

/-- **Classification and overlap are sound for matching.** They are asked for in one
scenario and hold for values of this or a later one. In a closed world the place of the
value among the registered classes has to be known. -/
theorem classify_and_mayOverlap_sound {scenario later : Scenario} {value : Value}
    (regular : scenario.Regular) (used : Scenario.Steps scenario later)
    (known : later.table.classes.Knows value.cls)
    (placed : scenario.table.openWorld = false → scenario.table.Places later.table value) :
    (∀ (specializer : Specializer) (static : TypeId), specializer.Defined scenario.table →
      scenario.table.Defines static → later.table.isInstance value static = .ok true →
      ∃ answer matched, specializer.classify scenario.table static = .ok answer ∧
        specializer.isMatch later.table value = .ok matched ∧
        (answer = .applicable → matched = true) ∧
        (answer = .inapplicable → matched = false)) ∧
    ∀ first second : Specializer, first.Defined scenario.table → second.Defined scenario.table →
      first.isMatch later.table value = .ok true → second.isMatch later.table value = .ok true →
      first.mayOverlap scenario.table second = .ok true ∧
        second.mayOverlap scenario.table first = .ok true := by
  have mirrors := regular.aligned.mirrors
  obtain ⟨laterAligned, growth⟩ := used.spec regular.aligned
  have laterMirrors := laterAligned.mirrors
  have foreseen : ∀ specializer : Specializer,
      specializer.Foreseen scenario.table later.table value := by
    intro specializer
    cases specializer with
    | any => trivial
    | exactly wanted => trivial
    | ofType id => exact TypeTable.Places.foresees placed id
  have matchIs : ∀ {specializer : Specializer}, specializer.Defined scenario.table →
      specializer.isMatch later.table value = .ok (specializer.isMet later.table value) :=
    fun isDefined => Specializer.isMatch_eq laterMirrors known (isDefined.extend growth)
  constructor
  · intro specializer static isDefined ⟨staticDef, staticFound⟩ isOfStatic
    rw [TypeTable.isInstance_eq laterMirrors known (growth.definitions _ _ staticFound)]
      at isOfStatic
    have meets := Except.ok.inj isOfStatic
    obtain ⟨answer, answered⟩ := Specializer.classify_answers mirrors isDefined staticFound
    refine ⟨answer, _, answered, matchIs isDefined, ?_, ?_⟩
    · rintro rfl
      exact Specializer.isMet_of_applicable mirrors growth laterMirrors.wellFormed isDefined
        staticFound answered meets
    · rintro rfl
      exact Specializer.isMet_of_inapplicable mirrors growth laterMirrors.wellFormed isDefined
        (foreseen specializer) staticFound answered meets
  · intro first second firstDefined secondDefined firstMatches secondMatches
    rw [matchIs firstDefined] at firstMatches
    rw [matchIs secondDefined] at secondMatches
    have overlap := Specializer.overlaps_of_met mirrors growth laterMirrors.wellFormed firstDefined
      secondDefined (foreseen second) (Except.ok.inj firstMatches) (Except.ok.inj secondMatches)
    rw [Specializer.mayOverlap_eq mirrors firstDefined secondDefined,
      Specializer.mayOverlap_eq mirrors secondDefined firstDefined,
      ← Specializer.overlaps_comm mirrors firstDefined secondDefined, overlap]
    exact ⟨rfl, rfl⟩

namespace Gems

/-- A closed world of round, red and blue things, and of rubies, which are round and red. -/
def gems : Scenario :=
  ((Scenario.empty false).declareAll [("Round", []), ("Red", []), ("Ruby", ["Round", "Red"]),
    ("Blue", [])]).toOption.get (by decide +kernel)

def ruby : ClassId :=
  (gems.table.hostAt? 4).get (by decide +kernel)

/-- A class of rubies without a type, made when all questions were answered. -/
def starRuby : ClassId × Hierarchy :=
  (gems.table.classes.create "StarRuby" "user" [ruby]).toOption.get (by decide +kernel)

def gemsLater : Scenario :=
  { gems with table := { gems.table with classes := starRuby.2 } }

def star : Value :=
  .object (.make starRuby.2 0 starRuby.1)

private theorem gems_regular : gems.Regular :=
  ⟨_, .empty false, .of_declareAll (Traversal.eq_ok_get _)⟩

private theorem gems_defines : ∀ id ∈ [(1 : TypeId), 2, 3, 4, 5], gems.table.Defines id := by
  decide +kernel

private theorem star_placed : gems.table.Places gemsLater.table star := by
  refine .inr ⟨4, ruby, (Option.some_get _).symm, ?_⟩
  have all : ∀ id ∈ gems.table.ids, ∀ cls ∈ (gems.table.hostAt? id).toList,
      star.isInstanceOf gemsLater.table.classes cls = gems.table.classes.isSubclass ruby cls := by
    decide +kernel
  intro id cls host
  obtain ⟨_, _, found⟩ := TypeTable.hostAt?_eq_some_iff.mp host
  exact all id (TypeTable.mem_ids_iff.mpr ⟨_, found⟩) cls (by simp [host])

theorem star_ruby_sound :
    (Specializer.ofType 5).classify gems.table 2 = .ok .inapplicable ∧
      (Specializer.ofType 5).isMatch gemsLater.table star = .ok false ∧
      (Specializer.ofType 2).mayOverlap gems.table (.ofType 3) = .ok true ∧
      (Specializer.ofType 3).mayOverlap gems.table (.ofType 2) = .ok true := by
  have used : Scenario.Steps gems gemsLater :=
    .single (.made (by decide +kernel) (Traversal.eq_ok_get _))
  have inapplicable : (Specializer.ofType 5).classify gems.table 2 = .ok .inapplicable :=
    Traversal.toOption_eq_some.mp (by decide +kernel)
  have isRound : gemsLater.table.isInstance star 2 = .ok true :=
    Traversal.toOption_eq_some.mp (by decide +kernel)
  have isRed : gemsLater.table.isInstance star 3 = .ok true :=
    Traversal.toOption_eq_some.mp (by decide +kernel)
  obtain ⟨sound, overlap⟩ := classify_and_mayOverlap_sound gems_regular used (by decide +kernel)
    fun _ => star_placed
  obtain ⟨answer, matched, answered, isMatched, -, unmatched⟩ := sound (.ofType 5) 2
    (gems_defines 5 (by decide)) (gems_defines 2 (by decide)) isRound
  rw [inapplicable] at answered
  rw [isMatched, unmatched (Except.ok.inj answered).symm]
  exact ⟨inapplicable, rfl, overlap (.ofType 2) (.ofType 3) (gems_defines 2 (by decide))
    (gems_defines 3 (by decide)) isRound isRed⟩

end Gems

/-- **A finer static type keeps definite answers**: what is applicable to a type is
applicable to the types below it, and so is what is inapplicable. -/
theorem classify_of_isSubtype {scenario : Scenario} {specializer : Specializer}
    {lower upper : TypeId} (regular : scenario.Regular)
    (isDefined : specializer.Defined scenario.table) (lowerDefined : scenario.table.Defines lower)
    (upperDefined : scenario.table.Defines upper)
    (below : scenario.table.isSubtype lower upper = .ok true) :
    ∃ lowerAnswer upperAnswer, specializer.classify scenario.table lower = .ok lowerAnswer ∧
      specializer.classify scenario.table upper = .ok upperAnswer ∧
      (upperAnswer = .applicable → lowerAnswer = .applicable) ∧
      (upperAnswer = .inapplicable → lowerAnswer = .inapplicable) := by
  have mirrors := regular.aligned.mirrors
  obtain ⟨lowerDef, lowerFound⟩ := lowerDefined
  obtain ⟨upperDef, upperFound⟩ := upperDefined
  rw [TypeTable.isSubtype_eq mirrors lowerFound upperFound] at below
  have implied := Except.ok.inj below
  obtain ⟨lowerAnswer, lowerIs⟩ := Specializer.classify_answers mirrors isDefined lowerFound
  obtain ⟨upperAnswer, upperIs⟩ := Specializer.classify_answers mirrors isDefined upperFound
  refine ⟨lowerAnswer, upperAnswer, lowerIs, upperIs, ?_, ?_⟩
  · rintro rfl
    have applicable := Specializer.applicable_of_implies mirrors isDefined lowerFound upperFound
      implied upperIs
    exact Except.ok.inj (lowerIs.symm.trans applicable)
  · rintro rfl
    have inapplicable := Specializer.inapplicable_of_implies mirrors isDefined lowerFound upperFound
      implied upperIs
    exact Except.ok.inj (lowerIs.symm.trans inapplicable)

namespace Gems

/-- What is no blue thing as a round one is no blue thing as a ruby. -/
theorem ruby_not_blue :
    (Specializer.ofType 5).classify gems.table 2 = .ok .inapplicable ∧
      (Specializer.ofType 5).classify gems.table 4 = .ok .inapplicable := by
  have below : gems.table.isSubtype 4 2 = .ok true :=
    Traversal.toOption_eq_some.mp (by decide +kernel)
  have blue : (Specializer.ofType 5).Defined gems.table := gems_defines 5 (by decide)
  have inapplicable : (Specializer.ofType 5).classify gems.table 2 = .ok .inapplicable :=
    Traversal.toOption_eq_some.mp (by decide +kernel)
  obtain ⟨lowerAnswer, upperAnswer, lowerIs, upperIs, -, kept⟩ := classify_of_isSubtype gems_regular
    blue (gems_defines 4 (by decide)) (gems_defines 2 (by decide)) below
  rw [inapplicable] at upperIs
  rw [lowerIs, kept (Except.ok.inj upperIs).symm]
  exact ⟨inapplicable, rfl⟩

end Gems

end StaticDispatch
