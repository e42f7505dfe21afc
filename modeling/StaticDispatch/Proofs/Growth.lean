import StaticDispatch.Proofs.Agreement
import StaticDispatch.Proofs.TypeTable.Exactness

/-!
Contract: what later types do to answers that were given before.

A table that grows keeps its answers about subtypes. In a closed world a new class may
be below two old ones, so types that were disjoint may stop being so, and what was
inapplicable may become undecided; no other classification changes. An open world has
reckoned with every class that may be made, so there no answer changes, and no call
site is resolved differently.

Owns: answers over a table and over what it grows into.
Does not own: what makes a table grow.
-/

namespace StaticDispatch

open TypeTable (Demand)

namespace TypeTable.Extends

variable {table later : TypeTable} {id first second lower upper : TypeId}
  {firstDef secondDef lowerDef upperDef : TypeDef}

/-! ## Types -/

theorem isSubtype_eq (growth : table.Extends later) (mirrors : table.Mirrors)
    (laterMirrors : later.Mirrors) (lowerFound : table.find? lower = some lowerDef)
    (upperFound : table.find? upper = some upperDef) :
    later.isSubtype lower upper = table.isSubtype lower upper := by
  rw [TypeTable.isSubtype_eq mirrors lowerFound upperFound,
    TypeTable.isSubtype_eq laterMirrors (growth.definitions _ _ lowerFound)
      (growth.definitions _ _ upperFound),
    Demand.implies_eq growth.classes (mirrors.knows_demand lowerFound)]

theorem haveCommonHost (growth : table.Extends later) (mirrors : table.Mirrors)
    {firstCls secondCls : ClassId} (common : table.haveCommonHost firstCls secondCls = true) :
    later.haveCommonHost firstCls secondCls = true := by
  obtain ⟨id, cls, host, belowFirst, belowSecond⟩ := haveCommonHost_iff.mp common
  rw [← growth.classes.linearization_eq (mirrors.knows_of_hostAt? host).1] at belowFirst belowSecond
  exact haveCommonHost_iff.mpr ⟨id, cls, growth.hostAt? host, belowFirst, belowSecond⟩

/-- Classes that are apart later have always been apart. -/
private theorem areApart_of_later (growth : table.Extends later) (mirrors : table.Mirrors)
    {firstCls secondCls : ClassId} (firstKnown : table.classes.Knows firstCls)
    (secondKnown : table.classes.Knows secondCls)
    (apart : later.areApart firstCls secondCls = true) :
    table.areApart firstCls secondCls = true := by
  have sameAttempt : later.classes.canDerive [firstCls, secondCls] =
      table.classes.canDerive [firstCls, secondCls] :=
    growth.classes.canDerive_eq mirrors.wellFormed (by simp [firstKnown, secondKnown])
  simp only [areApart, sameAttempt, growth.openWorld, Bool.and_eq_true] at apart ⊢
  refine ⟨?_, apart.2⟩
  rw [Bool.not_eq_true', Bool.eq_false_iff]
  intro common
  rw [growth.haveCommonHost mirrors common] at apart
  cases apart.1

/-- **Types that are disjoint later have always been disjoint.** -/
theorem excludes_of_later (growth : table.Extends later) (mirrors : table.Mirrors)
    {first second : Demand} (firstKnown : table.classes.Knows first.cls)
    (secondKnown : table.classes.Knows second.cls) (excluded : later.excludes first second = true) :
    table.excludes first second = true := by
  simp only [excludes, Demand.implies_eq growth.classes firstKnown,
    Demand.implies_eq growth.classes secondKnown, Bool.and_eq_true, Bool.or_eq_true] at excluded ⊢
  refine ⟨excluded.1, excluded.2.imp_right ?_⟩
  exact growth.areApart_of_later mirrors firstKnown secondKnown

/-- **In an open world disjoint types stay disjoint**, because a value of both, of
whatever later class, had to be reckoned with before. -/
theorem excludes_eq (growth : table.Extends later) (mirrors : table.Mirrors)
    (laterMirrors : later.Mirrors) (isOpen : table.openWorld = true)
    (firstFound : table.find? first = some firstDef)
    (secondFound : table.find? second = some secondDef) :
    later.excludes (Demand.ofDef firstDef) (Demand.ofDef secondDef) =
      table.excludes (Demand.ofDef firstDef) (Demand.ofDef secondDef) := by
  rw [Bool.eq_iff_iff]
  constructor
  · exact growth.excludes_of_later mirrors (mirrors.knows_demand firstFound)
      (mirrors.knows_demand secondFound)
  · intro excluded
    by_contra together
    obtain ⟨made, value, reckoned, meetsFirst, meetsSecond⟩ := exists_value_of_not_excludes
      laterMirrors (growth.definitions _ _ firstFound) (growth.definitions _ _ secondFound)
      (by simpa using together)
    obtain ⟨wellFormed, laterGrowth⟩ := reckoned.spec laterMirrors
    have foreseen : table.Foresees { table with classes := made } value second := by
      intro closed
      rw [isOpen] at closed
      cases closed
    rw [excludes_eq_false mirrors
      (mirrors.withClasses wellFormed (growth.classes.trans laterGrowth)).2 wellFormed firstFound
      secondFound foreseen meetsFirst meetsSecond] at excluded
    cases excluded

theorem isDisjoint_eq (growth : table.Extends later) (mirrors : table.Mirrors)
    (laterMirrors : later.Mirrors) (isOpen : table.openWorld = true)
    (firstFound : table.find? first = some firstDef)
    (secondFound : table.find? second = some secondDef) :
    later.isDisjoint first second = table.isDisjoint first second := by
  rw [TypeTable.isDisjoint_eq mirrors firstFound secondFound,
    TypeTable.isDisjoint_eq laterMirrors (growth.definitions _ _ firstFound)
      (growth.definitions _ _ secondFound),
    growth.excludes_eq mirrors laterMirrors isOpen firstFound secondFound]

end TypeTable.Extends

/-! ## Specializers -/

namespace Specializer

variable {table later : TypeTable} {specializer : Specializer} {static : TypeId}
  {staticDef : TypeDef}

theorem valueMayMatch_later (growth : table.Extends later) {wanted : Value} {id : TypeId}
    {definition : TypeDef} (known : table.classes.Knows wanted.cls)
    (found : table.find? id = some definition) :
    valueMayMatch later wanted id = valueMayMatch table wanted id := by
  simp only [valueMayMatch, TypeTable.host?, TypeTable.get_of_find? found,
    TypeTable.get_of_find? (growth.definitions _ _ found), Value.isInstanceOf,
    growth.classes.isSubclass_eq known]

theorem label_later (growth : table.Extends later) (isDefined : specializer.Defined table) :
    specializer.label later = specializer.label table := by
  cases specializer with
  | any => rfl
  | exactly wanted => rfl
  | ofType id =>
      obtain ⟨definition, found⟩ := isDefined
      simp only [label, TypeTable.name, TypeTable.get_of_find? found,
        TypeTable.get_of_find? (growth.definitions _ _ found)]

/-- The two tables disagree at most about disjointness, and only if it has ended. -/
theorem classify_later (mirrors : table.Mirrors) (laterMirrors : later.Mirrors)
    (growth : table.Extends later) (isDefined : specializer.Defined table)
    (staticFound : table.find? static = some staticDef) :
    specializer.classify later static = specializer.classify table static ∨
      table.openWorld = false ∧ specializer.classify table static = .ok .inapplicable ∧
        specializer.classify later static = .ok .ambiguous := by
  have staticLater := growth.definitions _ _ staticFound
  cases specializer with
  | any => exact .inl rfl
  | exactly wanted =>
      left
      rw [classify_exactly staticFound, classify_exactly staticLater]
  | ofType id =>
      obtain ⟨definition, found⟩ := isDefined
      rw [classify_ofType mirrors staticFound found,
        classify_ofType laterMirrors staticLater (growth.definitions _ _ found),
        Demand.implies_eq growth.classes (mirrors.knows_demand staticFound)]
      by_cases isTop : staticDef.isTop = true
      · simp [isTop]
      by_cases implied : (Demand.ofDef staticDef).implies table.classes
          (Demand.ofDef definition) = true
      · simp [isTop, implied]
      -- Subtypes are as before, so the tables can differ only in what they hold for disjoint.
      by_cases excluded : later.excludes (Demand.ofDef staticDef) (Demand.ofDef definition) = true
      · have before := growth.excludes_of_later mirrors (mirrors.knows_demand staticFound)
          (mirrors.knows_demand found) excluded
        simp [excluded, before]
      by_cases before : table.excludes (Demand.ofDef staticDef) (Demand.ofDef definition) = true
      · right
        refine ⟨?_, by simp [isTop, implied, before], by simp [isTop, implied, excluded]⟩
        rw [Bool.eq_false_iff]
        intro isOpen
        rw [growth.excludes_eq mirrors laterMirrors isOpen staticFound found] at excluded
        exact excluded before
      · simp [excluded, before]

end Specializer

/-- **An open world answers alike before and after it grows.** -/
theorem TypeTable.Extends.answersAlike {table later : TypeTable} (growth : table.Extends later)
    (mirrors : table.Mirrors) (laterMirrors : later.Mirrors) (isOpen : table.openWorld = true) :
    AnswersAlike (·.Defined table) table.Defines table later where
  toComparesAlike := by
    refine .of_types ?_ ?_ ?_
    · rintro lower upper ⟨lowerDef, lowerFound⟩ ⟨upperDef, upperFound⟩
      exact growth.isSubtype_eq mirrors laterMirrors lowerFound upperFound
    · rintro first second ⟨firstDef, firstFound⟩ ⟨secondDef, secondFound⟩
      exact growth.isDisjoint_eq mirrors laterMirrors isOpen firstFound secondFound
    · rintro wanted id known ⟨definition, found⟩
      exact Specializer.valueMayMatch_later growth known found
  label := Specializer.label_later growth
  isTop := by
    rintro static ⟨staticDef, staticFound⟩
    simp only [TypeTable.isTop, TypeTable.get_of_find? staticFound,
      TypeTable.get_of_find? (growth.definitions _ _ staticFound)]
  classify := by
    rintro specializer static isDefined ⟨staticDef, staticFound⟩
    rcases Specializer.classify_later mirrors laterMirrors growth isDefined staticFound with
      same | ⟨closed, -⟩
    · exact same
    · rw [isOpen] at closed
      cases closed

/-- **More types only weaken the answers of a closed world and leave those of an open one.**
After any further steps an applicable or undecided specializer is still so, and an
inapplicable one may at most become undecided. In an open world nothing changes: no
classification, no overlap and no resolution. -/
theorem growth_keeps_answers {scenario later : Scenario} (regular : scenario.Regular)
    (used : Scenario.Steps scenario later) :
    (∀ (specializer : Specializer) (static : TypeId), specializer.Defined scenario.table →
      scenario.table.Defines static →
      ∃ before after, specializer.classify scenario.table static = .ok before ∧
        specializer.classify later.table static = .ok after ∧
        (before ≠ .inapplicable → after = before) ∧
        (before = .inapplicable → after = .inapplicable ∨ after = .ambiguous)) ∧
    (scenario.table.openWorld = true →
      (∀ (specializer : Specializer) (static : TypeId), specializer.Defined scenario.table →
        scenario.table.Defines static →
        specializer.classify later.table static = specializer.classify scenario.table static) ∧
      (∀ first second : Specializer, first.Defined scenario.table →
        second.Defined scenario.table →
        first.mayOverlap later.table second = first.mayOverlap scenario.table second) ∧
      ∀ (registry : Registry) (config : Config) (cache : Precedence.Cache) (name : String)
        (types : List TypeId) (checks : Option Bool),
        registry.Speaks (·.Defined scenario.table) →
        (∀ type ∈ types, scenario.table.Defines type) →
        Resolution.resolve registry later.table config cache name types checks =
          Resolution.resolve registry scenario.table config cache name types checks) := by
  have mirrors := regular.aligned.mirrors
  obtain ⟨laterAligned, growth⟩ := used.spec regular.aligned
  have laterMirrors := laterAligned.mirrors
  constructor
  · intro specializer static isDefined ⟨staticDef, staticFound⟩
    obtain ⟨before, beforeIs⟩ := Specializer.classify_answers mirrors isDefined staticFound
    rcases Specializer.classify_later mirrors laterMirrors growth isDefined staticFound with
      same | ⟨-, inapplicable, ambiguous⟩
    · refine ⟨before, before, beforeIs, same.trans beforeIs, fun _ => rfl, ?_⟩
      rintro rfl
      exact .inl rfl
    · exact ⟨.inapplicable, .ambiguous, inapplicable, ambiguous, fun kept => absurd rfl kept,
        fun _ => .inr rfl⟩
  · intro isOpen
    have alike := growth.answersAlike mirrors laterMirrors isOpen
    refine ⟨fun _ _ => alike.classify, fun _ _ => alike.mayOverlap, ?_⟩
    intro registry config cache name types checks speaks areDefined
    exact alike.resolve_eq speaks areDefined config cache name checks

namespace Painting

/-- Shapes, circles and colours, in a closed or an open world. -/
def palette (openWorld : Bool) : Scenario :=
  ((Scenario.empty openWorld).declareAll [("Shape", []), ("Circle", ["Shape"]),
    ("Color", [])]).toOption.get (by cases openWorld <;> decide +kernel)

/-- Later there are circles that are colours. -/
def painted (openWorld : Bool) : Scenario :=
  ((palette openWorld).declareAll [("Painted", ["Circle", "Color"])]).toOption.get
    (by cases openWorld <;> decide +kernel)

def paintRegistry : Registry :=
  Registry.registerAll {} "paint" [([.ofType 2, .ofType 4], ⟨"shape", false⟩),
    ([.ofType 3, .any], ⟨"circle", false⟩), ([.any, .exactly (.int 5)], ⟨"five", false⟩)]

theorem painted_keeps_answers :
    (∃ after, (Specializer.ofType 4).classify (palette false).table 3 = .ok .inapplicable ∧
      (Specializer.ofType 4).classify (painted false).table 3 = .ok after ∧
      (after = .inapplicable ∨ after = .ambiguous)) ∧
    Resolution.resolve paintRegistry (painted true).table { enableAll := true } {} "paint" [3, 4]
      none = Resolution.resolve paintRegistry (palette true).table { enableAll := true } {} "paint"
        [3, 4] none := by
  have regular : ∀ openWorld, (palette openWorld).Regular := fun openWorld =>
    ⟨_, .empty openWorld, .of_declareAll (Traversal.eq_ok_get _)⟩
  have used : ∀ openWorld, Scenario.Steps (palette openWorld) (painted openWorld) := fun _ =>
    .of_declareAll (Traversal.eq_ok_get _)
  have inapplicable : (Specializer.ofType 4).classify (palette false).table 3 =
      .ok .inapplicable := Traversal.toOption_eq_some.mp (by decide +kernel)
  obtain ⟨before, after, beforeIs, afterIs, -, weakened⟩ :=
    (growth_keeps_answers (regular false) (used false)).1 (.ofType 4) 3 (by decide +kernel)
      (by decide +kernel)
  rw [inapplicable] at beforeIs
  obtain ⟨-, -, resolutions⟩ :=
    (growth_keeps_answers (regular true) (used true)).2 (by decide +kernel)
  exact ⟨⟨after, inapplicable, afterIs, weakened (Except.ok.inj beforeIs).symm⟩,
    resolutions paintRegistry _ _ _ [3, 4] _ (by decide +kernel) (by decide +kernel)⟩

-- In the closed world the answer does change.
example : ((Specializer.ofType 4).classify (painted false).table 3).toOption = some .ambiguous := by
  decide +kernel

end Painting

end StaticDispatch
