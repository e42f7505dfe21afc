import StaticDispatch.Proofs.Assembly

/-!
Contract: disjointness says exactly which values there may be.

A closed world reckons with the values of classes that have a type, an open world
with those of every class that may ever be made. Two types are disjoint exactly if
no value that the table reckons with is of both. For class types of an open world
this means that no class is or will be below both host classes.

Owns: the values that a table reckons with, and the exactness of disjointness.
Does not own: specializers, which ask for disjointness.
-/

namespace StaticDispatch

namespace TypeTable

variable {table : TypeTable} {later : Hierarchy} {id first second : TypeId} {value : Value}
  {definition firstDef secondDef : TypeDef}

/-! ## Values that a table reckons with -/

/-- A value that a table reckons with: in a closed world its class has a type, in an
open world it is any class that may be made. -/
def ReckonsWith (table : TypeTable) (later : Hierarchy) (value : Value) : Prop :=
  if table.openWorld then
    table.classes.MayBecome later ∧ later.Knows value.cls
  else
    later = table.classes ∧ ∃ id, table.IsTypeOf value.cls id

theorem IsTypeOf.knows {cls : ClassId} (isType : table.IsTypeOf cls id) (mirrors : table.Mirrors) :
    table.classes.Knows cls := by
  obtain ⟨definition, found⟩ := isType.defined
  have known := mirrors.knows_demand found
  rwa [isType.demand found] at known

/-- Whatever the world, a table reckons with the values of classes that have a type. -/
theorem IsTypeOf.reckonsWith (isType : table.IsTypeOf value.cls id) (mirrors : table.Mirrors) :
    table.ReckonsWith table.classes value := by
  unfold ReckonsWith
  split
  · exact ⟨.refl, isType.knows mirrors⟩
  · exact ⟨rfl, id, isType⟩

theorem ReckonsWith.spec (reckoned : table.ReckonsWith later value) (mirrors : table.Mirrors) :
    later.WellFormed ∧ table.classes.Extends later := by
  unfold ReckonsWith at reckoned
  split at reckoned
  · exact reckoned.1.spec mirrors.wellFormed
  · rw [reckoned.1]
    exact ⟨mirrors.wellFormed, .refl _⟩

theorem ReckonsWith.foresees (reckoned : table.ReckonsWith later value) (mirrors : table.Mirrors)
    (id : TypeId) : table.Foresees { table with classes := later } value id := by
  intro closed other otherCls cls otherHost host otherAbove above
  rw [ReckonsWith, closed, if_neg (by decide)] at reckoned
  obtain ⟨rfl, own, isType⟩ := reckoned
  -- Below a registered class there is no root, so the type of the class is no top type.
  have notRoot : value.cls ≠ Hierarchy.objectClass := by
    intro isRoot
    rw [isRoot] at above
    exact (mirrors.knows_of_hostAt? host).2 (mirrors.wellFormed.eq_root_of_mem above)
  rw [IsTypeOf, if_neg notRoot] at isType
  exact haveCommonHost_iff.mpr ⟨own, value.cls, isType, otherAbove, above⟩

/-! ## Exactness -/

private theorem Demand.isMet_iff_of_unpinned {demand : Demand} (unpinned : demand.pinned = none) :
    demand.isMet later value = true ↔ demand.cls ∈ later.linearization value.cls := by
  simp [isMet, unpinned, Value.isInstanceOf, Hierarchy.isSubclass_iff]

/-- Every type has a value that the table reckons with. -/
theorem exists_value (mirrors : table.Mirrors) (found : table.find? id = some definition) :
    ∃ value, table.ReckonsWith table.classes value ∧
      (Demand.ofDef definition).isMet table.classes value = true := by
  have known := mirrors.knows_demand found
  have reflected := mirrors.reflects id definition found
  cases definition with
  | top =>
      have isType : table.IsTypeOf Hierarchy.objectClass id := by
        rw [IsTypeOf, if_pos rfl]
        exact found
      refine ⟨.object (.make table.classes 0 Hierarchy.objectClass), isType.reckonsWith mirrors, ?_⟩
      exact (Demand.isMet_iff_of_unpinned rfl).mpr (mirrors.wellFormed.self_mem known)
  | classType name supertypes host =>
      obtain ⟨cls, rfl, stands⟩ := reflected
      have isType : table.IsTypeOf cls id := by
        rw [IsTypeOf, if_neg stands.proper]
        exact hostAt?_eq_some_iff.mpr ⟨name, supertypes, found⟩
      refine ⟨.object (.make table.classes 0 cls), isType.reckonsWith mirrors, ?_⟩
      exact (Demand.isMet_iff_of_unpinned rfl).mpr (mirrors.wellFormed.self_mem known)
  | literalType pinned base =>
      obtain ⟨-, -, baseIs⟩ := reflected
      refine ⟨pinned, baseIs.reckonsWith mirrors, ?_⟩
      have below := Hierarchy.isSubclass_iff.mpr (mirrors.wellFormed.self_mem known)
      rw [Demand.ofDef_literalType] at below ⊢
      simp [Demand.isMet, Value.isInstanceOf, Value.eql_self, below]

/-- Unrelated classes that are not apart share a value. -/
private theorem exists_value_of_classes (mirrors : table.Mirrors) {firstCls secondCls : ClassId}
    (firstKnown : table.classes.Knows firstCls) (secondKnown : table.classes.Knows secondCls)
    (together : table.areApart firstCls secondCls = false) :
    ∃ later value, table.ReckonsWith later value ∧
      firstCls ∈ later.linearization value.cls ∧ secondCls ∈ later.linearization value.cls := by
  cases common : table.haveCommonHost firstCls secondCls with
  | true =>
      obtain ⟨own, cls, host, belowFirst, belowSecond⟩ := haveCommonHost_iff.mp common
      have isType : table.IsTypeOf cls own := by
        rw [IsTypeOf, if_neg (mirrors.knows_of_hostAt? host).2]
        exact host
      exact ⟨table.classes, .object (.make table.classes 0 cls), isType.reckonsWith mirrors,
        belowFirst, belowSecond⟩
  | false =>
      -- Then only an open world has to reckon with a class below both.
      have attempt : table.openWorld = true ∧
          table.classes.canDerive [firstCls, secondCls] = true := by
        simpa [areApart, common] using together
      obtain ⟨made, cls, run, belowFirst, belowSecond⟩ :=
        Hierarchy.exists_common_subclass mirrors.wellFormed firstKnown secondKnown attempt.2
      obtain ⟨found, present, -⟩ := Hierarchy.find?_of_mem belowFirst
      refine ⟨made, .object (.make made 0 cls), ?_, belowFirst, belowSecond⟩
      rw [ReckonsWith, if_pos attempt.1]
      exact ⟨run, Hierarchy.knows_of_find? present⟩

theorem exists_value_of_not_excludes (mirrors : table.Mirrors)
    (firstFound : table.find? first = some firstDef)
    (secondFound : table.find? second = some secondDef)
    (together : table.excludes (Demand.ofDef firstDef) (Demand.ofDef secondDef) = false) :
    ∃ later value, table.ReckonsWith later value ∧
      (Demand.ofDef firstDef).isMet later value = true ∧
      (Demand.ofDef secondDef).isMet later value = true := by
  by_cases below : (Demand.ofDef firstDef).implies table.classes (Demand.ofDef secondDef) = true
  · obtain ⟨value, reckoned, met⟩ := exists_value mirrors firstFound
    exact ⟨_, value, reckoned, met, Demand.isMet_of_implies mirrors.wellFormed below met⟩
  by_cases above : (Demand.ofDef secondDef).implies table.classes (Demand.ofDef firstDef) = true
  · obtain ⟨value, reckoned, met⟩ := exists_value mirrors secondFound
    exact ⟨_, value, reckoned, Demand.isMet_of_implies mirrors.wellFormed above met, met⟩
  -- Neither demand implies the other, so both are for a class alone.
  have classes : ((Demand.ofDef firstDef).pinned = none ∧ (Demand.ofDef secondDef).pinned = none) ∧
      table.areApart (Demand.ofDef firstDef).cls (Demand.ofDef secondDef).cls = false := by
    simpa [excludes, below, above, Bool.or_eq_false_iff] using together
  obtain ⟨⟨firstUnpinned, secondUnpinned⟩, notApart⟩ := classes
  obtain ⟨later, value, reckoned, belowFirst, belowSecond⟩ := exists_value_of_classes mirrors
    (mirrors.knows_demand firstFound) (mirrors.knows_demand secondFound) notApart
  exact ⟨later, value, reckoned, (Demand.isMet_iff_of_unpinned firstUnpinned).mpr belowFirst,
    (Demand.isMet_iff_of_unpinned secondUnpinned).mpr belowSecond⟩

/-- **Disjointness is exact**: types are disjoint exactly if no value that the table
reckons with is of both. -/
theorem excludes_iff (mirrors : table.Mirrors) (firstFound : table.find? first = some firstDef)
    (secondFound : table.find? second = some secondDef) :
    table.excludes (Demand.ofDef firstDef) (Demand.ofDef secondDef) = true ↔
      ∀ later value, table.ReckonsWith later value →
        ¬ ((Demand.ofDef firstDef).isMet later value = true ∧
          (Demand.ofDef secondDef).isMet later value = true) := by
  constructor
  · rintro excluded later value reckoned ⟨meetsFirst, meetsSecond⟩
    obtain ⟨wellFormed, growth⟩ := reckoned.spec mirrors
    rw [excludes_eq_false mirrors (mirrors.withClasses wellFormed growth).2 wellFormed firstFound
      secondFound (reckoned.foresees mirrors second) meetsFirst meetsSecond] at excluded
    cases excluded
  · intro noValue
    by_contra together
    obtain ⟨later, value, reckoned, met⟩ := exists_value_of_not_excludes mirrors firstFound
      secondFound (by simpa using together)
    exact noValue later value reckoned met

/-- In an open world classes are disjoint exactly if none is below both, now or ever. -/
private theorem excludes_classes_iff (mirrors : table.Mirrors) (isOpen : table.openWorld = true)
    {firstCls secondCls : ClassId} (firstHost : table.hostAt? first = some firstCls)
    (secondHost : table.hostAt? second = some secondCls) :
    table.excludes ⟨firstCls, none⟩ ⟨secondCls, none⟩ = true ↔
      ∀ later, table.classes.MayBecome later → ∀ cls,
        ¬ (later.isSubclass cls firstCls = true ∧ later.isSubclass cls secondCls = true) := by
  obtain ⟨_, _, firstFound⟩ := hostAt?_eq_some_iff.mp firstHost
  obtain ⟨_, _, secondFound⟩ := hostAt?_eq_some_iff.mp secondHost
  rw [← Demand.ofDef_classType, ← Demand.ofDef_classType, excludes_iff mirrors firstFound
    secondFound]
  simp only [Demand.ofDef_classType, Demand.isMet_iff_of_unpinned, Hierarchy.isSubclass_iff,
    ReckonsWith, isOpen, if_true]
  constructor
  · rintro noValue later run cls ⟨belowFirst, belowSecond⟩
    obtain ⟨_, present, -⟩ := Hierarchy.find?_of_mem belowFirst
    exact noValue later (.object (.make later 0 cls)) ⟨run, Hierarchy.knows_of_find? present⟩
      ⟨belowFirst, belowSecond⟩
  · intro noClass later value reckoned
    exact noClass later reckoned.1 value.cls

/-- Literal types may stand over any base, so of class types the table without them is
asked. -/
theorem MirrorsClasses.isDisjoint_eq (classes : table.MirrorsClasses) {firstCls secondCls : ClassId}
    (firstHost : table.hostAt? first = some firstCls)
    (secondHost : table.hostAt? second = some secondCls) :
    table.isDisjoint first second =
      .ok (table.blanked.excludes ⟨firstCls, none⟩ ⟨secondCls, none⟩) := by
  obtain ⟨_, _, firstFound⟩ :=
    hostAt?_eq_some_iff.mp ((hostAt?_blanked table first).trans firstHost)
  obtain ⟨_, _, secondFound⟩ :=
    hostAt?_eq_some_iff.mp ((hostAt?_blanked table second).trans secondHost)
  rw [← isDisjoint_blanked classes firstHost secondHost,
    TypeTable.isDisjoint_eq classes.mirrors firstFound secondFound, Demand.ofDef_classType,
    Demand.ofDef_classType]

end TypeTable

/-- **Disjointness of class types is exact in an open world**: it says that no class,
of the present ones and of all that may be made, is below both host classes. Hence the
order of the two types does not matter. -/
theorem open_isDisjoint_iff_no_common_subclass {scenario : Scenario} {first second : TypeId}
    {firstCls secondCls : ClassId} (assembled : scenario.Assembled)
    (isOpen : scenario.table.openWorld = true)
    (firstHost : scenario.table.hostAt? first = some firstCls)
    (secondHost : scenario.table.hostAt? second = some secondCls) :
    ∃ answer, scenario.table.isDisjoint first second = .ok answer ∧
      scenario.table.isDisjoint second first = .ok answer ∧
      (answer = true ↔ ∀ later, scenario.table.classes.MayBecome later → ∀ cls,
        ¬ (later.isSubclass cls firstCls = true ∧ later.isSubclass cls secondCls = true)) := by
  have classes := (Scenario.ClassesAligned.of_assembled assembled).mirrorsClasses
  have firstBlank := (TypeTable.hostAt?_blanked _ first).trans firstHost
  have secondBlank := (TypeTable.hostAt?_blanked _ second).trans secondHost
  refine ⟨_, classes.isDisjoint_eq firstHost secondHost, ?_,
    TypeTable.excludes_classes_iff classes.mirrors isOpen firstBlank secondBlank⟩
  rw [classes.isDisjoint_eq secondHost firstHost, TypeTable.excludes_comm classes.mirrors.wellFormed
    (classes.mirrors.knows_of_hostAt? secondBlank).1
    (classes.mirrors.knows_of_hostAt? firstBlank).1]

namespace Crossing

/-- Two classes below the same two others, which they name in opposite orders. -/
def crossed : Scenario :=
  ((Scenario.empty true).declareAll [("Left", []), ("Right", []), ("Along", ["Left", "Right"]),
    ("Across", ["Right", "Left"])]).toOption.get (by decide +kernel)

/-- The same with a number that is said to be of one of the classes. -/
def crossing : Scenario :=
  { crossed with table := (crossed.table.newLiteral (.int 5) (some 4)).2 }

def along : ClassId :=
  (crossing.table.hostAt? 4).get (by decide +kernel)

def across : ClassId :=
  (crossing.table.hostAt? 5).get (by decide +kernel)

theorem along_across_disjoint :
    crossing.table.isDisjoint 4 5 = .ok true ∧ crossing.table.isDisjoint 5 4 = .ok true ∧
      ∀ later, crossing.table.classes.MayBecome later → ∀ cls,
        ¬ (later.isSubclass cls along = true ∧ later.isSubclass cls across = true) := by
  have assembled : crossing.Assembled :=
    .based (.declareAll (.empty true) (Traversal.eq_ok_get _)) (.int 5) 4
  have alongHost : crossing.table.hostAt? 4 = some along := (Option.some_get _).symm
  have acrossHost : crossing.table.hostAt? 5 = some across := (Option.some_get _).symm
  have disjoint : crossing.table.isDisjoint 4 5 = .ok true :=
    Traversal.toOption_eq_some.mp (by decide +kernel)
  obtain ⟨answer, run, swapped, exactly⟩ := open_isDisjoint_iff_no_common_subclass assembled
    (by decide +kernel) alongHost acrossHost
  obtain rfl : answer = true := by
    rw [disjoint] at run
    cases run
    rfl
  exact ⟨disjoint, swapped, exactly.mp rfl⟩

end Crossing

end StaticDispatch
