import StaticDispatch.Proofs.Hierarchy.CommonSubclass
import StaticDispatch.Proofs.TypeTable.Subtype
import StaticDispatch.TypeTable.Disjoint

/-!
Contract: membership and disjointness, answered for mirroring tables.

A value is of a type exactly if it meets the type's demand. Disjointness always
has an answer that does not depend on the order of the two types. In an open
world the answer holds for every class that may ever be made; in a closed world
it holds for a value whose class combines no two registered classes that no
registered class combines.

Owns: the answers to both questions, and what disjointness says about values.
Does not own: specializers, which ask these questions.
-/

namespace StaticDispatch.TypeTable

variable {table later : TypeTable} {id first second : TypeId} {value : Value}

/-! ## Demands and values -/

theorem Demand.isMet_of_implies {hierarchy : Hierarchy} (wellFormed : hierarchy.WellFormed)
    {lower upper : Demand} (implied : lower.implies hierarchy upper = true)
    (met : lower.isMet hierarchy value = true) : upper.isMet hierarchy value = true := by
  simp only [implies, isMet, Bool.and_eq_true, Value.isInstanceOf] at implied met ⊢
  refine ⟨?_, ?_⟩
  · rw [Hierarchy.isSubclass_iff] at implied met ⊢
    exact wellFormed.mem_trans met.1 implied.1
  · cases upperPinned : upper.pinned with
    | none => rfl
    | some wanted =>
        cases lowerPinned : lower.pinned with
        | none => simp [upperPinned, lowerPinned] at implied
        | some pinned =>
            simp only [upperPinned, lowerPinned, Option.all_some, Option.any_some] at implied met ⊢
            exact Value.eql_trans met.2 implied.2

/-- A demand between known classes means the same in a later hierarchy. -/
theorem Demand.implies_eq {hierarchy grown : Hierarchy} (growth : hierarchy.Extends grown)
    {lower : Demand} (known : hierarchy.Knows lower.cls) (upper : Demand) :
    lower.implies grown upper = lower.implies hierarchy upper := by
  rw [implies, implies, growth.isSubclass_eq known]

/-- A value of a known class is of a type exactly if it meets the demand. -/
theorem isInstance_eq (mirrors : table.Mirrors) (known : table.classes.Knows value.cls)
    {definition : TypeDef} (found : table.find? id = some definition) :
    table.isInstance value id = .ok ((Demand.ofDef definition).isMet table.classes value) := by
  unfold isInstance
  rw [get_of_find? found]
  cases definition with
  | top =>
      have rootAbove := Hierarchy.isSubclass_iff.mpr (mirrors.wellFormed.root_mem known)
      simp [Demand.isMet, Value.isInstanceOf, rootAbove]
  | classType name supertypes host =>
      obtain ⟨cls, rfl, -⟩ := mirrors.standsFor found
      simp [Demand.isMet]
  | literalType pinned base =>
      have sameClass : value.eql pinned = true →
          value.isInstanceOf table.classes pinned.cls = true := fun equal => by
        rw [← Value.cls_eq_of_eql equal, Value.isInstanceOf]
        exact Hierarchy.isSubclass_iff.mpr (mirrors.wellFormed.self_mem known)
      cases equal : value.eql pinned with
      | true => simp [Demand.isMet, equal, sameClass equal]
      | false => simp [Demand.isMet, equal]

/-! ## Disjointness -/

def haveCommonHost (table : TypeTable) (first second : ClassId) : Bool :=
  table.ids.any fun id => (table.hostAt? id).any fun cls =>
    table.classes.isSubclass cls first && table.classes.isSubclass cls second

/-- Whether two unrelated classes cannot share an instance as far as the table
knows. -/
def areApart (table : TypeTable) (first second : ClassId) : Bool :=
  !table.haveCommonHost first second &&
    (!table.openWorld || !table.classes.canDerive [first, second])

/-- Whether two demands exclude each other as far as the table knows. -/
def excludes (table : TypeTable) (first second : Demand) : Bool :=
  !first.implies table.classes second && !second.implies table.classes first &&
    (first.pinned.isSome || second.pinned.isSome || table.areApart first.cls second.cls)

theorem haveCommonHost_iff {firstCls secondCls : ClassId} :
    table.haveCommonHost firstCls secondCls = true ↔
      ∃ id cls, table.hostAt? id = some cls ∧ firstCls ∈ table.classes.linearization cls ∧
        secondCls ∈ table.classes.linearization cls := by
  simp only [haveCommonHost, List.any_eq_true, Option.any_eq_true, Bool.and_eq_true,
    Hierarchy.isSubclass_iff]
  constructor
  · rintro ⟨id, -, cls, host, below⟩
    exact ⟨id, cls, host, below⟩
  · rintro ⟨id, cls, host, below⟩
    obtain ⟨_, _, found⟩ := hostAt?_eq_some_iff.mp host
    exact ⟨id, mem_ids_iff.mpr ⟨_, found⟩, cls, host, below⟩

private theorem haveCommonClass_eq (mirrors : table.Mirrors) {firstCls secondCls : ClassId}
    (firstHost : table.hostAt? first = some firstCls)
    (secondHost : table.hostAt? second = some secondCls) :
    table.haveCommonClass first second = .ok (table.haveCommonHost firstCls secondCls) := by
  obtain ⟨_, _, firstFound⟩ := hostAt?_eq_some_iff.mp firstHost
  obtain ⟨_, _, secondFound⟩ := hostAt?_eq_some_iff.mp secondHost
  apply Traversal.anyM_ok
  intro id inside
  obtain ⟨definition, found⟩ := mem_ids_iff.mp inside
  have reflected := mirrors.reflects id definition found
  rw [get_of_find? found, isSubtype_eq mirrors found firstFound,
    isSubtype_eq mirrors found secondFound]
  cases definition with
  | top => simp [hostAt?, found, TypeDef.host?, TypeDef.isClass]
  | literalType value base => simp [hostAt?, found, TypeDef.host?, TypeDef.isClass]
  | classType name supertypes host =>
      obtain ⟨cls, rfl, -⟩ := reflected
      cases below : table.classes.isSubclass cls firstCls with
      | true => simp [hostAt?, found, TypeDef.host?, TypeDef.isClass, Demand.implies, below]
      | false => simp [hostAt?, found, TypeDef.host?, TypeDef.isClass, Demand.implies, below]

theorem IsTypeOf.demand {cls : ClassId} {definition : TypeDef} (isType : table.IsTypeOf cls id)
    (found : table.find? id = some definition) : Demand.ofDef definition = ⟨cls, none⟩ := by
  unfold IsTypeOf at isType
  split at isType
  · rename_i isRoot
    rw [found] at isType
    cases isType
    rw [Demand.ofDef_top, isRoot]
  · exact demand_of_hostAt? found isType

/-- A pinned value lies outside a class type exactly if it is no instance. -/
theorem isOutside_eq (mirrors : table.Mirrors) {base : TypeId} {cls : ClassId}
    (literal : table.find? first = some (.literalType value base))
    (host : table.hostAt? second = some cls) :
    table.isOutside value base second = .ok (!table.classes.isSubclass value.cls cls) := by
  obtain ⟨-, -, baseIs⟩ := mirrors.reflects first _ literal
  obtain ⟨baseDef, baseFound⟩ := baseIs.defined
  obtain ⟨name, supertypes, found⟩ := hostAt?_eq_some_iff.mp host
  unfold isOutside
  rw [isSubtype_eq mirrors baseFound found, baseIs.demand baseFound, host?, get_of_find? found]
  cases below : table.classes.isSubclass value.cls cls with
  | true => simp [Demand.implies, below]
  | false => simp [Demand.implies, below, Except.map, TypeDef.host?, Value.isInstanceOf]

private theorem Demand.implies_root {hierarchy : Hierarchy} (wellFormed : hierarchy.WellFormed)
    {demand : Demand} (known : hierarchy.Knows demand.cls) :
    demand.implies hierarchy ⟨Hierarchy.objectClass, none⟩ = true := by
  have rootAbove := Hierarchy.isSubclass_iff.mpr (wellFormed.root_mem known)
  simp [implies, rootAbove]

/-- Equal values are pinned by demands that imply each other. -/
private theorem Demand.implies_pinned {hierarchy : Hierarchy} (wellFormed : hierarchy.WellFormed)
    {own other : Value} (known : hierarchy.Knows own.cls) :
    Demand.implies hierarchy ⟨own.cls, some own⟩ ⟨other.cls, some other⟩ = own.eql other := by
  cases equal : own.eql other with
  | false => simp [implies, equal]
  | true =>
      have below := Hierarchy.isSubclass_iff.mpr (wellFormed.self_mem known)
      simp [implies, equal, ← Value.cls_eq_of_eql equal, below]

/-- **Disjointness always has an answer**: whether the demands exclude each other. -/
theorem isDisjoint_eq (mirrors : table.Mirrors) {firstDef secondDef : TypeDef}
    (firstFound : table.find? first = some firstDef)
    (secondFound : table.find? second = some secondDef) :
    table.isDisjoint first second =
      .ok (table.excludes (Demand.ofDef firstDef) (Demand.ofDef secondDef)) := by
  have firstKnown := mirrors.knows_demand firstFound
  have secondKnown := mirrors.knows_demand secondFound
  unfold isDisjoint excludes
  rw [get_of_find? firstFound, get_of_find? secondFound,
    isSubtype_eq mirrors firstFound secondFound, isSubtype_eq mirrors secondFound firstFound]
  by_cases firstTop : firstDef = .top
  · subst firstTop
    simp [TypeDef.isTop, Demand.implies_root mirrors.wellFormed secondKnown]
  by_cases secondTop : secondDef = .top
  · subst secondTop
    simp [TypeDef.isTop, Demand.implies_root mirrors.wellFormed firstKnown]
  cases below : (Demand.ofDef firstDef).implies table.classes (Demand.ofDef secondDef) with
  | true => simp
  | false =>
      cases above : (Demand.ofDef secondDef).implies table.classes (Demand.ofDef firstDef) with
      | true => simp
      | false =>
          cases firstDef with
          | top => exact absurd rfl firstTop
          | literalType pinned base =>
              cases secondDef with
              | top => exact absurd rfl secondTop
              | literalType other otherBase =>
                  have different : pinned.eql other = false := by
                    rw [← below]
                    exact (Demand.implies_pinned mirrors.wellFormed firstKnown).symm
                  simp [TypeDef.isTop, different]
              | classType name supertypes host =>
                  obtain ⟨cls, rfl, -⟩ := mirrors.standsFor secondFound
                  have host := hostAt?_eq_some_iff.mpr ⟨name, supertypes, secondFound⟩
                  have outside : table.classes.isSubclass pinned.cls cls = false := by
                    simpa [Demand.implies] using below
                  simp [TypeDef.isTop, isOutside_eq mirrors firstFound host, outside]
          | classType name supertypes host =>
              obtain ⟨cls, rfl, -⟩ := mirrors.standsFor firstFound
              have host := hostAt?_eq_some_iff.mpr ⟨name, supertypes, firstFound⟩
              cases secondDef with
              | top => exact absurd rfl secondTop
              | literalType pinned base =>
                  have outside : table.classes.isSubclass pinned.cls cls = false := by
                    simpa [Demand.implies] using above
                  simp [TypeDef.isTop, isOutside_eq mirrors secondFound host, outside]
              | classType otherName otherSupertypes otherHost =>
                  obtain ⟨otherCls, rfl, -⟩ := mirrors.standsFor secondFound
                  have otherHost :=
                    hostAt?_eq_some_iff.mpr ⟨otherName, otherSupertypes, secondFound⟩
                  cases common : table.haveCommonHost cls otherCls <;>
                    cases isOpen : table.openWorld <;>
                      simp [TypeDef.isTop, TypeDef.host?, noCommonSubclass, areApart, common,
                        isOpen, haveCommonClass_eq mirrors host otherHost]

private theorem areApart_comm (wellFormed : table.classes.WellFormed) {firstCls secondCls : ClassId}
    (firstKnown : table.classes.Knows firstCls) (secondKnown : table.classes.Knows secondCls)
    (notBelow : table.classes.isSubclass firstCls secondCls = false)
    (notAbove : table.classes.isSubclass secondCls firstCls = false) :
    table.areApart firstCls secondCls = table.areApart secondCls firstCls := by
  have common :
      table.haveCommonHost firstCls secondCls = table.haveCommonHost secondCls firstCls := by
    rw [Bool.eq_iff_iff, haveCommonHost_iff, haveCommonHost_iff]
    simp only [and_comm]
  have below : secondCls ∉ table.classes.linearization firstCls := fun inside => by
    rw [Hierarchy.isSubclass_iff.mpr inside] at notBelow
    cases notBelow
  have above : firstCls ∉ table.classes.linearization secondCls := fun inside => by
    rw [Hierarchy.isSubclass_iff.mpr inside] at notAbove
    cases notAbove
  rw [areApart, areApart, common,
    Hierarchy.canDerive_swap wellFormed firstKnown secondKnown below above]

/-- The order of two types does not matter to their disjointness. -/
theorem excludes_comm (wellFormed : table.classes.WellFormed) {firstDemand secondDemand : Demand}
    (firstKnown : table.classes.Knows firstDemand.cls)
    (secondKnown : table.classes.Knows secondDemand.cls) :
    table.excludes firstDemand secondDemand = table.excludes secondDemand firstDemand := by
  unfold excludes
  cases below : firstDemand.implies table.classes secondDemand with
  | true => simp
  | false =>
      cases above : secondDemand.implies table.classes firstDemand with
      | true => simp
      | false =>
          cases firstPinned : firstDemand.pinned with
          | some value => simp
          | none =>
              cases secondPinned : secondDemand.pinned with
              | some value => simp
              | none =>
                  have notBelow :
                      table.classes.isSubclass firstDemand.cls secondDemand.cls = false := by
                    simpa [Demand.implies, secondPinned] using below
                  have notAbove :
                      table.classes.isSubclass secondDemand.cls firstDemand.cls = false := by
                    simpa [Demand.implies, firstPinned] using above
                  simp [areApart_comm wellFormed firstKnown secondKnown notBelow notAbove]

/-! ## Values of two types -/

/-- A closed world has to know what a value combines: if its class is below a
registered class and below that of a given type, then so is a registered class. An
open world makes no such demand. -/
def Foresees (table later : TypeTable) (value : Value) (id : TypeId) : Prop :=
  table.openWorld = false → ∀ other otherCls cls,
    table.hostAt? other = some otherCls → table.hostAt? id = some cls →
    otherCls ∈ later.classes.linearization value.cls →
    cls ∈ later.classes.linearization value.cls → table.haveCommonHost otherCls cls = true

/-- A value of a registered class is foreseen. -/
theorem foresees_of_host (mirrors : table.Mirrors) (growth : table.Extends later) {own : TypeId}
    (host : table.hostAt? own = some value.cls) (id : TypeId) : table.Foresees later value id := by
  intro _ other otherCls cls _ _ otherAbove above
  rw [growth.classes.linearization_eq (mirrors.knows_of_hostAt? host).1] at otherAbove above
  exact haveCommonHost_iff.mpr ⟨own, value.cls, host, otherAbove, above⟩

/-- A literal type implies every demand that its value meets. -/
theorem implies_of_pinned (mirrors : table.Mirrors) (growth : table.Extends later)
    {pinned : Value} {base : TypeId} {demand : Demand}
    (found : table.find? id = some (.literalType pinned base)) (equal : value.eql pinned = true)
    (meets : demand.isMet later.classes value = true) :
    (Demand.ofDef (.literalType pinned base)).implies table.classes demand = true := by
  have known : table.classes.Knows pinned.cls := mirrors.knows_demand found
  simp only [Demand.isMet, Value.isInstanceOf, Value.cls_eq_of_eql equal,
    growth.classes.isSubclass_eq known, Bool.and_eq_true] at meets
  simp only [Demand.ofDef_literalType, Demand.implies, Bool.and_eq_true]
  refine ⟨meets.1, ?_⟩
  cases wanted : demand.pinned with
  | none => rfl
  | some other =>
      simp only [wanted, Option.all_some] at meets
      simpa using Value.eql_of_common equal meets.2

/-- Unrelated classes of one value are not apart. -/
private theorem areApart_eq_false (mirrors : table.Mirrors) (growth : table.Extends later)
    (laterWellFormed : later.classes.WellFormed) {firstCls secondCls : ClassId}
    (firstHost : table.hostAt? first = some firstCls)
    (secondHost : table.hostAt? second = some secondCls)
    (foreseen : table.Foresees later value second)
    (belowFirst : firstCls ∈ later.classes.linearization value.cls)
    (belowSecond : secondCls ∈ later.classes.linearization value.cls)
    (notBelow : secondCls ∉ table.classes.linearization firstCls)
    (notAbove : firstCls ∉ table.classes.linearization secondCls) :
    table.areApart firstCls secondCls = false := by
  cases isOpen : table.openWorld with
  | false =>
      have common := foreseen isOpen first firstCls secondCls firstHost secondHost belowFirst
        belowSecond
      simp [areApart, common]
  | true =>
      have derivable := Hierarchy.canDerive_of_common_subclass mirrors.wellFormed laterWellFormed
        growth.classes (mirrors.knows_of_hostAt? firstHost).1
        (mirrors.knows_of_hostAt? secondHost).1 belowFirst belowSecond notBelow notAbove
      simp [areApart, isOpen, derivable]

/-- **Disjoint types share no value**, now or in a later table. -/
theorem excludes_eq_false (mirrors : table.Mirrors) (growth : table.Extends later)
    (laterWellFormed : later.classes.WellFormed) {firstDef secondDef : TypeDef}
    (firstFound : table.find? first = some firstDef)
    (secondFound : table.find? second = some secondDef)
    (foreseen : table.Foresees later value second)
    (meetsFirst : (Demand.ofDef firstDef).isMet later.classes value = true)
    (meetsSecond : (Demand.ofDef secondDef).isMet later.classes value = true) :
    table.excludes (Demand.ofDef firstDef) (Demand.ofDef secondDef) = false := by
  rw [Bool.eq_false_iff]
  intro excluded
  simp only [excludes, Bool.and_eq_true, Bool.not_eq_true', Bool.or_eq_true] at excluded
  obtain ⟨⟨notBelow, notAbove⟩, apart⟩ := excluded
  have equalOfPinned : ∀ {pinned : Value} {base : TypeId},
      (Demand.ofDef (.literalType pinned base)).isMet later.classes value = true →
        value.eql pinned = true := by
    intro pinned base meets
    simp only [Demand.ofDef_literalType, Demand.isMet, Option.all_some, Bool.and_eq_true] at meets
    exact meets.2
  cases firstDef with
  | top =>
      rw [Demand.ofDef_top,
        Demand.implies_root mirrors.wellFormed (mirrors.knows_demand secondFound)] at notAbove
      cases notAbove
  | literalType pinned base =>
      rw [implies_of_pinned mirrors growth firstFound (equalOfPinned meetsFirst) meetsSecond]
        at notBelow
      cases notBelow
  | classType name supertypes host =>
      obtain ⟨firstCls, rfl, -⟩ := mirrors.standsFor firstFound
      cases secondDef with
      | top =>
          rw [Demand.ofDef_top,
            Demand.implies_root mirrors.wellFormed (mirrors.knows_demand firstFound)] at notBelow
          cases notBelow
      | literalType pinned base =>
          rw [implies_of_pinned mirrors growth secondFound (equalOfPinned meetsSecond) meetsFirst]
            at notAbove
          cases notAbove
      | classType otherName otherSupertypes otherHost =>
          obtain ⟨secondCls, rfl, -⟩ := mirrors.standsFor secondFound
          simp only [Demand.ofDef_classType, Demand.isMet, Demand.implies, Value.isInstanceOf,
            Option.all_none, Bool.and_true, Hierarchy.isSubclass_iff, Bool.eq_false_iff,
            ne_eq, Option.isSome_none, Bool.false_eq_true, false_or]
            at meetsFirst meetsSecond notBelow notAbove apart
          rw [areApart_eq_false mirrors growth laterWellFormed
            (hostAt?_eq_some_iff.mpr ⟨name, supertypes, firstFound⟩)
            (hostAt?_eq_some_iff.mpr ⟨otherName, otherSupertypes, secondFound⟩)
            foreseen meetsFirst meetsSecond notBelow notAbove] at apart
          cases apart

end StaticDispatch.TypeTable
