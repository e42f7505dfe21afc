import StaticDispatch.Proofs.Hierarchy.Creation
import StaticDispatch.Proofs.Value.Equality
import StaticDispatch.TypeTable.Basic

/-!
Contract: type tables that mirror the host classes.

A class type stands for a host class, and its supertypes stand for the bases of
that class, the root left out. A literal type stands over the type of its value's
class. No two class types stand for one class, and no two literal types pin equal
values that can be keys.

Owns: the invariant of tables, growth of tables, and what each type demands of a
value.
Does not own: which requests keep the invariant.
-/

namespace StaticDispatch.TypeTable

variable {table later : TypeTable} {id : TypeId}

/-! ## Numbers and definitions -/

theorem find?_eq_some_iff {definition : TypeDef} :
    table.find? id = some definition ↔
      ∃ position, id = idAt position ∧ table.definitions[position]? = some definition := by
  constructor
  · intro found
    unfold find? at found
    split at found
    · rename_i position
      exact ⟨position, rfl, found⟩
    · cases found
  · rintro ⟨position, rfl, found⟩
    exact found

def Defines (table : TypeTable) (id : TypeId) : Prop :=
  ∃ definition, table.find? id = some definition

instance : DecidablePred table.Defines := fun id =>
  decidable_of_iff ((table.find? id).isSome = true) Option.isSome_iff_exists

theorem mem_ids_iff : id ∈ table.ids ↔ table.Defines id := by
  simp only [ids, Defines, List.mem_map, List.mem_range, find?_eq_some_iff]
  constructor
  · rintro ⟨position, bound, rfl⟩
    exact ⟨table.definitions[position], position, rfl, Array.getElem?_eq_getElem bound⟩
  · rintro ⟨definition, position, rfl, found⟩
    exact ⟨position, (Array.getElem?_eq_some_iff.mp found).1, rfl⟩

/-- A defined type has a number from one up to the size of the table. -/
theorem bounds_of_find? {definition : TypeDef} (found : table.find? id = some definition) :
    1 ≤ id ∧ id ≤ table.definitions.size := by
  obtain ⟨position, rfl, present⟩ := find?_eq_some_iff.mp found
  have bound := (Array.getElem?_eq_some_iff.mp present).1
  change (1 : Int) ≤ position + 1 ∧ (position : Int) + 1 ≤ table.definitions.size
  omega

theorem size_pos_of_find? {definition : TypeDef} (found : table.find? id = some definition) :
    0 < table.definitions.size := by
  obtain ⟨position, -, present⟩ := find?_eq_some_iff.mp found
  exact Nat.zero_lt_of_lt (Array.getElem?_eq_some_iff.mp present).1

theorem get_of_find? {definition : TypeDef} (found : table.find? id = some definition) :
    table.get id = .ok definition := by
  simp [get, found]

theorem find?_of_get {definition : TypeDef} (got : table.get id = .ok definition) :
    table.find? id = some definition := by
  unfold get at got
  split at got
  · rename_i found isFound
    cases got
    exact isFound
  · cases got

theorem find?_of_findId? {wanted : TypeDef → Bool} (found : table.findId? wanted = some id) :
    ∃ definition, table.find? id = some definition ∧ wanted definition = true := by
  obtain ⟨position, first, rfl⟩ := Option.map_eq_some_iff.mp found
  obtain ⟨bound, holds, -⟩ := Array.findIdx?_eq_some_iff_getElem.mp first
  exact ⟨table.definitions[position], Array.getElem?_eq_getElem bound, holds⟩

theorem findId?_eq_none_iff {wanted : TypeDef → Bool} :
    table.findId? wanted = none ↔
      ∀ id definition, table.find? id = some definition → wanted definition = false := by
  simp only [findId?, Option.map_eq_none_iff, Array.findIdx?_eq_none_iff]
  constructor
  · intro none_wanted id definition found
    obtain ⟨position, -, present⟩ := find?_eq_some_iff.mp found
    exact none_wanted definition (Array.mem_of_getElem? present)
  · intro none_wanted definition inside
    obtain ⟨position, bound, rfl⟩ := Array.getElem_of_mem inside
    exact none_wanted (idAt position) _ (Array.getElem?_eq_getElem bound)

/-- The added type has a number of its own, and the others keep theirs. -/
theorem find?_add_eq_some_iff {added definition : TypeDef} :
    (table.add added).2.find? id = some definition ↔
      id = idAt table.definitions.size ∧ definition = added ∨
        table.find? id = some definition := by
  simp only [find?_eq_some_iff, add, Array.getElem?_push]
  constructor
  · rintro ⟨position, rfl, found⟩
    split at found
    · rename_i isLast
      exact Or.inl ⟨by rw [isLast], (Option.some.inj found).symm⟩
    · exact Or.inr ⟨position, rfl, found⟩
  · rintro (⟨rfl, rfl⟩ | ⟨position, rfl, found⟩)
    · exact ⟨table.definitions.size, rfl, by simp⟩
    · have bound := (Array.getElem?_eq_some_iff.mp found).1
      exact ⟨position, rfl, by rw [if_neg (Nat.ne_of_lt bound), found]⟩

theorem find?_add_self (table : TypeTable) (added : TypeDef) :
    (table.add added).2.find? (table.add added).1 = some added :=
  find?_add_eq_some_iff.mpr (.inl ⟨rfl, rfl⟩)

/-! ## Growth -/

/-- Every type of the first table is one of the second, under its number. -/
def Keeps (first second : TypeTable) : Prop :=
  ∀ id definition, first.find? id = some definition → second.find? id = some definition

/-- The first type of a kind stays the first. -/
theorem Keeps.findId? {first second : TypeTable} (keeps : first.Keeps second)
    {wanted : TypeDef → Bool} (found : first.findId? wanted = some id) :
    second.findId? wanted = some id := by
  obtain ⟨position, isFirst, rfl⟩ := Option.map_eq_some_iff.mp found
  obtain ⟨bound, holds, before⟩ := Array.findIdx?_eq_some_iff_getElem.mp isFirst
  have kept : ∀ (place : Nat) (inside : place < first.definitions.size),
      second.definitions[place]? = some first.definitions[place] := fun place inside =>
    keeps (idAt place) _ (Array.getElem?_eq_getElem inside)
  obtain ⟨laterBound, same⟩ := Array.getElem?_eq_some_iff.mp (kept position bound)
  refine Option.map_eq_some_iff.mpr ⟨position, Array.findIdx?_eq_some_iff_getElem.mpr
    ⟨laterBound, same ▸ holds, fun place isBefore => ?_⟩, rfl⟩
  obtain ⟨_, samePlace⟩ :=
    Array.getElem?_eq_some_iff.mp (kept place (Nat.lt_trans isBefore bound))
  exact samePlace ▸ before place isBefore

/-- The second table has every class and every type of the first. -/
structure Extends (first second : TypeTable) : Prop where
  classes : first.classes.Extends second.classes
  definitions : ∀ id definition, first.find? id = some definition →
    second.find? id = some definition
  openWorld : second.openWorld = first.openWorld

namespace Extends

variable {first second third : TypeTable}

theorem refl (table : TypeTable) : table.Extends table :=
  ⟨.refl _, fun _ _ found => found, rfl⟩

theorem trans (before : first.Extends second) (after : second.Extends third) :
    first.Extends third :=
  ⟨before.classes.trans after.classes,
    fun id definition found =>
      after.definitions id definition (before.definitions id definition found),
    after.openWorld.trans before.openWorld⟩

theorem keeps (growth : first.Extends second) : first.Keeps second :=
  growth.definitions

theorem findId? (growth : first.Extends second) {wanted : TypeDef → Bool}
    (found : first.findId? wanted = some id) : second.findId? wanted = some id :=
  growth.keeps.findId? found

theorem lookup? (growth : first.Extends second) {name : String}
    (found : first.lookup? name = some id) : second.lookup? name = some id := by
  unfold TypeTable.lookup? at found ⊢
  split at found
  · rename_i isTop
    rw [if_pos isTop]
    exact growth.findId? found
  · rename_i notTop
    rw [if_neg notTop]
    exact growth.findId? found

end Extends

theorem extends_add (table : TypeTable) (added : TypeDef) :
    table.Extends (table.add added).2 :=
  ⟨.refl _, fun _ _ found => find?_add_eq_some_iff.mpr (.inr found), rfl⟩

/-! ## The mirror -/

def hostAt? (table : TypeTable) (id : TypeId) : Option ClassId :=
  (table.find? id).bind TypeDef.host?

theorem hostAt?_eq_some_iff {cls : ClassId} :
    table.hostAt? id = some cls ↔
      ∃ name supertypes, table.find? id = some (.classType name supertypes (some cls)) := by
  rw [hostAt?, Option.bind_eq_some_iff]
  constructor
  · rintro ⟨definition, found, isHost⟩
    cases definition with
    | classType name supertypes host =>
        have hostIs : host = some cls := isHost
        exact ⟨name, supertypes, by rw [found, hostIs]⟩
    | top => cases isHost
    | literalType value base => cases isHost
  · rintro ⟨name, supertypes, found⟩
    exact ⟨_, found, rfl⟩

theorem Extends.hostAt? (growth : table.Extends later) {cls : ClassId}
    (host : table.hostAt? id = some cls) : later.hostAt? id = some cls := by
  obtain ⟨name, supertypes, found⟩ := hostAt?_eq_some_iff.mp host
  exact hostAt?_eq_some_iff.mpr ⟨name, supertypes, growth.definitions _ _ found⟩

/-- A class type at a number stands for a class: its supertypes are older types
that stand for the bases. -/
structure StandsFor (table : TypeTable) (id : TypeId) (supertypes : List TypeId)
    (cls : ClassId) : Prop where
  known : table.classes.Knows cls
  proper : cls ≠ Hierarchy.objectClass
  above : ∀ supertype ∈ supertypes, supertype < id ∧
    ∃ base ∈ table.classes.bases cls, table.hostAt? supertype = some base
  bases : ∀ base ∈ table.classes.bases cls, base ≠ Hierarchy.objectClass →
    ∃ supertype ∈ supertypes, table.hostAt? supertype = some base

/-- The type of a class; the root has the top type. -/
def IsTypeOf (table : TypeTable) (cls : ClassId) (id : TypeId) : Prop :=
  if cls = Hierarchy.objectClass then
    table.find? id = some .top
  else
    table.hostAt? id = some cls

/-- What holds of a definition when it is added, and stays so. -/
def Reflects (table : TypeTable) (id : TypeId) : TypeDef → Prop
  | .top => True
  | .classType _ supertypes host => ∃ cls, host = some cls ∧ table.StandsFor id supertypes cls
  | .literalType value base =>
      table.classes.Knows value.cls ∧ base < id ∧ table.IsTypeOf value.cls base

structure Mirrors (table : TypeTable) : Prop where
  wellFormed : table.classes.WellFormed
  reflects : ∀ id definition, table.find? id = some definition → table.Reflects id definition
  oneTop : ∀ first second, table.find? first = some .top → table.find? second = some .top →
    first = second
  oneHost : ∀ first second cls, table.hostAt? first = some cls → table.hostAt? second = some cls →
    first = second
  onePinned : ∀ first second value other base otherBase,
    table.find? first = some (.literalType value base) →
    table.find? second = some (.literalType other otherBase) →
    value.isHashable = true → other.isHashable = true → value.eql other = true → first = second

theorem Extends.isTypeOf (growth : table.Extends later) {cls : ClassId}
    (isType : table.IsTypeOf cls id) : later.IsTypeOf cls id := by
  unfold IsTypeOf at isType ⊢
  split at isType
  · rename_i isRoot
    rw [if_pos isRoot]
    exact growth.definitions _ _ isType
  · rename_i notRoot
    rw [if_neg notRoot]
    exact growth.hostAt? isType

theorem IsTypeOf.defined {cls : ClassId} (isType : table.IsTypeOf cls id) :
    table.Defines id := by
  unfold IsTypeOf at isType
  split at isType
  · exact ⟨_, isType⟩
  · obtain ⟨name, supertypes, found⟩ := hostAt?_eq_some_iff.mp isType
    exact ⟨_, found⟩

/-- A definition goes on reflecting its class, because it only looks at what was
there. -/
theorem Extends.reflects (growth : table.Extends later) {definition : TypeDef}
    (reflected : table.Reflects id definition) : later.Reflects id definition := by
  cases definition with
  | top => trivial
  | classType name supertypes host =>
      obtain ⟨cls, isHost, stands⟩ := reflected
      refine ⟨cls, isHost, growth.classes.knows stands.known, stands.proper, ?_, ?_⟩
      · intro supertype isSupertype
        obtain ⟨older, base, isBase, baseHost⟩ := stands.above supertype isSupertype
        rw [growth.classes.bases_eq stands.known]
        exact ⟨older, base, isBase, growth.hostAt? baseHost⟩
      · intro base isBase proper
        rw [growth.classes.bases_eq stands.known] at isBase
        obtain ⟨supertype, isSupertype, baseHost⟩ := stands.bases base isBase proper
        exact ⟨supertype, isSupertype, growth.hostAt? baseHost⟩
  | literalType value base =>
      obtain ⟨known, older, baseIs⟩ := reflected
      exact ⟨growth.classes.knows known, older, growth.isTypeOf baseIs⟩

namespace Mirrors

variable {cls : ClassId} {value : Value} {base : TypeId}

theorem standsFor (mirrors : table.Mirrors) {name : String} {supertypes : List TypeId}
    {host : Option ClassId} (found : table.find? id = some (.classType name supertypes host)) :
    ∃ cls, host = some cls ∧ table.StandsFor id supertypes cls :=
  mirrors.reflects _ _ found

theorem isTypeOf_unique (mirrors : table.Mirrors) {first second : TypeId}
    (firstType : table.IsTypeOf cls first) (secondType : table.IsTypeOf cls second) :
    first = second := by
  unfold IsTypeOf at firstType secondType
  split at firstType
  · rename_i isRoot
    rw [if_pos isRoot] at secondType
    exact mirrors.oneTop _ _ firstType secondType
  · rename_i notRoot
    rw [if_neg notRoot] at secondType
    exact mirrors.oneHost _ _ _ firstType secondType

theorem knows_of_hostAt? (mirrors : table.Mirrors) (host : table.hostAt? id = some cls) :
    table.classes.Knows cls ∧ cls ≠ Hierarchy.objectClass := by
  obtain ⟨name, supertypes, found⟩ := hostAt?_eq_some_iff.mp host
  obtain ⟨own, isOwn, stands⟩ := mirrors.standsFor found
  cases isOwn
  exact ⟨stands.known, stands.proper⟩

end Mirrors

/-! ## Demands -/

/-- What a type asks of a value: to belong to a class, and perhaps to equal a
given value. -/
structure Demand where
  cls : ClassId
  pinned : Option Value

def Demand.ofDef : TypeDef → Demand
  | .top => ⟨Hierarchy.objectClass, none⟩
  | .classType _ _ host => ⟨host.getD Hierarchy.objectClass, none⟩
  | .literalType value _ => ⟨value.cls, some value⟩

@[simp] theorem Demand.ofDef_top : Demand.ofDef .top = ⟨Hierarchy.objectClass, none⟩ := rfl

@[simp] theorem Demand.ofDef_classType (name : String) (supertypes : List TypeId) (cls : ClassId) :
    Demand.ofDef (.classType name supertypes (some cls)) = ⟨cls, none⟩ := rfl

@[simp] theorem Demand.ofDef_literalType (value : Value) (base : TypeId) :
    Demand.ofDef (.literalType value base) = ⟨value.cls, some value⟩ := rfl

def Demand.isMet (demand : Demand) (hierarchy : Hierarchy) (value : Value) : Bool :=
  value.isInstanceOf hierarchy demand.cls && demand.pinned.all (value.eql ·)

/-- Whether meeting the first demand is always meeting the second one. -/
def Demand.implies (hierarchy : Hierarchy) (first second : Demand) : Bool :=
  hierarchy.isSubclass first.cls second.cls &&
    second.pinned.all fun value => first.pinned.any (·.eql value)

end StaticDispatch.TypeTable
