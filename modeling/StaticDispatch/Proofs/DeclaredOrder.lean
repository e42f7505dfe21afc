import StaticDispatch.Proofs.Assembly

/-!
Contract: subtyping is the declared order, and on class types that of the host classes.

In every table that requests can make, the subtype question is answered, it is a preorder
below the top type, and on class types it is the order that their supertypes generate.
Where every class type was made together with its host class or for it, the order of
class types is the one of their host classes, and no two of them share a host class.

Owns: the two orders as laws of a table, and the runs that obey them.
Does not own: disjointness.
-/

namespace StaticDispatch

open Relation (ReflTransGen)

namespace TypeTable

variable {table : TypeTable}

def HoldsClass (table : TypeTable) (id : TypeId) : Prop :=
  ∃ name supertypes host, table.find? id = some (.classType name supertypes host)

theorem HoldsClass.defines {id : TypeId} (isClass : table.HoldsClass id) : table.Defines id := by
  obtain ⟨name, supertypes, host, found⟩ := isClass
  exact ⟨_, found⟩

private theorem holdsClass_iff {id : TypeId} :
    (table.find? id).any TypeDef.isClass = true ↔ table.HoldsClass id := by
  rw [Option.any_eq_true]
  constructor
  · rintro ⟨definition, found, isClass⟩
    cases definition with
    | classType name supertypes host => exact ⟨name, supertypes, host, found⟩
    | top => cases isClass
    | literalType value base => cases isClass
  · rintro ⟨name, supertypes, host, found⟩
    exact ⟨_, found, rfl⟩

instance (table : TypeTable) (id : TypeId) : Decidable (table.HoldsClass id) :=
  decidable_of_iff _ holdsClass_iff

/-- Subtyping is a preorder below the top type, and the order that supertypes declare on
class types. -/
structure DeclaresOrder (table : TypeTable) : Prop where
  ancestors : ∀ id, table.Defines id → ∃ found, table.ancestors id = .ok found ∧
    ∀ upper, upper ∈ found ↔
      table.find? upper ≠ some .top ∧ ReflTransGen table.DeclaredBelow id upper
  answers : ∀ lower upper, table.Defines lower → table.Defines upper →
    ∃ answer, table.isSubtype lower upper = .ok answer
  refl : ∀ id, table.Defines id → table.isSubtype id id = .ok true
  trans : ∀ lower middle upper, table.Defines lower → table.Defines middle →
    table.Defines upper → table.isSubtype lower middle = .ok true →
    table.isSubtype middle upper = .ok true → table.isSubtype lower upper = .ok true
  greatest : ∀ lower upper, table.Defines lower → table.find? upper = some .top →
    table.isSubtype lower upper = .ok true
  classes : ∀ lower upper, table.HoldsClass lower → table.HoldsClass upper →
    (table.isSubtype lower upper = .ok true ↔ ReflTransGen table.DeclaredBelow lower upper)
  antisymm : ∀ lower upper, table.HoldsClass lower → table.HoldsClass upper →
    table.isSubtype lower upper = .ok true → table.isSubtype upper lower = .ok true →
    lower = upper

/-- Every table whose supertypes are older declares an order. -/
private theorem Rooted.declaresOrder (rooted : table.Rooted) : table.DeclaresOrder := by
  have decides : ∀ {lower upper : TypeId}, table.Defines lower → table.Defines upper →
      (table.isSubtype lower upper = .ok true ↔ table.Below lower upper) :=
    fun lowerDefined upperDefined => isSubtype_iff_below rooted lowerDefined upperDefined
  have classes : ∀ lower upper, table.HoldsClass lower → table.HoldsClass upper →
      (table.isSubtype lower upper = .ok true ↔ ReflTransGen table.DeclaredBelow lower upper) := by
    intro lower upper lowerClass upperClass
    rw [decides lowerClass.defines upperClass.defines]
    obtain ⟨name, supertypes, host, found⟩ := upperClass
    exact below_class_iff found
  refine ⟨?_, ?_, ?_, ?_, ?_, classes, ?_⟩
  · intro id defined
    exact ancestors_eq_reached rooted defined
  · intro lower upper lowerDefined upperDefined
    obtain ⟨answer, answered, -⟩ := isSubtype_spec rooted lowerDefined upperDefined
    exact ⟨answer, answered⟩
  · intro id defined
    exact (decides defined defined).mpr (.refl id)
  · intro lower middle upper lowerDefined middleDefined upperDefined before after
    rw [decides lowerDefined middleDefined] at before
    rw [decides middleDefined upperDefined] at after
    exact (decides lowerDefined upperDefined).mpr (before.trans after)
  · intro lower upper lowerDefined isTop
    exact (decides lowerDefined ⟨_, isTop⟩).mpr (.top isTop)
  · -- A path leads to older types only, so two types that reach each other are one.
    intro lower upper lowerClass upperClass below above
    rw [classes lower upper lowerClass upperClass] at below
    rw [classes upper lower upperClass lowerClass] at above
    exact Int.le_antisymm (rooted.le_of_reaches above) (rooted.le_of_reaches below)

/-- Each class type stands for a host class of its own, and subtyping of class types is
the order of their host classes. -/
structure FollowsHosts (table : TypeTable) : Prop where
  hosted : ∀ id, table.HoldsClass id → ∃ cls, table.hostAt? id = some cls
  oneHost : ∀ first second cls, table.hostAt? first = some cls →
    table.hostAt? second = some cls → first = second
  subclass : ∀ lower upper lowerCls upperCls, table.hostAt? lower = some lowerCls →
    table.hostAt? upper = some upperCls →
    table.isSubtype lower upper = .ok (table.classes.isSubclass lowerCls upperCls)

private theorem Mirrors.followsHosts (mirrors : table.Mirrors) : table.FollowsHosts := by
  refine ⟨?_, mirrors.oneHost, ?_⟩
  · rintro id ⟨name, supertypes, host, found⟩
    obtain ⟨cls, rfl, -⟩ := mirrors.standsFor found
    exact ⟨cls, hostAt?_eq_some_iff.mpr ⟨name, supertypes, found⟩⟩
  · intro lower upper lowerCls upperCls lowerHost upperHost
    obtain ⟨_, _, lowerFound⟩ := hostAt?_eq_some_iff.mp lowerHost
    obtain ⟨_, _, upperFound⟩ := hostAt?_eq_some_iff.mp upperHost
    rw [isSubtype_eq mirrors lowerFound upperFound]
    simp [Demand.implies]

/-- Literal types over whatever base do not matter to the order of class types. -/
theorem MirrorsClasses.followsHosts (mirrors : table.MirrorsClasses) : table.FollowsHosts := by
  have blank := mirrors.mirrors.followsHosts
  have hosts : ∀ id, table.blanked.hostAt? id = table.hostAt? id := hostAt?_blanked table
  refine ⟨?_, ?_, ?_⟩
  · rintro id ⟨name, supertypes, host, found⟩
    rw [← hosts]
    apply blank.hosted
    exact ⟨name, supertypes, host, by rw [find?_blanked, found, Option.map_some, TypeDef.blanked]⟩
  · simpa only [hosts] using blank.oneHost
  · intro lower upper lowerCls upperCls lowerHost upperHost
    rw [← isSubtype_blanked mirrors lowerHost upperHost, ← classes_blanked]
    apply blank.subclass
    · rw [hosts, lowerHost]
    · rw [hosts, upperHost]

end TypeTable

namespace Scenario

/-- Scenarios in which every class type was declared with its host class, asked for by
host class or loaded from a text. A run may also start before the top type is there. -/
inductive Populated (scenario : Scenario) : Prop where
  | assembled (assembled : scenario.Assembled) : Populated scenario
  | unrooted (openWorld : Bool)
      (run : Steps { table := TypeTable.empty openWorld, types := [] } scenario) :
      Populated scenario

private theorem Populated.followsHosts {scenario : Scenario} (populated : scenario.Populated) :
    scenario.table.FollowsHosts := by
  cases populated with
  | assembled assembled =>
      exact (ClassesAligned.of_assembled assembled).mirrorsClasses.followsHosts
  | unrooted openWorld run =>
      have aligned : Aligned { table := TypeTable.empty openWorld, types := [] } :=
        ⟨TypeTable.empty_mirrors openWorld, nofun⟩
      exact (run.spec aligned).1.mirrors.followsHosts

end Scenario

/-- **Subtyping is the declared order.** After any run of requests it is a preorder below
the top type that supertypes generate on class types. Where all class types have host
classes of their own, it orders them as their host classes are ordered. -/
theorem subtyping_is_declared_order :
    (∀ table : TypeTable, table.Requested → table.DeclaresOrder) ∧
      ∀ scenario : Scenario, scenario.Populated → scenario.table.FollowsHosts :=
  ⟨fun _ requested => requested.rooted.declaresOrder, fun _ populated => populated.followsHosts⟩

namespace Stacking

/-- A class type without a host class. -/
def shaped : TypeTable :=
  (((TypeTable.empty false).ensureTop.2.newClass "Shape" [1] none).toOption.get
    (by decide +kernel)).2

def squared : TypeTable :=
  ((shaped.newClass "Square" [2, 1] none).toOption.get (by decide +kernel)).2

/-- The number five over each of the two class types, and again over these two literal
types. -/
def stacked : TypeTable :=
  [3, 2, 4, 5].foldl (fun table base => (table.newLiteral (.int 5) (some base)).2) squared

/-- Shapes with host classes, and the number five over one of them. -/
def pinned : Scenario :=
  let shapes := Scenario.shapes.toOption.get (by decide +kernel)
  { shapes with table := (shapes.table.newLiteral (.int 5) (some 6)).2 }

theorem stacked_in_declared_order :
    stacked.Requested ∧ stacked.isSubtype 6 2 = .ok true ∧
      ReflTransGen stacked.DeclaredBelow 3 2 ∧ ¬ ReflTransGen stacked.DeclaredBelow 2 3 ∧
      pinned.Populated ∧ ∃ square polygon, pinned.table.hostAt? 6 = some square ∧
        pinned.table.hostAt? 4 = some polygon ∧ square ≠ polygon ∧
        pinned.table.classes.isSubclass square polygon = true := by
  have toShaped : TypeTable.Request (TypeTable.empty false).ensureTop.2 shaped :=
    .newClass (Traversal.eq_ok_get _)
  have toSquared : TypeTable.Request shaped squared := .newClass (Traversal.eq_ok_get _)
  have pin : ∀ {table : TypeTable} (base : TypeId), table.Defines base →
      TypeTable.Request table (table.newLiteral (.int 5) (some base)).2 := by
    intro table base issued
    refine .literal (.int 5) (some base) ?_
    rintro _ ⟨rfl⟩
    exact issued
  have requested : stacked.Requested :=
    ⟨false, .tail (.tail (.tail (.tail (.tail (.tail (.tail .refl .top) toShaped) toSquared)
      (pin 3 (by decide +kernel))) (pin 2 (by decide +kernel))) (pin 4 (by decide +kernel)))
      (pin 5 (by decide +kernel))⟩
  have order := subtyping_is_declared_order.1 stacked requested
  have shape : stacked.HoldsClass 2 := by decide +kernel
  have square : stacked.HoldsClass 3 := by decide +kernel
  have populated : pinned.Populated :=
    .assembled (.based (.declareAll (.empty false) (Traversal.eq_ok_get _)) (.int 5) 6)
  have follows := subtyping_is_declared_order.2 pinned populated
  refine ⟨requested, ?_, ?_, ?_, populated, ?_⟩
  · exact order.trans 6 7 2 (by decide +kernel) (by decide +kernel)
      (by decide +kernel) (Traversal.toOption_eq_some.mp (by decide +kernel))
      (Traversal.toOption_eq_some.mp (by decide +kernel))
  · exact (order.classes 3 2 square shape).mp (Traversal.toOption_eq_some.mp (by decide +kernel))
  · intro path
    have below := Traversal.toOption_eq_some.mpr ((order.classes 2 3 shape square).mpr path)
    exact absurd below (by decide +kernel)
  · obtain ⟨squareCls, squareHost⟩ := follows.hosted 6 (by decide +kernel)
    obtain ⟨polygonCls, polygonHost⟩ := follows.hosted 4 (by decide +kernel)
    have below : pinned.table.isSubtype 6 4 = .ok true :=
      Traversal.toOption_eq_some.mp (by decide +kernel)
    rw [follows.subclass 6 4 squareCls polygonCls squareHost polygonHost] at below
    refine ⟨squareCls, polygonCls, squareHost, polygonHost, ?_, Except.ok.inj below⟩
    rintro rfl
    exact absurd (follows.oneHost 6 4 squareCls squareHost polygonHost) (by decide)

end Stacking

end StaticDispatch
