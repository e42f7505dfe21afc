import StaticDispatch.Proofs.TypeTable.Disjoint
import StaticDispatch.Proofs.TypeTable.Rooted

/-!
Contract: literal types do not matter to questions about class types.

A literal type may be put over any number, so a table with literal types need not
mirror its host classes. Blanking a table makes all its literal types pin one and
the same value over the top type. Requests for class types do the same with a table
and with the blanked one, and questions about class types have the same answers, so
what is known of mirroring tables carries over.

Owns: blanking, and what it leaves as it was.
Does not own: questions about literal types.
-/

namespace StaticDispatch

/-- A value of the root class that is equal to itself only and cannot be a key. -/
def Value.blank : Value :=
  .object { identity := 0, cls := Hierarchy.objectClass, shown := "",
            held := some Hierarchy.listClass }

def TypeDef.blanked : TypeDef → TypeDef
  | .literalType _ _ => .literalType .blank 1
  | .classType name supertypes host => .classType name supertypes host
  | .top => .top

namespace TypeTable

variable {table next later : TypeTable} {id lower upper first second : TypeId}

def blanked (table : TypeTable) : TypeTable :=
  { table with definitions := table.definitions.map TypeDef.blanked }

/-! ## Look-ups -/

theorem classes_blanked (table : TypeTable) : table.blanked.classes = table.classes := rfl

theorem find?_blanked (table : TypeTable) (id : TypeId) :
    table.blanked.find? id = (table.find? id).map TypeDef.blanked := by
  unfold find?
  split
  · simp [blanked]
  · rfl

private theorem host?_blanked (definition : TypeDef) :
    definition.blanked.host? = definition.host? := by
  cases definition <;> rfl

theorem hostAt?_blanked (table : TypeTable) (id : TypeId) :
    table.blanked.hostAt? id = table.hostAt? id := by
  rw [hostAt?, hostAt?, find?_blanked]
  cases table.find? id with
  | none => rfl
  | some definition => exact host?_blanked definition

theorem find?_blanked_top_iff :
    table.blanked.find? id = some .top ↔ table.find? id = some .top := by
  rw [find?_blanked]
  cases table.find? id with
  | none => simp
  | some definition => cases definition <;> simp [TypeDef.blanked]

private theorem findId?_blanked {wanted : TypeDef → Bool}
    (unchanged : ∀ definition, wanted definition.blanked = wanted definition) :
    table.blanked.findId? wanted = table.findId? wanted := by
  have same : wanted ∘ TypeDef.blanked = wanted := funext unchanged
  simp [findId?, blanked, Array.findIdx?_map, same]

private theorem any_isNamed_blanked (table : TypeTable) (name : String) :
    table.blanked.definitions.any (TypeDef.isNamed name) =
      table.definitions.any (TypeDef.isNamed name) := by
  have same : ∀ definition : TypeDef,
      definition.blanked.isNamed name = definition.isNamed name := by
    intro definition
    cases definition <;> rfl
  simp [blanked, same]

private theorem ofHost?_blanked (table : TypeTable) (cls : ClassId) :
    table.blanked.ofHost? cls = table.ofHost? cls :=
  findId?_blanked fun definition => by rw [host?_blanked]

private theorem nameForHost_blanked (table : TypeTable) (cls : ClassId) :
    table.blanked.nameForHost cls = table.nameForHost cls := by
  simp only [nameForHost, any_isNamed_blanked]
  rfl

private theorem add_blanked (table : TypeTable) (added : TypeDef) :
    table.blanked.add added.blanked = ((table.add added).1, (table.add added).2.blanked) := by
  simp [add, blanked]

/-! ## Requests for class types -/

private theorem ensureTop_blanked (table : TypeTable) :
    table.blanked.ensureTop = (table.ensureTop.1, table.ensureTop.2.blanked) := by
  have sameTop : table.blanked.topId? = table.topId? :=
    findId?_blanked fun definition => by cases definition <;> rfl
  unfold ensureTop
  rw [sameTop]
  cases table.topId? with
  | some id => rfl
  | none => exact add_blanked table .top

theorem newClass_blanked {name : String} {supertypes : List TypeId} {host : Option ClassId} :
    table.blanked.newClass name supertypes host = .ok (id, later) ↔
      ∃ next, table.newClass name supertypes host = .ok (id, next) ∧ next.blanked = later := by
  have proper_iff : ∀ supertype, (∃ definition, table.blanked.find? supertype = some definition ∧
        definition.isLiteral = false) ↔
      ∃ definition, table.find? supertype = some definition ∧ definition.isLiteral = false := by
    intro supertype
    rw [find?_blanked]
    cases table.find? supertype with
    | none => simp
    | some definition => cases definition <;> simp [TypeDef.blanked, TypeDef.isLiteral]
  have added : table.blanked.add (.classType name supertypes host) =
      ((table.add (.classType name supertypes host)).1,
        (table.add (.classType name supertypes host)).2.blanked) :=
    add_blanked table (.classType name supertypes host)
  simp only [newClass_eq_ok_iff, any_isNamed_blanked, proper_iff, added]
  constructor
  · rintro ⟨isNew, proper, made⟩
    obtain ⟨rfl, rfl⟩ := Prod.mk.inj made
    exact ⟨_, ⟨isNew, proper, rfl⟩, rfl⟩
  · rintro ⟨next, ⟨isNew, proper, made⟩, rfl⟩
    rw [made]
    exact ⟨isNew, proper, rfl⟩

/-- Two updates with the same answer, if any, of a table and of the blanked one. -/
structure Alike {α : Type} (plain blank : Update α) : Prop where
  answer : blank.1.toOption = plain.1.toOption
  table : blank.2 = plain.2.blanked

namespace Alike

variable {α : Type} {plain blank : Update α}

theorem cases (alike : Alike plain blank) :
    (∃ answer, plain.1 = .ok answer ∧ blank.1 = .ok answer) ∨
      ∃ fault other, plain.1 = .error fault ∧ blank.1 = .error other := by
  have answer := alike.answer
  cases plainIs : plain.1 with
  | ok own =>
      rw [plainIs] at answer
      exact Or.inl ⟨own, rfl, Traversal.toOption_eq_some.mp answer⟩
  | error fault =>
      cases blankIs : blank.1 with
      | ok own =>
          rw [plainIs, blankIs] at answer
          cases answer
      | error other => exact Or.inr ⟨fault, other, rfl, rfl⟩

end Alike

/-- Requests that treat a table and the blanked one alike do so in a row. -/
private theorem forEach_blanked {α : Type} {request : TypeTable → α → Update TypeId}
    (step : ∀ before item, Alike (request before item) (request before.blanked item))
    (items : List α) :
    Alike (forEach request table items) (forEach request table.blanked items) := by
  induction items generalizing table with
  | nil => exact ⟨rfl, rfl⟩
  | cons item rest inductionHypothesis =>
      have first := step table item
      unfold forEach
      cases plainIs : request table item with
      | mk plain left =>
          cases blankIs : request table.blanked item with
          | mk blank blankLeft =>
              rw [plainIs, blankIs] at first
              obtain rfl : blankLeft = left.blanked := first.table
              rcases first.cases with ⟨id, rfl, rfl⟩ | ⟨fault, other, rfl, rfl⟩
              · have others :
                    Alike (forEach request left rest) (forEach request left.blanked rest) :=
                  inductionHypothesis
                dsimp only
                cases restIs : forEach request left rest with
                | mk restPlain final =>
                    cases restBlankIs : forEach request left.blanked rest with
                    | mk restBlank blankFinal =>
                        rw [restIs, restBlankIs] at others
                        obtain rfl : blankFinal = final.blanked := others.table
                        rcases others.cases with ⟨ids, rfl, rfl⟩ | ⟨fault, other, rfl, rfl⟩
                        · exact ⟨rfl, rfl⟩
                        · exact ⟨rfl, rfl⟩
              · exact ⟨rfl, rfl⟩

/-- **A request for the type of a host class treats a table and the blanked one alike.** -/
theorem ensureClass_blanked (table : TypeTable) (cls : ClassId) :
    Alike (table.ensureClass cls) (table.blanked.ensureClass cls) := by
  unfold ensureClass
  rw [classes_blanked]
  generalize table.classes.classes.size + 1 = steps
  induction steps generalizing table cls with
  | zero => exact ⟨rfl, rfl⟩
  | succ steps inductionHypothesis =>
      unfold ensureClassWithin
      split
      · rw [ensureTop_blanked]
        exact ⟨rfl, rfl⟩
      · rw [ofHost?_blanked]
        split
        · exact ⟨rfl, rfl⟩
        · dsimp only
          rw [classes_blanked]
          have bases : Alike
              (forEach (ensureClassWithin steps) table
                ((table.classes.bases cls).filter (· != Hierarchy.objectClass)))
              (forEach (ensureClassWithin steps) table.blanked
                ((table.classes.bases cls).filter (· != Hierarchy.objectClass))) :=
            forEach_blanked inductionHypothesis _
          cases plainIs : forEach (ensureClassWithin steps) table
              ((table.classes.bases cls).filter (· != Hierarchy.objectClass)) with
          | mk plain left =>
              cases blankIs : forEach (ensureClassWithin steps) table.blanked
                  ((table.classes.bases cls).filter (· != Hierarchy.objectClass)) with
              | mk blank blankLeft =>
                  rw [plainIs, blankIs] at bases
                  obtain rfl : blankLeft = left.blanked := bases.table
                  rcases bases.cases with ⟨supertypes, rfl, rfl⟩ | ⟨fault, other, rfl, rfl⟩
                  · dsimp only
                    rw [nameForHost_blanked]
                    cases added : left.newClass (left.nameForHost cls) supertypes (some cls) with
                    | ok result =>
                        rw [newClass_blanked.mpr ⟨result.2, added, rfl⟩]
                        exact ⟨rfl, rfl⟩
                    | error fault =>
                        cases blankAdded : left.blanked.newClass (left.nameForHost cls) supertypes
                            (some cls) with
                        | error other => exact ⟨rfl, rfl⟩
                        | ok result =>
                            obtain ⟨next, accepted, -⟩ := newClass_blanked.mp blankAdded
                            rw [added] at accepted
                            cases accepted
                  · exact ⟨rfl, rfl⟩

/-! ## Mirroring -/

private theorem blank_isHashable : Value.blank.isHashable = false := by decide

/-- The class types of a table mirror their host classes, below a top type that comes
first. -/
structure MirrorsClasses (table : TypeTable) : Prop where
  mirrors : table.blanked.Mirrors
  top : table.find? 1 = some .top

private theorem isTypeOf_blank (top : table.find? 1 = some .top) :
    table.IsTypeOf Value.blank.cls 1 := by
  have isRoot : Value.blank.cls = Hierarchy.objectClass := rfl
  rw [IsTypeOf, if_pos isRoot]
  exact top

/-- A blank literal type fits under any table with a top type that comes first. -/
private theorem Mirrors.add_blank (mirrors : table.Mirrors) (top : table.find? 1 = some .top) :
    (table.add (.literalType .blank 1)).2.Mirrors := by
  apply mirrors.add
  · exact ⟨mirrors.wellFormed.root, Int.lt_add_one_of_le (bounds_of_find? top).2,
      isTypeOf_blank top⟩
  · simp
  · simp [TypeDef.host?]
  · rintro value base ⟨rfl, rfl⟩ hashable
    rw [blank_isHashable] at hashable
    cases hashable

private theorem MirrorsClasses.add_literal (mirrors : table.MirrorsClasses) (value : Value)
    (base : TypeId) : (table.add (.literalType value base)).2.MirrorsClasses := by
  have added : table.blanked.add (.literalType .blank 1) = _ :=
    add_blanked table (.literalType value base)
  refine ⟨?_, find?_add_eq_some_iff.mpr (.inr mirrors.top)⟩
  have grown := mirrors.mirrors.add_blank (find?_blanked_top_iff.mpr mirrors.top)
  rw [added] at grown
  exact grown

/-- A table that mirrors its host classes does so without its literal types. -/
theorem Mirrors.blanked (mirrors : table.Mirrors) (top : table.find? 1 = some .top) :
    table.blanked.Mirrors := by
  have hosts : ∀ id, table.blanked.hostAt? id = table.hostAt? id := hostAt?_blanked table
  refine ⟨mirrors.wellFormed, ?_, ?_, ?_, ?_⟩
  · intro id definition found
    rw [find?_blanked] at found
    obtain ⟨own, isOwn, rfl⟩ := Option.map_eq_some_iff.mp found
    cases own with
    | top => trivial
    | classType name supertypes host =>
        obtain ⟨cls, isHost, stands⟩ := mirrors.standsFor isOwn
        refine ⟨cls, isHost, stands.known, stands.proper, ?_, ?_⟩
        · simp only [hosts]
          exact stands.above
        · simp only [hosts]
          exact stands.bases
    | literalType value base =>
        have notTop : id ≠ 1 := by
          rintro rfl
          rw [top] at isOwn
          cases isOwn
        exact ⟨mirrors.wellFormed.root,
          Int.lt_iff_le_and_ne.mpr ⟨(bounds_of_find? isOwn).1, notTop.symm⟩,
          isTypeOf_blank (find?_blanked_top_iff.mpr top)⟩
  · intro first second firstTop secondTop
    exact mirrors.oneTop first second (find?_blanked_top_iff.mp firstTop)
      (find?_blanked_top_iff.mp secondTop)
  · intro first second cls
    rw [hosts, hosts]
    exact mirrors.oneHost first second cls
  · intro first second value other base otherBase firstFound _ hashable
    rw [find?_blanked] at firstFound
    obtain ⟨own, -, isBlank⟩ := Option.map_eq_some_iff.mp firstFound
    cases own with
    | top => cases isBlank
    | classType name supertypes host => cases isBlank
    | literalType own ownBase =>
        cases isBlank
        rw [blank_isHashable] at hashable
        cases hashable

theorem MirrorsClasses.ensureClass (mirrors : table.MirrorsClasses) {cls : ClassId}
    (known : table.classes.Knows cls) :
    (table.ensureClass cls).2.MirrorsClasses ∧
      table.blanked.Extends (table.ensureClass cls).2.blanked := by
  obtain ⟨registered, -⟩ := ensureClass_spec mirrors.mirrors known
  rw [(ensureClass_blanked table cls).table] at registered
  refine ⟨⟨registered.mirrors, ?_⟩, registered.growth⟩
  exact find?_blanked_top_iff.mp
    (registered.growth.definitions _ _ (find?_blanked_top_iff.mpr mirrors.top))

theorem MirrorsClasses.literalBase (mirrors : table.MirrorsClasses) (value : Value)
    (base : Option TypeId) (known : base = none → table.classes.Knows value.cls) :
    (table.literalBase value base).2.MirrorsClasses ∧
      table.blanked.Extends (table.literalBase value base).2.blanked := by
  cases base with
  | some own => exact ⟨mirrors, .refl _⟩
  | none => exact mirrors.ensureClass (known rfl)

/-- **A request for a literal type, over whatever base, keeps the classes mirrored.** -/
theorem MirrorsClasses.newLiteral (mirrors : table.MirrorsClasses) (value : Value)
    (base : Option TypeId) (known : base = none → table.classes.Knows value.cls) :
    (table.newLiteral value base).2.MirrorsClasses ∧
      table.blanked.Extends (table.newLiteral value base).2.blanked := by
  obtain ⟨left, growth⟩ := mirrors.literalBase value base known
  rcases newLiteral_cases table value base with same | ⟨id, -, grown⟩
  · rw [same]
    exact ⟨left, growth⟩
  · rw [grown]
    have added := add_blanked (table.literalBase value base).2 (.literalType value id)
    refine ⟨left.add_literal value id, growth.trans ?_⟩
    have extended := extends_add (table.literalBase value base).2.blanked
      (TypeDef.literalType value id).blanked
    rw [added] at extended
    exact extended

/-! ## Questions about class types -/

theorem get_of_hostAt? {cls : ClassId} (host : table.hostAt? id = some cls) :
    ∃ name supertypes, table.get id = .ok (.classType name supertypes (some cls)) ∧
      table.blanked.get id = .ok (.classType name supertypes (some cls)) := by
  obtain ⟨name, supertypes, found⟩ := hostAt?_eq_some_iff.mp host
  refine ⟨name, supertypes, get_of_find? found, get_of_find? ?_⟩
  rw [find?_blanked, found]
  rfl

/-- The supertypes of a class type are class types. -/
private theorem MirrorsClasses.supertype_hosted (mirrors : table.MirrorsClasses) {name : String}
    {supertypes : List TypeId} {host : Option ClassId}
    (found : table.find? id = some (.classType name supertypes host)) {supertype : TypeId}
    (above : supertype ∈ supertypes) : ∃ cls, table.hostAt? supertype = some cls := by
  have blankFound : table.blanked.find? id = some (.classType name supertypes host) := by
    rw [find?_blanked, found]
    rfl
  obtain ⟨cls, -, stands⟩ := mirrors.mirrors.standsFor blankFound
  obtain ⟨-, base, -, baseHost⟩ := stands.above supertype above
  exact ⟨base, hostAt?_blanked table supertype ▸ baseHost⟩

/-- A walk that starts from class types meets nothing but class types. -/
private theorem ancestorsFrom_blanked (mirrors : table.MirrorsClasses) (steps : Nat)
    (seen frontier : List TypeId) (hosted : ∀ id ∈ frontier, ∃ cls, table.hostAt? id = some cls) :
    table.blanked.ancestorsFrom steps seen frontier = table.ancestorsFrom steps seen frontier := by
  induction steps generalizing seen frontier with
  | zero => rfl
  | succ steps inductionHypothesis =>
      let definitionOf : TypeId → TypeId × TypeDef := fun id => (id, (table.find? id).getD .top)
      have found : ∀ id ∈ frontier, ∃ name supertypes cls,
          table.find? id = some (.classType name supertypes (some cls)) := by
        intro id inside
        obtain ⟨cls, host⟩ := hosted id inside
        obtain ⟨name, supertypes, isFound⟩ := hostAt?_eq_some_iff.mp host
        exact ⟨name, supertypes, cls, isFound⟩
      have walked : frontier.mapM (fun id => (table.get id).map fun found => (id, found)) =
          .ok (frontier.map definitionOf) := by
        apply Traversal.mapM_ok
        intro id inside
        obtain ⟨name, supertypes, cls, isFound⟩ := found id inside
        simp [definitionOf, get, isFound, Except.map]
      have blankWalked : frontier.mapM
          (fun id => (table.blanked.get id).map fun found => (id, found)) =
            .ok (frontier.map definitionOf) := by
        apply Traversal.mapM_ok
        intro id inside
        obtain ⟨name, supertypes, cls, isFound⟩ := found id inside
        simp [definitionOf, get, find?_blanked, isFound, TypeDef.blanked, Except.map]
      unfold ancestorsFrom
      split
      · rfl
      · rw [walked, blankWalked]
        apply inductionHypothesis
        intro supertype inside
        obtain ⟨isAbove, -⟩ := mem_unseen_iff.mp inside
        obtain ⟨⟨id, definition⟩, isBelow, above⟩ := List.mem_flatMap.mp isAbove
        obtain ⟨own, inFrontier, same⟩ := List.mem_map.mp (List.mem_of_mem_filter isBelow)
        obtain ⟨name, supertypes, cls, isFound⟩ := found own inFrontier
        simp only [definitionOf, isFound, Option.getD_some, Prod.mk.injEq] at same
        obtain ⟨-, rfl⟩ := same
        exact mirrors.supertype_hosted isFound above

/-- **The subtype question for class types does not depend on literal types.** -/
theorem isSubtype_blanked (mirrors : table.MirrorsClasses) {lowerCls upperCls : ClassId}
    (lowerHost : table.hostAt? lower = some lowerCls)
    (upperHost : table.hostAt? upper = some upperCls) :
    table.blanked.isSubtype lower upper = table.isSubtype lower upper := by
  obtain ⟨_, _, lowerGot, lowerBlank⟩ := get_of_hostAt? lowerHost
  obtain ⟨_, _, upperGot, upperBlank⟩ := get_of_hostAt? upperHost
  have ancestors : table.blanked.ancestors lower = table.ancestors lower := by
    unfold TypeTable.ancestors
    rw [ancestorsFrom_blanked mirrors _ _ _ (by simpa using ⟨lowerCls, lowerHost⟩)]
    simp [TypeTable.blanked]
  unfold isSubtype isSubtypeWithin
  rw [lowerGot, lowerBlank, upperGot, upperBlank, ancestors]
  simp only [Traversal.ok_bind, TypeDef.isTop]

private theorem haveCommonClass_blanked (mirrors : table.MirrorsClasses)
    {firstCls secondCls : ClassId} (firstHost : table.hostAt? first = some firstCls)
    (secondHost : table.hostAt? second = some secondCls) :
    table.blanked.haveCommonClass first second = table.haveCommonClass first second := by
  have sameIds : table.blanked.ids = table.ids := by simp [ids, TypeTable.blanked]
  unfold haveCommonClass
  rw [sameIds]
  apply Traversal.anyM_congr
  intro id inside
  obtain ⟨definition, found⟩ := mem_ids_iff.mp inside
  have blankFound : table.blanked.find? id = some definition.blanked := by
    rw [find?_blanked, found]
    rfl
  rw [get_of_find? found, get_of_find? blankFound]
  cases definition with
  | top => simp [TypeDef.blanked, TypeDef.isClass]
  | literalType value base => simp [TypeDef.blanked, TypeDef.isClass]
  | classType name supertypes host =>
      obtain ⟨cls, rfl, -⟩ := mirrors.mirrors.standsFor blankFound
      have isHost := hostAt?_eq_some_iff.mpr ⟨name, supertypes, found⟩
      rw [isSubtype_blanked mirrors isHost firstHost, isSubtype_blanked mirrors isHost secondHost]
      simp only [TypeDef.blanked]

/-- **Disjointness of class types does not depend on literal types.** -/
theorem isDisjoint_blanked (mirrors : table.MirrorsClasses) {firstCls secondCls : ClassId}
    (firstHost : table.hostAt? first = some firstCls)
    (secondHost : table.hostAt? second = some secondCls) :
    table.blanked.isDisjoint first second = table.isDisjoint first second := by
  obtain ⟨_, _, firstGot, firstBlank⟩ := get_of_hostAt? firstHost
  obtain ⟨_, _, secondGot, secondBlank⟩ := get_of_hostAt? secondHost
  have sameWorld : table.blanked.openWorld = table.openWorld := rfl
  have sameBound : table.blanked.noCommonSubclass = table.noCommonSubclass := by
    funext left right
    cases left <;> cases right <;> rfl
  unfold isDisjoint
  rw [firstGot, firstBlank, secondGot, secondBlank, isSubtype_blanked mirrors firstHost secondHost,
    isSubtype_blanked mirrors secondHost firstHost,
    haveCommonClass_blanked mirrors firstHost secondHost, sameWorld, sameBound]
  simp only [Traversal.ok_bind, TypeDef.isTop]

end TypeTable

end StaticDispatch
