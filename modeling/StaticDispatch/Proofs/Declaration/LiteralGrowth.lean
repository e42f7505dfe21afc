import StaticDispatch.Proofs.Declaration.Literal
import StaticDispatch.Proofs.TypeTable.Registration
import StaticDispatch.Proofs.TypeTable.Subtype

/-!
Contract: what literals add to a table of declared types.

The first literal of a class brings the types of that class and of the classes above
it, and every literal brings a type of its own. The classes are built in. Such a class
goes by its short name, unless a declared type has taken that; then it goes by its full
name, which has a dot and so is the name of no declared type. Hence no literal is ever
refused.

Owns: tables of declared types, and what literals make of them.
Does not own: where declared types and literals come from.
-/

namespace StaticDispatch

open Declaration (IsScalar)

/-- Built-in classes differ in their names, and only full names have a dot. -/
theorem Hierarchy.builtin_names : ∀ cls < builtin.classes.size,
    '.' ∉ (builtin.className cls).toList ∧ '.' ∈ (builtin.fullName cls).toList ∧
      ∀ other < builtin.classes.size,
        (builtin.className cls = builtin.className other → cls = other) ∧
        (builtin.fullName cls = builtin.fullName other → cls = other) := by
  decide +kernel

namespace Declaration.IsScalar

variable {value : Value}

theorem isHashable (scalar : IsScalar value) : value.isHashable = true := by
  cases value <;> first | rfl | exact scalar.elim

private theorem mutablePart?_eq (scalar : IsScalar value) : value.mutablePart? = none := by
  cases value <;> first | rfl | exact scalar.elim

private theorem cls_ne_root (scalar : IsScalar value) : value.cls ≠ Hierarchy.objectClass := by
  cases value <;> first | (simp only [Value.cls]; decide) | exact scalar.elim

end Declaration.IsScalar

namespace TypeTable

variable {start left later table : TypeTable} {id : TypeId} {name : String} {cls other : ClassId}
  {supertypes : List TypeId}

/-! ## Tables of declared types -/

/-- A name is taken exactly if a class type has it. -/
theorem isTaken_iff :
    table.definitions.any (TypeDef.isNamed name) = true ↔
      ∃ id supertypes host, table.find? id = some (.classType name supertypes host) := by
  constructor
  · intro taken
    cases found : table.findId? (TypeDef.isNamed name) with
    | none =>
        have free := findId?_eq_none_iff.mp found
        obtain ⟨position, bound, named⟩ := Array.any_eq_true.mp taken
        have present : table.find? (idAt position) = some table.definitions[position] :=
          find?_eq_some_iff.mpr ⟨position, rfl, Array.getElem?_eq_getElem bound⟩
        rw [free _ _ present] at named
        cases named
    | some id =>
        obtain ⟨definition, present, named⟩ := find?_of_findId? found
        cases definition with
        | classType own supertypes host =>
            have isOwn : own = name := of_decide_eq_true named
            exact ⟨id, supertypes, host, isOwn ▸ present⟩
        | top => cases named
        | literalType value base => cases named
  · rintro ⟨id, supertypes, host, found⟩
    obtain ⟨position, -, present⟩ := find?_eq_some_iff.mp found
    obtain ⟨bound, isDefinition⟩ := Array.getElem?_eq_some_iff.mp present
    exact Array.any_eq_true.mpr ⟨position, bound, by simp [isDefinition, TypeDef.isNamed]⟩

/-- In a table with the top type a name that a class type has can be looked up. -/
theorem exists_lookup? (hasTop : ∃ id, table.find? id = some .top) {host : Option ClassId}
    (found : table.find? id = some (.classType name supertypes host)) :
    ∃ own, table.lookup? name = some own := by
  rw [← Option.ne_none_iff_exists', lookup?]
  split
  · intro missing
    obtain ⟨top, isTop⟩ := hasTop
    have wrong := findId?_eq_none_iff.mp missing top .top isTop
    cases wrong
  · intro missing
    have wrong := findId?_eq_none_iff.mp missing id _ found
    simp [TypeDef.isNamed] at wrong

/-- A table with the top type and declared types only. A declared type has a name without
a dot and a host class that is not built in. -/
structure Pristine (table : TypeTable) : Prop where
  mirrors : table.Mirrors
  builtin : Hierarchy.builtin.Extends table.classes
  hasTop : ∃ id, table.find? id = some .top
  declared : ∀ id name supertypes cls,
    table.find? id = some (.classType name supertypes (some cls)) →
      '.' ∉ name.toList ∧ ¬ Hierarchy.builtin.Knows cls

namespace Pristine

/-- A built-in class goes by its short name if that is free, else by its full name. -/
theorem nameForHost_cases (pristine : start.Pristine) (known : Hierarchy.builtin.Knows cls) :
    (start.nameForHost cls = Hierarchy.builtin.className cls ∧
      start.definitions.any (TypeDef.isNamed (Hierarchy.builtin.className cls)) = false) ∨
    start.nameForHost cls = Hierarchy.builtin.fullName cls := by
  unfold nameForHost
  dsimp only
  rw [pristine.builtin.className_eq known, pristine.builtin.fullName_eq known]
  split
  · exact Or.inr rfl
  · rename_i free
    exact Or.inl ⟨rfl, by simpa using free⟩

theorem nameForHost_injective (pristine : start.Pristine) (known : Hierarchy.builtin.Knows cls)
    (otherKnown : Hierarchy.builtin.Knows other)
    (same : start.nameForHost cls = start.nameForHost other) : cls = other := by
  obtain ⟨undotted, dotted, distinct⟩ := Hierarchy.builtin_names cls known
  obtain ⟨otherUndotted, otherDotted, -⟩ := Hierarchy.builtin_names other otherKnown
  rcases pristine.nameForHost_cases known with ⟨isShort, -⟩ | isFull <;>
    rcases pristine.nameForHost_cases otherKnown with ⟨otherShort, -⟩ | otherFull
  · exact (distinct other otherKnown).1 (by rw [← isShort, same, otherShort])
  · rw [← isShort, same, otherFull] at undotted
    exact absurd otherDotted undotted
  · rw [← otherShort, ← same, isFull] at otherUndotted
    exact absurd dotted otherUndotted
  · exact (distinct other otherKnown).2 (by rw [← isFull, same, otherFull])

end Pristine

/-! ## Growth by literals -/

/-- A table grown by literals. Its new class types are those of built-in classes, each under
the name that its class had at the start. -/
structure LiteralGrowth (start left : TypeTable) : Prop where
  mirrors : left.Mirrors
  growth : start.Extends left
  classes : left.classes = start.classes
  hosts : ∀ id name supertypes cls,
    left.find? id = some (.classType name supertypes (some cls)) →
      start.find? id = some (.classType name supertypes (some cls)) ∨
        Hierarchy.builtin.Knows cls ∧ name = start.nameForHost cls

namespace LiteralGrowth

theorem refl (pristine : start.Pristine) : start.LiteralGrowth start :=
  ⟨pristine.mirrors, .refl start, rfl, fun _ _ _ _ found => .inl found⟩

theorem builtin (grown : start.LiteralGrowth left) (pristine : start.Pristine) :
    Hierarchy.builtin.Extends left.classes :=
  grown.classes ▸ pristine.builtin

theorem topId?_eq_some (grown : start.LiteralGrowth left) (pristine : start.Pristine) :
    ∃ id, left.topId? = some id ∧ left.find? id = some .top := by
  obtain ⟨id, isTop⟩ := pristine.hasTop
  cases found : left.topId? with
  | none =>
      have wrong := findId?_eq_none_iff.mp found id .top (grown.growth.definitions _ _ isTop)
      cases wrong
  | some own => exact ⟨own, rfl, TypeTable.topId?_eq_some found⟩

/-- The name of a built-in class without a type is free. -/
theorem name_free (grown : start.LiteralGrowth left) (pristine : start.Pristine)
    (known : Hierarchy.builtin.Knows cls) (missing : ∀ id, left.hostAt? id ≠ some cls) :
    left.definitions.any (TypeDef.isNamed (start.nameForHost cls)) = false := by
  rw [Bool.eq_false_iff]
  intro taken
  obtain ⟨id, supertypes, host, found⟩ := isTaken_iff.mp taken
  obtain ⟨own, rfl, -⟩ := grown.mirrors.standsFor found
  rcases grown.hosts _ _ _ _ found with isDeclared | ⟨ownKnown, sameName⟩
  · rcases pristine.nameForHost_cases known with ⟨isShort, free⟩ | isFull
    · rw [isShort] at isDeclared
      rw [isTaken_iff.mpr ⟨_, _, _, isDeclared⟩] at free
      cases free
    · have undotted := (pristine.declared _ _ _ _ isDeclared).1
      rw [isFull] at undotted
      exact undotted (Hierarchy.builtin_names cls known).2.1
  · obtain rfl := pristine.nameForHost_injective known ownKnown sameName
    exact missing id (hostAt?_eq_some_iff.mpr ⟨_, _, found⟩)

private theorem nameForHost_eq (grown : start.LiteralGrowth left) (pristine : start.Pristine)
    (known : Hierarchy.builtin.Knows cls) (missing : ∀ id, left.hostAt? id ≠ some cls) :
    left.nameForHost cls = start.nameForHost cls := by
  by_cases taken :
      start.definitions.any (TypeDef.isNamed (start.classes.className cls)) = true
  · have leftTaken : left.definitions.any
        (TypeDef.isNamed (start.classes.className cls)) = true := by
      obtain ⟨id, supertypes, host, found⟩ := isTaken_iff.mp taken
      exact isTaken_iff.mpr ⟨id, supertypes, host, grown.growth.definitions _ _ found⟩
    simp only [nameForHost, grown.classes, taken, leftTaken]
  · have isShort : start.nameForHost cls = start.classes.className cls := by
      simp only [nameForHost, if_neg taken]
    have free := grown.name_free pristine known missing
    rw [isShort] at free ⊢
    simp [nameForHost, grown.classes, free]

/-- The type of a built-in class can be added above types of classes. -/
theorem newClass_eq_ok (grown : start.LiteralGrowth left) (pristine : start.Pristine)
    (known : Hierarchy.builtin.Knows cls) (missing : ∀ id, left.hostAt? id ≠ some cls)
    (above : ∀ supertype ∈ supertypes, ∃ base, left.hostAt? supertype = some base) :
    left.newClass (left.nameForHost cls) supertypes (some cls) =
      .ok (left.add (.classType (start.nameForHost cls) supertypes (some cls))) := by
  rw [grown.nameForHost_eq pristine known missing]
  refine newClass_eq_ok_iff.mpr ⟨grown.name_free pristine known missing, ?_, rfl⟩
  intro supertype isSupertype
  obtain ⟨base, host⟩ := above supertype isSupertype
  obtain ⟨_, _, found⟩ := hostAt?_eq_some_iff.mp host
  exact ⟨_, found, rfl⟩

end LiteralGrowth

/-! ## The types of built-in classes -/

/-- What requests for the types of built-in classes leave: nothing is new but those types and
the types of the classes above. -/
structure Brings (start left : TypeTable) (classes : List ClassId) (later : TypeTable) : Prop where
  grown : start.LiteralGrowth later
  within : left.Extends later
  fresh : ∀ id host, later.hostAt? id = some host → left.hostAt? id = some host ∨
    ∃ cls ∈ classes, host ∈ Hierarchy.builtin.linearization cls

theorem Brings.refl (grown : start.LiteralGrowth left) (classes : List ClassId) :
    Brings start left classes left :=
  ⟨grown, .refl left, fun _ _ host => .inl host⟩

private theorem forEach_brings {request : TypeTable → ClassId → Update TypeId}
    {classes : List ClassId}
    (step : ∀ cls ∈ classes, ∀ {left : TypeTable}, start.LiteralGrowth left →
      ∃ id later, request left cls = (.ok id, later) ∧ Brings start left [cls] later)
    (grown : start.LiteralGrowth left) :
    ∃ ids later, forEach request left classes = (.ok ids, later) ∧
      Brings start left classes later := by
  induction classes generalizing left with
  | nil => exact ⟨[], left, rfl, .refl grown []⟩
  | cons cls rest inductionHypothesis =>
      obtain ⟨id, next, requested, first⟩ := step cls (by simp) grown
      obtain ⟨ids, later, walked, others⟩ :=
        inductionHypothesis (fun other inside => step other (by simp [inside])) first.grown
      refine ⟨id :: ids, later, by simp only [forEach, requested, walked], others.grown,
        first.within.trans others.within, fun own host isHost => ?_⟩
      rcases others.fresh own host isHost with older | ⟨other, inside, above⟩
      · rcases first.fresh own host older with oldest | ⟨other, inside, above⟩
        · exact Or.inl oldest
        · exact Or.inr ⟨other, by simp_all, above⟩
      · exact Or.inr ⟨other, by simp [inside], above⟩

/-- What the type of a built-in class above the types of its bases brings. -/
theorem Brings.newClass {next : TypeTable} {bases : List ClassId}
    (known : Hierarchy.builtin.Knows cls) (brought : Brings start left bases next)
    (basesAre : ∀ base ∈ bases, base ∈ Hierarchy.builtin.bases cls)
    (registered : Registered (cls + 1) left
      (next.add (.classType (start.nameForHost cls) supertypes (some cls))).2) :
    Brings start left [cls]
      (next.add (.classType (start.nameForHost cls) supertypes (some cls))).2 := by
  have wellFormed := Hierarchy.builtin_wellFormed
  have growth := extends_add next (.classType (start.nameForHost cls) supertypes (some cls))
  refine ⟨⟨registered.mirrors, brought.grown.growth.trans growth, brought.grown.classes, ?_⟩,
    registered.growth, fun id host isHost => ?_⟩
  · intro id name own host found
    rcases find?_add_eq_some_iff.mp found with ⟨-, isAdded⟩ | older
    · cases isAdded
      exact Or.inr ⟨known, rfl⟩
    · exact brought.grown.hosts id name own host older
  · obtain ⟨name, own, found⟩ := hostAt?_eq_some_iff.mp isHost
    rcases find?_add_eq_some_iff.mp found with ⟨-, isAdded⟩ | older
    · cases isAdded
      exact Or.inr ⟨cls, by simp, wellFormed.self_mem known⟩
    · rcases brought.fresh id host (hostAt?_eq_some_iff.mpr ⟨_, _, older⟩) with
        oldest | ⟨base, isBase, above⟩
      · exact Or.inl oldest
      · have within := (wellFormed.sublist_of_base (basesAre base isBase)).2.2
        exact Or.inr ⟨cls, by simp, within.mem above⟩

/-- **The type of a built-in class is never refused.** -/
theorem ensureClassWithin_brings (pristine : start.Pristine) {steps : Nat} (enough : cls < steps)
    (known : Hierarchy.builtin.Knows cls) (grown : start.LiteralGrowth left) :
    ∃ id later, ensureClassWithin steps left cls = (.ok id, later) ∧
      Brings start left [cls] later := by
  induction steps generalizing left cls with
  | zero => exact absurd enough (Nat.not_lt_zero cls)
  | succ steps inductionHypothesis =>
      have leftKnown : left.classes.Knows cls := (grown.builtin pristine).knows known
      have spec := (ensureClassWithin_spec (steps + 1) grown.mirrors leftKnown).1
      unfold ensureClassWithin at spec ⊢
      by_cases isRoot : cls = Hierarchy.objectClass
      · obtain ⟨id, isTop, -⟩ := grown.topId?_eq_some pristine
        exact ⟨id, left, by simp [isRoot, ensureTop, isTop], .refl grown _⟩
      rw [if_neg isRoot] at spec ⊢
      cases existing : left.ofHost? cls with
      | some id => exact ⟨id, left, rfl, .refl grown _⟩
      | none =>
          have basesAre : ∀ base ∈ (left.classes.bases cls).filter (· != Hierarchy.objectClass),
              base ∈ Hierarchy.builtin.bases cls := by
            intro base isBase
            rw [(grown.builtin pristine).bases_eq known] at isBase
            exact List.mem_of_mem_filter isBase
          -- The bases are older, so fewer steps are enough for them.
          obtain ⟨types, next, walked, brought⟩ := forEach_brings
            (fun base isBase _ grownSoFar => by
              obtain ⟨older, baseKnown, -⟩ :=
                Hierarchy.builtin_wellFormed.sublist_of_base (basesAre base isBase)
              exact inductionHypothesis (Nat.lt_of_lt_of_le older (Nat.le_of_lt_succ enough))
                baseKnown grownSoFar) grown
          obtain ⟨registered, typed⟩ :=
            forEach_bases_spec grown.mirrors (ensureClassWithin_spec steps) walked
          have missing : ∀ id, next.hostAt? id ≠ some cls := by
            intro id host
            rcases registered.fresh id cls host with older | isBelow
            · exact ofHost?_eq_none existing id older
            · exact Nat.lt_irrefl cls isBelow
          have above : ∀ supertype ∈ types, ∃ base, next.hostAt? supertype = some base := by
            intro supertype isSupertype
            obtain ⟨base, isBase, isType⟩ :=
              Traversal.exists_of_mem_left (typed types rfl) isSupertype
            rw [IsTypeOf, if_neg (by simpa using (List.mem_filter.mp isBase).2)] at isType
            exact ⟨base, isType⟩
          have added := brought.grown.newClass_eq_ok pristine known missing above
          simp only [existing, walked, added] at spec ⊢
          exact ⟨_, _, rfl, brought.newClass known basesAre spec⟩

/-! ## Literals -/

/-- A literal type is no class type. -/
theorem Brings.literal {next : TypeTable} {classes : List ClassId}
    (brought : Brings start left classes next) {value : Value} {base : TypeId}
    (mirrors : (next.add (.literalType value base)).2.Mirrors) :
    Brings start left classes (next.add (.literalType value base)).2 := by
  have growth := extends_add next (.literalType value base)
  have older : ∀ {id : TypeId} {name : String} {supertypes : List TypeId} {host : Option ClassId},
      (next.add (.literalType value base)).2.find? id = some (.classType name supertypes host) →
      next.find? id = some (.classType name supertypes host) := by
    intro id name supertypes host found
    rcases find?_add_eq_some_iff.mp found with ⟨-, isAdded⟩ | isOld
    · cases isAdded
    · exact isOld
  refine ⟨⟨mirrors, brought.grown.growth.trans growth, brought.grown.classes,
    fun id name own host found => brought.grown.hosts id name own host (older found)⟩,
    brought.within.trans growth, fun id host isHost => ?_⟩
  obtain ⟨name, own, found⟩ := hostAt?_eq_some_iff.mp isHost
  exact brought.fresh id host (hostAt?_eq_some_iff.mpr ⟨name, own, older found⟩)

/-- **A scalar is never refused**: it gets a type that pins it, and its class has one too. -/
theorem newLiteral_brings (pristine : start.Pristine) (grown : start.LiteralGrowth left)
    {value : Value} (scalar : IsScalar value) :
    ∃ id later, left.newLiteral value none = (.ok id, later) ∧
      Brings start left [value.cls] later ∧
      (∃ pinned base, later.find? id = some (.literalType pinned base) ∧
        pinned.eql value = true) ∧
      ∃ own, later.hostAt? own = some value.cls := by
  have known : left.classes.Knows value.cls := (grown.builtin pristine).knows scalar.isPlain
  obtain ⟨base, next, ensured, brought⟩ :=
    ensureClassWithin_brings pristine (Nat.lt_succ_of_lt known) scalar.isPlain grown
  have isType := (ensureClass_spec grown.mirrors known).2 base (by rw [ensureClass, ensured])
  rw [ensureClass, ensured, IsTypeOf, if_neg scalar.cls_ne_root] at isType
  obtain ⟨mirrors, growth, pins⟩ := newLiteral_spec grown.mirrors known
  have made : left.newLiteral value none = (next.literalOf? value base).elim
      (.ok (next.add (.literalType value base)).1, (next.add (.literalType value base)).2)
      fun id => (.ok id, next) := by
    simp only [newLiteral, literalBase, ensureClass, ensured, scalar.isHashable,
      scalar.mutablePart?_eq, Bool.not_true, Bool.false_eq_true, if_false]
    cases next.literalOf? value base with
    | some id => rfl
    | none => exact addLiteral_of_isWritable scalar.isWritable next base
  cases existing : next.literalOf? value base with
  | some id =>
      rw [existing, Option.elim_some] at made
      rw [made] at pins
      exact ⟨id, next, made, brought, pins id rfl, base, isType⟩
  | none =>
      rw [existing, Option.elim_none] at made
      rw [made] at pins mirrors
      exact ⟨_, _, made, brought.literal mirrors, pins _ rfl, base,
        (extends_add next _).hostAt? isType⟩

end TypeTable

end StaticDispatch
