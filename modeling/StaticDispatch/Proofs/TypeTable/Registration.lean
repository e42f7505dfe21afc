import StaticDispatch.Proofs.TypeTable.Mirror
import StaticDispatch.TypeTable.Registration

/-!
Contract: every request to add a type keeps the mirror.

The requests are the top type, the type of a host class, a literal type over the
type of its class, and a class type with a host class of its own. Each of them,
also one that fails on the way, leaves a table that extends the one before and
still mirrors its classes.

Owns: what each request leaves and returns.
Does not own: which requests a program makes.
-/

namespace StaticDispatch.TypeTable

variable {table later : TypeTable} {id : TypeId}

/-- The host classes may grow below the types. -/
theorem Mirrors.withClasses (mirrors : table.Mirrors) {classes : Hierarchy}
    (wellFormed : classes.WellFormed) (growth : table.classes.Extends classes) :
    { table with classes }.Mirrors ∧ table.Extends { table with classes } := by
  have extended : table.Extends { table with classes } := ⟨growth, fun _ _ found => found, rfl⟩
  refine ⟨⟨wellFormed, ?_, mirrors.oneTop, mirrors.oneHost, mirrors.onePinned⟩, extended⟩
  intro id definition found
  exact extended.reflects (mirrors.reflects id definition found)

/-- A definition that reflects what is there and repeats nothing can be added. -/
theorem Mirrors.add (mirrors : table.Mirrors) {added : TypeDef}
    (reflected : table.Reflects (idAt table.definitions.size) added)
    (newTop : added = .top → ∀ id, table.find? id ≠ some .top)
    (newHost : ∀ cls, added.host? = some cls → ∀ id, table.hostAt? id ≠ some cls)
    (newPinned : ∀ value base, added = .literalType value base → value.isHashable = true →
      ∀ id other otherBase, table.find? id = some (.literalType other otherBase) →
        other.isHashable = true → value.eql other = false) :
    (table.add added).2.Mirrors := by
  have growth := extends_add table added
  have hostCases : ∀ {id : TypeId} {cls : ClassId}, (table.add added).2.hostAt? id = some cls →
      id = idAt table.definitions.size ∧ added.host? = some cls ∨
        table.hostAt? id = some cls := by
    intro id cls host
    obtain ⟨definition, found, isHost⟩ := Option.bind_eq_some_iff.mp host
    rcases find?_add_eq_some_iff.mp found with ⟨isAdded, rfl⟩ | older
    · exact Or.inl ⟨isAdded, isHost⟩
    · exact Or.inr (Option.bind_eq_some_iff.mpr ⟨definition, older, isHost⟩)
  refine ⟨mirrors.wellFormed, ?_, ?_, ?_, ?_⟩
  · intro id definition found
    rcases find?_add_eq_some_iff.mp found with ⟨rfl, rfl⟩ | older
    · exact growth.reflects reflected
    · exact growth.reflects (mirrors.reflects id definition older)
  · intro first second firstTop secondTop
    rcases find?_add_eq_some_iff.mp firstTop with ⟨rfl, isTop⟩ | firstOlder
    · rcases find?_add_eq_some_iff.mp secondTop with ⟨rfl, -⟩ | secondOlder
      · rfl
      · exact absurd secondOlder (newTop isTop.symm second)
    · rcases find?_add_eq_some_iff.mp secondTop with ⟨rfl, isTop⟩ | secondOlder
      · exact absurd firstOlder (newTop isTop.symm first)
      · exact mirrors.oneTop first second firstOlder secondOlder
  · intro first second cls firstHost secondHost
    rcases hostCases firstHost with ⟨rfl, isHost⟩ | firstOlder
    · rcases hostCases secondHost with ⟨rfl, -⟩ | secondOlder
      · rfl
      · exact absurd secondOlder (newHost cls isHost second)
    · rcases hostCases secondHost with ⟨rfl, isHost⟩ | secondOlder
      · exact absurd firstOlder (newHost cls isHost first)
      · exact mirrors.oneHost first second cls firstOlder secondOlder
  · intro first second value other base otherBase firstFound secondFound hashable otherHashable
      equal
    rcases find?_add_eq_some_iff.mp firstFound with ⟨rfl, isAdded⟩ | firstOlder
    · rcases find?_add_eq_some_iff.mp secondFound with ⟨rfl, -⟩ | secondOlder
      · rfl
      · have different := newPinned value base isAdded.symm hashable second other otherBase
          secondOlder otherHashable
        exact absurd equal (by simp [different])
    · rcases find?_add_eq_some_iff.mp secondFound with ⟨rfl, isAdded⟩ | secondOlder
      · have different := newPinned other otherBase isAdded.symm otherHashable first value base
          firstOlder hashable
        rw [Value.eql_comm] at different
        exact absurd equal (by simp [different])
      · exact mirrors.onePinned first second value other base otherBase firstOlder secondOlder
          hashable otherHashable equal

theorem find?_empty (openWorld : Bool) (id : TypeId) : (empty openWorld).find? id = none := by
  rw [Option.eq_none_iff_forall_ne_some]
  intro definition found
  obtain ⟨position, -, present⟩ := find?_eq_some_iff.mp found
  simp [empty] at present

theorem empty_mirrors (openWorld : Bool) : (empty openWorld).Mirrors := by
  refine ⟨Hierarchy.builtin_wellFormed, ?_, ?_, ?_, ?_⟩ <;>
    simp [find?_empty, hostAt?]

/-- What a request leaves: a table that still mirrors, in which the types added
stand for classes below the limit. -/
structure Registered (limit : ClassId) (before after : TypeTable) : Prop where
  mirrors : after.Mirrors
  growth : before.Extends after
  classes : after.classes = before.classes
  fresh : ∀ id cls, after.hostAt? id = some cls → before.hostAt? id = some cls ∨ cls < limit

namespace Registered

variable {limit bound : ClassId} {first second third : TypeTable}

theorem refl (mirrors : table.Mirrors) : Registered limit table table :=
  ⟨mirrors, .refl table, rfl, fun _ _ host => .inl host⟩

theorem trans (before : Registered limit first second) (after : Registered limit second third) :
    Registered limit first third := by
  refine ⟨after.mirrors, before.growth.trans after.growth, after.classes.trans before.classes, ?_⟩
  intro id cls host
  rcases after.fresh id cls host with older | isBelow
  · exact before.fresh id cls older
  · exact Or.inr isBelow

private theorem mono (registered : Registered limit first second) (within : limit ≤ bound) :
    Registered bound first second :=
  ⟨registered.mirrors, registered.growth, registered.classes, fun id cls host =>
    (registered.fresh id cls host).imp_right fun isBelow => Nat.lt_of_lt_of_le isBelow within⟩

end Registered

/-! ## The top type and the types of classes -/

theorem topId?_eq_some (found : table.topId? = some id) : table.find? id = some .top := by
  obtain ⟨definition, present, isTop⟩ := find?_of_findId? found
  cases definition with
  | top => exact present
  | classType name supertypes host => cases isTop
  | literalType value base => cases isTop

/-- A name stands for the top type or for a class type of that name. -/
theorem find?_of_lookup? {name : String} (found : table.lookup? name = some id) :
    name = "Top" ∧ table.find? id = some .top ∨
      ∃ supertypes host, table.find? id = some (.classType name supertypes host) := by
  unfold lookup? at found
  split at found
  · rename_i isTop
    exact Or.inl ⟨isTop, topId?_eq_some found⟩
  · obtain ⟨definition, present, named⟩ := find?_of_findId? found
    cases definition with
    | top => cases named
    | literalType value base => cases named
    | classType own supertypes host =>
        have isOwn : own = name := of_decide_eq_true named
        exact Or.inr ⟨supertypes, host, isOwn ▸ present⟩

theorem ensureTop_spec (mirrors : table.Mirrors) (limit : ClassId) :
    Registered limit table table.ensureTop.2 ∧
      table.ensureTop.2.find? table.ensureTop.1 = some .top := by
  unfold ensureTop
  cases found : table.topId? with
  | some id => exact ⟨.refl mirrors, topId?_eq_some found⟩
  | none =>
      have noTop : ∀ id, table.find? id ≠ some .top := fun id isTop => by
        have wrong := findId?_eq_none_iff.mp found id .top isTop
        cases wrong
      refine ⟨⟨?_, extends_add table .top, rfl, ?_⟩, find?_add_self table .top⟩
      · exact mirrors.add trivial (fun _ => noTop) (by simp [TypeDef.host?]) (by simp)
      · intro id cls host
        obtain ⟨definition, present, isHost⟩ := Option.bind_eq_some_iff.mp host
        rcases find?_add_eq_some_iff.mp present with ⟨-, rfl⟩ | older
        · cases isHost
        · exact Or.inl (Option.bind_eq_some_iff.mpr ⟨definition, older, isHost⟩)

theorem newClass_eq_ok_iff {name : String} {supertypes : List TypeId} {host : Option ClassId} :
    table.newClass name supertypes host = .ok (id, later) ↔
      table.definitions.any (TypeDef.isNamed name) = false ∧
      (∀ supertype ∈ supertypes, ∃ definition, table.find? supertype = some definition ∧
        definition.isLiteral = false) ∧
      table.add (.classType name supertypes host) = (id, later) := by
  have checked_iff : ∀ supertype, table.checkSupertype name supertype = .ok () ↔
      ∃ definition, table.find? supertype = some definition ∧ definition.isLiteral = false := by
    intro supertype
    constructor
    · intro checked
      obtain ⟨definition, got, remaining⟩ := Traversal.bind_eq_ok.mp checked
      refine ⟨definition, find?_of_get got, ?_⟩
      cases isLiteral : definition.isLiteral with
      | false => rfl
      | true =>
          rw [isLiteral] at remaining
          cases remaining
    · rintro ⟨definition, found, proper⟩
      simp [checkSupertype, get_of_find? found, proper]
  constructor
  · intro accepted
    unfold newClass at accepted
    split at accepted
    · cases accepted
    · rename_i isNew
      obtain ⟨_, checked, made⟩ := Traversal.bind_eq_ok.mp accepted
      refine ⟨by simpa using isNew, fun supertype isSupertype => ?_, Except.ok.inj made⟩
      exact (checked_iff supertype).mp (Traversal.forall_of_forM checked supertype isSupertype)
  · rintro ⟨isNew, proper, added⟩
    have checked := Traversal.forM_ok fun supertype isSupertype =>
      (checked_iff supertype).mpr (proper supertype isSupertype)
    simp [newClass, isNew, checked, added]

theorem newClass_eq_ok {name : String} {supertypes : List TypeId} {host : Option ClassId}
    (added : table.newClass name supertypes host = .ok (id, later)) :
    (id, later) = table.add (.classType name supertypes host) :=
  (newClass_eq_ok_iff.mp added).2.2.symm

/-- A class type can be added for a class that has none, above the types of its
bases. -/
theorem newClass_registered (mirrors : table.Mirrors) {name : String}
    {supertypes : List TypeId} {cls : ClassId} (known : table.classes.Knows cls)
    (proper : cls ≠ Hierarchy.objectClass) (isNew : ∀ id, table.hostAt? id ≠ some cls)
    (above : ∀ supertype ∈ supertypes, ∃ base ∈ table.classes.bases cls,
      table.hostAt? supertype = some base)
    (bases : ∀ base ∈ table.classes.bases cls, base ≠ Hierarchy.objectClass →
      ∃ supertype ∈ supertypes, table.hostAt? supertype = some base)
    (added : table.newClass name supertypes (some cls) = .ok (id, later)) :
    Registered (cls + 1) table later ∧ later.hostAt? id = some cls := by
  obtain ⟨rfl, rfl⟩ := Prod.mk.inj (newClass_eq_ok added)
  have older : ∀ {supertype : TypeId} {base : ClassId},
      table.hostAt? supertype = some base → supertype < idAt table.definitions.size := by
    intro supertype base host
    obtain ⟨_, _, found⟩ := hostAt?_eq_some_iff.mp host
    have bound := (bounds_of_find? found).2
    exact Int.lt_add_one_of_le bound
  refine ⟨⟨?_, extends_add table _, rfl, ?_⟩, ?_⟩
  · apply mirrors.add
    · refine ⟨cls, rfl, known, proper, ?_, bases⟩
      intro supertype isSupertype
      obtain ⟨base, isBase, host⟩ := above supertype isSupertype
      exact ⟨older host, base, isBase, host⟩
    · simp
    · intro own isOwn
      cases isOwn
      exact isNew
    · simp
  · intro other own host
    obtain ⟨definition, present, isHost⟩ := Option.bind_eq_some_iff.mp host
    rcases find?_add_eq_some_iff.mp present with ⟨-, rfl⟩ | existing
    · cases isHost
      exact Or.inr (Nat.lt_succ_self cls)
    · exact Or.inl (Option.bind_eq_some_iff.mpr ⟨definition, existing, isHost⟩)
  · exact hostAt?_eq_some_iff.mpr ⟨name, supertypes, find?_add_self table _⟩

private theorem ofHost?_eq_some {cls : ClassId} (found : table.ofHost? cls = some id) :
    table.hostAt? id = some cls := by
  obtain ⟨definition, present, isHost⟩ := find?_of_findId? found
  exact Option.bind_eq_some_iff.mpr ⟨definition, present, of_decide_eq_true isHost⟩

theorem ofHost?_eq_none {cls : ClassId} (missing : table.ofHost? cls = none) (id : TypeId) :
    table.hostAt? id ≠ some cls := by
  intro host
  obtain ⟨definition, present, isHost⟩ := Option.bind_eq_some_iff.mp host
  have wrong := findId?_eq_none_iff.mp missing id definition present
  simp [isHost] at wrong

/-- What a request for the type of a class leaves and returns. -/
def Ensures (limit : ClassId) (table : TypeTable) (cls : ClassId) (update : Update TypeId) : Prop :=
  Registered limit table update.2 ∧ ∀ id, update.1 = .ok id → update.2.IsTypeOf cls id

/-- Requests for several classes leave the types of all of them. -/
private theorem forEach_spec (request : TypeTable → ClassId → Update TypeId) (limit : ClassId)
    (hierarchy : Hierarchy) (classes : List ClassId)
    (step : ∀ before, before.Mirrors → before.classes = hierarchy →
      ∀ cls ∈ classes, Ensures limit before cls (request before cls))
    (mirrors : table.Mirrors) (sameClasses : table.classes = hierarchy) :
    Registered limit table (forEach request table classes).2 ∧
      ∀ ids, (forEach request table classes).1 = .ok ids →
        List.Forall₂ (fun id cls => (forEach request table classes).2.IsTypeOf cls id)
          ids classes := by
  induction classes generalizing table with
  | nil => exact ⟨.refl mirrors, by simp [forEach]⟩
  | cons cls rest inductionHypothesis =>
      have first := step table mirrors sameClasses cls (by simp)
      cases requested : request table cls with
      | mk outcome left =>
          rw [requested] at first
          cases outcome with
          | error fault =>
              simp only [forEach, requested]
              exact ⟨first.1, by simp⟩
          | ok id =>
              have others := inductionHypothesis
                (fun before beforeMirrors sameHierarchy other member =>
                  step before beforeMirrors sameHierarchy other (by simp [member]))
                first.1.mirrors (first.1.classes.trans sameClasses)
              simp only [forEach, requested]
              cases walked : forEach request left rest with
              | mk restOutcome final =>
                  rw [walked] at others
                  cases restOutcome with
                  | error fault => exact ⟨first.1.trans others.1, by simp⟩
                  | ok ids =>
                      refine ⟨first.1.trans others.1, fun all isAll => ?_⟩
                      cases isAll
                      exact .cons (others.1.growth.isTypeOf (first.2 id rfl)) (others.2 ids rfl)

/-- The type of a class is added above the types of its bases. -/
private theorem newClass_above_bases {cls : ClassId} {left : TypeTable} {name : String}
    {supertypes : List TypeId} (known : table.classes.Knows cls)
    (notRoot : cls ≠ Hierarchy.objectClass) (missing : ∀ id, table.hostAt? id ≠ some cls)
    (registered : Registered cls table left)
    (types : List.Forall₂ (fun id base => left.IsTypeOf base id) supertypes
      ((table.classes.bases cls).filter (· != Hierarchy.objectClass)))
    (added : left.newClass name supertypes (some cls) = .ok (id, later)) :
    Registered (cls + 1) table later ∧ later.IsTypeOf cls id := by
  have hosts : ∀ {supertype : TypeId} {base : ClassId},
      base ∈ (table.classes.bases cls).filter (· != Hierarchy.objectClass) →
      left.IsTypeOf base supertype →
      base ∈ left.classes.bases cls ∧ left.hostAt? supertype = some base := by
    intro supertype base isBase isType
    obtain ⟨inside, proper⟩ := List.mem_filter.mp isBase
    rw [IsTypeOf, if_neg (by simpa using proper)] at isType
    exact ⟨registered.classes ▸ inside, isType⟩
  have isNew : ∀ id, left.hostAt? id ≠ some cls := by
    intro other host
    rcases registered.fresh other cls host with older | isBelow
    · exact missing other older
    · exact Nat.lt_irrefl cls isBelow
  have above : ∀ supertype ∈ supertypes, ∃ base ∈ left.classes.bases cls,
      left.hostAt? supertype = some base := by
    intro supertype isSupertype
    obtain ⟨base, isBase, isType⟩ := Traversal.exists_of_mem_left types isSupertype
    exact ⟨base, hosts isBase isType⟩
  have bases : ∀ base ∈ left.classes.bases cls, base ≠ Hierarchy.objectClass →
      ∃ supertype ∈ supertypes, left.hostAt? supertype = some base := by
    intro base isBase proper
    have isKept : base ∈ (table.classes.bases cls).filter (· != Hierarchy.objectClass) :=
      List.mem_filter.mpr ⟨registered.classes ▸ isBase, by simpa using proper⟩
    obtain ⟨supertype, isSupertype, isType⟩ := Traversal.exists_of_mem_right types isKept
    exact ⟨supertype, isSupertype, (hosts isKept isType).2⟩
  have spec := newClass_registered registered.mirrors (registered.classes ▸ known) notRoot isNew
    above bases added
  refine ⟨(registered.mono (Nat.le_succ cls)).trans spec.1, ?_⟩
  rw [IsTypeOf, if_neg notRoot]
  exact spec.2

/-- Requests for the bases of a class leave the types of all of them. A base is older than
the class, so what they add stays below it. -/
theorem forEach_bases_spec (mirrors : table.Mirrors) {cls : ClassId} {steps : Nat}
    (step : ∀ {before : TypeTable} {base : ClassId}, before.Mirrors → before.classes.Knows base →
      Ensures (base + 1) before base (ensureClassWithin steps before base))
    {outcome : Except Fault (List TypeId)} {left : TypeTable}
    (walked : forEach (ensureClassWithin steps) table
      ((table.classes.bases cls).filter (· != Hierarchy.objectClass)) = (outcome, left)) :
    Registered cls table left ∧ ∀ ids, outcome = .ok ids →
      List.Forall₂ (fun id base => left.IsTypeOf base id) ids
        ((table.classes.bases cls).filter (· != Hierarchy.objectClass)) := by
  have ensured := forEach_spec (ensureClassWithin steps) cls table.classes
    ((table.classes.bases cls).filter (· != Hierarchy.objectClass))
    (by
      intro before beforeMirrors sameHierarchy base isBase
      obtain ⟨older, baseKnown, -⟩ :=
        mirrors.wellFormed.sublist_of_base (List.mem_of_mem_filter isBase)
      have ensuredBase := step beforeMirrors (sameHierarchy ▸ baseKnown)
      exact ⟨ensuredBase.1.mono older, ensuredBase.2⟩)
    mirrors rfl
  rwa [walked] at ensured

theorem ensureClassWithin_spec (steps : Nat) {cls : ClassId} (mirrors : table.Mirrors)
    (known : table.classes.Knows cls) :
    Ensures (cls + 1) table cls (ensureClassWithin steps table cls) := by
  induction steps generalizing table cls with
  | zero => exact ⟨.refl mirrors, by simp [ensureClassWithin]⟩
  | succ steps inductionHypothesis =>
      unfold ensureClassWithin
      split
      · rename_i isRoot
        obtain ⟨registered, isTop⟩ := ensureTop_spec mirrors (cls + 1)
        refine ⟨registered, fun id isId => ?_⟩
        cases isId
        rw [IsTypeOf, if_pos isRoot]
        exact isTop
      · rename_i notRoot
        cases existing : table.ofHost? cls with
        | some id =>
            refine ⟨.refl mirrors, fun other isOther => ?_⟩
            cases isOther
            rw [IsTypeOf, if_neg notRoot]
            exact ofHost?_eq_some existing
        | none =>
            dsimp only
            cases walked : forEach (ensureClassWithin steps) table
                ((table.classes.bases cls).filter (· != Hierarchy.objectClass)) with
            | mk outcome left =>
                obtain ⟨registered, types⟩ := forEach_bases_spec mirrors inductionHypothesis walked
                cases outcome with
                | error fault => exact ⟨registered.mono (Nat.le_succ cls), by simp⟩
                | ok supertypes =>
                    dsimp only
                    cases added : left.newClass (left.nameForHost cls) supertypes (some cls) with
                    | error fault => exact ⟨registered.mono (Nat.le_succ cls), by simp⟩
                    | ok result =>
                        have spec := newClass_above_bases known notRoot
                          (ofHost?_eq_none existing) registered (types supertypes rfl) added
                        refine ⟨spec.1, fun id isId => ?_⟩
                        cases isId
                        exact spec.2

theorem ensureClass_spec {cls : ClassId} (mirrors : table.Mirrors)
    (known : table.classes.Knows cls) :
    Ensures (cls + 1) table cls (table.ensureClass cls) :=
  ensureClassWithin_spec _ mirrors known

/-! ## Literal types -/

private theorem literalOf?_eq_none {value : Value} {base : TypeId}
    (missing : table.literalOf? value base = none) {other : Value}
    (found : table.find? id = some (.literalType other base)) : other.eql value = false := by
  have wrong := findId?_eq_none_iff.mp missing id _ found
  simpa [TypeDef.isLiteralOf] using wrong

/-- What a request for a literal type leaves and returns. -/
def Pins (before : TypeTable) (value : Value) (update : Update TypeId) : Prop :=
  update.2.Mirrors ∧ before.Extends update.2 ∧
    ∀ id, update.1 = .ok id → ∃ pinned base,
      update.2.find? id = some (.literalType pinned base) ∧ pinned.eql value = true

/-- A literal type can be added over the type of its class if none can stand for it. -/
private theorem add_literal_mirrors (mirrors : table.Mirrors) {value : Value} {base : TypeId}
    (known : table.classes.Knows value.cls) (baseIs : table.IsTypeOf value.cls base)
    (isNew : value.isHashable = true → table.literalOf? value base = none) :
    (table.add (.literalType value base)).2.Mirrors := by
  apply mirrors.add
  · obtain ⟨definition, found⟩ := baseIs.defined
    exact ⟨known, Int.lt_add_one_of_le (bounds_of_find? found).2, baseIs⟩
  · simp
  · simp [TypeDef.host?]
  · rintro own ownBase isOwn hashable other pinned otherBase found -
    cases isOwn
    by_cases sameClass : pinned.cls = value.cls
    · obtain ⟨-, -, pinnedIs⟩ := mirrors.reflects _ _ found
      rw [sameClass] at pinnedIs
      rw [mirrors.isTypeOf_unique pinnedIs baseIs] at found
      rw [Value.eql_comm]
      exact literalOf?_eq_none (isNew hashable) found
    · by_contra equal
      exact sameClass (Value.cls_eq_of_eql (by simpa using equal)).symm

theorem addLiteral_of_isWritable {value : Value} (writable : value.isWritable = true)
    (table : TypeTable) (base : TypeId) :
    table.addLiteral value base = (.ok (table.add (.literalType value base)).1,
      (table.add (.literalType value base)).2) := by
  simp [addLiteral, Value.display, writable]

/-- A value that cannot be written gets no literal type. -/
theorem addLiteral_of_unwritable {value : Value} (unwritable : value.isWritable = false)
    (table : TypeTable) (base : TypeId) :
    table.addLiteral value base = (.error (.unwritable {}), table) := by
  simp [addLiteral, Value.display, unwritable]

theorem newLiteral_spec (mirrors : table.Mirrors) {value : Value}
    (known : table.classes.Knows value.cls) : Pins table value (table.newLiteral value none) := by
  obtain ⟨registered, isType⟩ := ensureClass_spec mirrors known
  unfold newLiteral literalBase
  cases ensured : table.ensureClass value.cls with
  | mk outcome left =>
      rw [ensured] at registered isType
      cases outcome with
      | error fault => exact ⟨registered.mirrors, registered.growth, by simp⟩
      | ok base =>
          have leftKnown : left.classes.Knows value.cls := registered.classes ▸ known
          have baseIs := isType base rfl
          have added : (value.isHashable = true → left.literalOf? value base = none) →
              Pins table value (left.addLiteral value base) := by
            intro isNew
            cases writable : value.isWritable with
            | false =>
                rw [addLiteral_of_unwritable writable]
                exact ⟨registered.mirrors, registered.growth, by simp⟩
            | true =>
                rw [addLiteral_of_isWritable writable]
                refine ⟨add_literal_mirrors registered.mirrors leftKnown baseIs isNew,
                  registered.growth.trans (extends_add left _), fun id isId => ?_⟩
                cases isId
                exact ⟨value, base, find?_add_self left _, value.eql_self⟩
          dsimp only
          split
          · rename_i mutable
            exact added fun hashable => absurd hashable (by simpa using mutable)
          · split
            · exact ⟨registered.mirrors, registered.growth, by simp⟩
            · rename_i id _ existing
              refine ⟨registered.mirrors, registered.growth, fun other isOther => ?_⟩
              cases isOther
              obtain ⟨definition, found, isLiteral⟩ := find?_of_findId? existing
              cases definition with
              | literalType own ownBase =>
                  simp only [TypeDef.isLiteralOf, Bool.and_eq_true] at isLiteral
                  exact ⟨own, ownBase, found, isLiteral.1⟩
              | top => cases isLiteral
              | classType name supertypes host => cases isLiteral
            · rename_i missing
              exact added fun _ => missing

/-! ## Class types with a host class of their own -/

/-- The classes that a new one is derived from, as types: without any the new class
stands below the root. -/
def BasesOf (table : TypeTable) (supertypes : List TypeId) (bases : List ClassId) : Prop :=
  ∃ hosts, List.Forall₂ (fun supertype host => table.hostAt? supertype = some host)
      supertypes hosts ∧ Hierarchy.basesOrRoot bases = Hierarchy.basesOrRoot hosts

theorem BasesOf.mem_cases {supertypes : List TypeId} {bases : List ClassId}
    (basesOf : table.BasesOf supertypes bases) {base : ClassId}
    (isBase : base ∈ Hierarchy.basesOrRoot bases) :
    base = Hierarchy.objectClass ∨
      ∃ supertype ∈ supertypes, table.hostAt? supertype = some base := by
  obtain ⟨hosts, related, same⟩ := basesOf
  rw [same, Hierarchy.basesOrRoot] at isBase
  split at isBase
  · exact Or.inl (by simpa using isBase)
  · exact Or.inr (Traversal.exists_of_mem_right related isBase)

private theorem BasesOf.mem_of_supertype {supertypes : List TypeId} {bases : List ClassId}
    (basesOf : table.BasesOf supertypes bases) {supertype : TypeId}
    (isSupertype : supertype ∈ supertypes) :
    ∃ base ∈ Hierarchy.basesOrRoot bases, table.hostAt? supertype = some base := by
  obtain ⟨hosts, related, same⟩ := basesOf
  obtain ⟨host, isHost, hostIs⟩ := Traversal.exists_of_mem_left related isSupertype
  refine ⟨host, ?_, hostIs⟩
  rw [same, Hierarchy.basesOrRoot, if_neg (List.ne_nil_of_mem isHost)]
  exact isHost

theorem BasesOf.knows {supertypes : List TypeId} {bases : List ClassId} (mirrors : table.Mirrors)
    (basesOf : table.BasesOf supertypes bases) {base : ClassId} (isBase : base ∈ bases) :
    table.classes.Knows base := by
  have isBaseOrRoot : base ∈ Hierarchy.basesOrRoot bases := by
    rw [Hierarchy.basesOrRoot, if_neg (List.ne_nil_of_mem isBase)]
    exact isBase
  rcases basesOf.mem_cases isBaseOrRoot with rfl | ⟨supertype, -, host⟩
  · exact mirrors.wellFormed.root
  · exact (mirrors.knows_of_hostAt? host).1

/-- A class that is made together with its type keeps the mirror. -/
theorem declare_spec (mirrors : table.Mirrors) {home name : String}
    {bases : List ClassId} {supertypes : List TypeId} {cls : ClassId} {classes : Hierarchy}
    (basesOf : table.BasesOf supertypes bases)
    (created : table.classes.create name home bases = .ok (cls, classes))
    (added : { table with classes }.newClass name supertypes (some cls) = .ok (id, later)) :
    later.Mirrors ∧ table.Extends later ∧ later.hostAt? id = some cls := by
  obtain ⟨wellFormed, isNew, basesAre⟩ :=
    Hierarchy.created_spec mirrors.wellFormed (fun _ => basesOf.knows mirrors) created
  obtain ⟨grownMirrors, grown⟩ :=
    mirrors.withClasses wellFormed (Hierarchy.create_extends created)
  have proper : cls ≠ Hierarchy.objectClass := by
    rintro rfl
    exact isNew mirrors.wellFormed.root
  obtain ⟨registered, host⟩ := newClass_registered grownMirrors
    ((Hierarchy.knows_created created).mpr (.inr rfl)) proper
    (fun id host => isNew (mirrors.knows_of_hostAt? host).1)
    (fun supertype isSupertype => by
      rw [basesAre]
      exact basesOf.mem_of_supertype isSupertype)
    (fun base isBase notRoot => by
      rw [basesAre] at isBase
      exact (basesOf.mem_cases isBase).resolve_left notRoot)
    added
  exact ⟨registered.mirrors, grown.trans registered.growth, host⟩

end StaticDispatch.TypeTable
