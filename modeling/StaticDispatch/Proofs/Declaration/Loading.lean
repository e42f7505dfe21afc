import StaticDispatch.Declaration.World
import StaticDispatch.Proofs.Declaration.Literal
import StaticDispatch.Proofs.Dispatch
import StaticDispatch.Proofs.TypeTable.Registration

/-!
Contract: what holds of every world that is loaded from a text.

The types of a loaded world mirror their host classes in a closed world, and its
methods ask for nothing but plain values and declared classes. Each declaration
keeps this true, so a whole program does.

Owns: the invariant of loaded worlds.
Does not own: call sites.
-/

namespace StaticDispatch

namespace TypeTable

variable {table later : TypeTable} {id : TypeId} {name : String}

/-- A name stands for the top type or for a host class. -/
theorem lookup?_eq_some (mirrors : table.Mirrors) (found : table.lookup? name = some id) :
    table.find? id = some .top ∨ ∃ cls, table.hostAt? id = some cls := by
  rcases find?_of_lookup? found with ⟨-, isTop⟩ | ⟨supertypes, host, present⟩
  · exact Or.inl isTop
  · obtain ⟨cls, rfl, -⟩ := mirrors.standsFor present
    exact Or.inr ⟨cls, hostAt?_eq_some_iff.mpr ⟨_, _, present⟩⟩

private theorem lookup?_cases (mirrors : table.Mirrors) (found : table.lookup? name = some id)
    (notTop : (table.find? id).any (·.isTop) = false) : ∃ cls, table.hostAt? id = some cls := by
  rcases lookup?_eq_some mirrors found with isTop | host
  · simp [isTop, TypeDef.isTop] at notTop
  · exact host

end TypeTable

namespace Declaration

variable {table later : TypeTable} {registry : Registry} {world : World}

private theorem lookup?_of_supertypeIds {name : String} {supertypes : List String}
    {seen ids : List TypeId}
    (looked : supertypeIds table name seen supertypes = .ok ids) {id : TypeId} (inside : id ∈ ids) :
    id ∈ seen ∨ ∃ supertype ∈ supertypes, table.lookup? supertype = some id := by
  induction supertypes generalizing seen with
  | nil =>
      cases looked
      exact Or.inl inside
  | cons supertype rest inductionHypothesis =>
      unfold supertypeIds at looked
      split at looked
      · cases looked
      · rename_i own found
        split at looked
        · cases looked
        · rcases inductionHypothesis looked with older | ⟨other, isOther, otherFound⟩
          · rcases List.mem_append.mp older with isSeen | added
            · exact Or.inl isSeen
            · rw [List.mem_singleton.mp added]
              exact Or.inr ⟨supertype, by simp, found⟩
          · exact Or.inr ⟨other, by simp [isOther], otherFound⟩

/-- The host classes of proper supertypes are the bases of a declared class. -/
private theorem basesOf_proper {proper : List TypeId}
    (hosted : ∀ id ∈ proper, ∃ cls, table.hostAt? id = some cls) :
    List.Forall₂ (fun supertype host => table.hostAt? supertype = some host) proper
      (proper.map fun id => ((table.find? id).bind (·.host?)).getD Hierarchy.objectClass) := by
  rw [List.forall₂_map_right_iff, List.forall₂_same]
  intro id inside
  obtain ⟨cls, host⟩ := hosted id inside
  have bound : (table.find? id).bind (·.host?) = some cls := host
  rw [host, bound, Option.getD_some]

private theorem declareClass_eq_ok {home name : String} {bases : List ClassId}
    {supertypes : List TypeId}
    {id : TypeId} (declared : table.declareClass home name bases supertypes = .ok (id, later)) :
    ∃ cls classes, table.classes.create name home bases = .ok (cls, classes) ∧
      { table with classes }.newClass name supertypes (some cls) = .ok (id, later) := by
  unfold TypeTable.declareClass at declared
  split at declared
  · cases declared
  · rename_i cls classes created
    split at declared
    · cases declared
    · rename_i added isAdded
      cases declared
      exact ⟨cls, classes, created, isAdded⟩

/-- A declared type is added together with a host class below those of its supertypes. -/
theorem declareType_eq_ok (mirrors : table.Mirrors) {decl : TypeDecl}
    (declared : declareType table decl = .ok later) :
    ∃ proper bases cls classes id, table.BasesOf proper bases ∧
      table.classes.create decl.name declaredHome bases = .ok (cls, classes) ∧
      { table with classes }.newClass decl.name proper (some cls) = .ok (id, later) := by
  unfold declareType at declared
  split at declared
  · cases declared
  · obtain ⟨all, allAre, made⟩ := Traversal.bind_eq_ok.mp declared
    dsimp only at made
    have hosted : ∀ id ∈ all.filter (fun id => !(table.find? id).any (·.isTop)),
        ∃ cls, table.hostAt? id = some cls := by
      intro id inside
      obtain ⟨isSupertype, notTop⟩ := List.mem_filter.mp inside
      rcases lookup?_of_supertypeIds allAre isSupertype with isSeen | ⟨supertype, -, found⟩
      · cases isSeen
      · exact TypeTable.lookup?_cases mirrors found (by simpa using notTop)
    generalize all.filter (fun id => !(table.find? id).any (·.isTop)) = proper at hosted made
    have related := basesOf_proper hosted
    generalize (proper.map fun id =>
      ((table.find? id).bind (·.host?)).getD Hierarchy.objectClass) = hosts at related made
    have basesOf : table.BasesOf proper
        (if hosts.isEmpty then [Hierarchy.objectClass] else hosts) := by
      refine ⟨hosts, related, ?_⟩
      cases hosts <;> rfl
    split at made
    · rename_i id left isDeclared
      cases made
      obtain ⟨cls, classes, created, added⟩ := declareClass_eq_ok isDeclared
      exact ⟨proper, _, cls, classes, id, basesOf, created, added⟩
    · cases made
    · cases made

/-- **A declared type has a host class below those of its supertypes.** -/
theorem declareType_spec (mirrors : table.Mirrors) {decl : TypeDecl}
    (declared : declareType table decl = .ok later) : later.Mirrors ∧ table.Extends later := by
  obtain ⟨proper, bases, cls, classes, id, basesOf, created, added⟩ :=
    declareType_eq_ok mirrors declared
  obtain ⟨laterMirrors, growth, -⟩ := TypeTable.declare_spec mirrors basesOf created added
  exact ⟨laterMirrors, growth⟩

structure World.Loaded (world : World) : Prop where
  mirrors : world.table.Mirrors
  closed : world.table.openWorld = false
  builtin : Hierarchy.builtin.Extends world.table.classes
  reached : world.registry.Reached
  nominal : world.registry.Speaks (·.Nominal world.table)
  writable : world.registry.Speaks (·.isWritable = true)

namespace World.Loaded

theorem reject (loaded : world.Loaded) (located : Located) : (world.reject located).Loaded :=
  ⟨loaded.mirrors, loaded.closed, loaded.builtin, loaded.reached, loaded.nominal, loaded.writable⟩

theorem addType (loaded : world.Loaded) (decl : TypeDecl) : (world.addType decl).Loaded := by
  unfold World.addType
  split
  · rename_i table declared
    obtain ⟨mirrors, growth⟩ := declareType_spec loaded.mirrors declared
    refine ⟨mirrors, growth.openWorld.trans loaded.closed, loaded.builtin.trans growth.classes,
      loaded.reached, ?_, loaded.writable⟩
    intro generic isGeneric method isMethod specializer inside
    exact (loaded.nominal generic isGeneric method isMethod specializer inside).extend growth
  · exact loaded.reject _

theorem addGeneric (loaded : world.Loaded) (decl : GenericDecl) :
    (world.addGeneric decl).Loaded := by
  unfold World.addGeneric
  split
  · rename_i registry declared
    obtain ⟨params, -, made⟩ := Traversal.bind_eq_ok.mp declared
    split at made
    · rename_i generic next accepted
      cases made
      exact ⟨loaded.mirrors, loaded.closed, loaded.builtin, .declared loaded.reached accepted,
        Registry.forall_of_declared loaded.nominal (by simp +contextual)
          (Registry.provides_of_declare accepted).grown,
        Registry.forall_of_declared loaded.writable (by simp +contextual)
          (Registry.provides_of_declare accepted).grown⟩
    · cases made
  · exact loaded.reject _

/-- A specializer that a declaration names asks for a scalar or is of a declared class. -/
private theorem nominal_of_specializer (loaded : world.Loaded) {spec : SpecDecl}
    (scalar : spec.IsScalar)
    {specializer : Specializer} (named : spec.specializer world.table = .ok specializer) :
    specializer.Nominal world.table ∧ specializer.isWritable = true := by
  unfold SpecDecl.specializer at named
  split at named
  · cases named
    exact ⟨trivial, rfl⟩
  · rename_i value isExactly
    cases named
    have isScalar := scalar value isExactly
    exact ⟨loaded.builtin.knows isScalar.isPlain, isScalar.isWritable⟩
  · rename_i name isType
    split at named
    · cases named
    · rename_i id found
      cases named
      split
      · exact ⟨trivial, rfl⟩
      · rename_i notTop
        exact ⟨TypeTable.lookup?_cases loaded.mirrors found (by simpa using notTop), rfl⟩

theorem registered (loaded : world.Loaded) {decl : MethodDecl}
    (scalar : ∀ spec ∈ decl.specs, spec.IsScalar) :
    { world with registry := (declareMethod world.table world.registry decl).2 }.Loaded := by
  unfold declareMethod
  split
  · exact loaded
  · cases named : decl.specs.mapM (·.specializer world.table) with
    | error located => exact loaded
    | ok specializers =>
        -- The registry is what registration leaves, whether it is refused or not.
        have left : { world with registry := (world.registry.register decl.generic
            (specializers.map .specializer) { label := decl.label } none none).2 }.Loaded := by
          have proper : ∀ specializer : Specializer,
              Proposal.specializer specializer ∈ specializers.map .specializer →
              specializer.Nominal world.table ∧ specializer.isWritable = true := by
            intro specializer proposed
            obtain ⟨own, inside, same⟩ := List.mem_map.mp proposed
            cases same
            obtain ⟨spec, isSpec, isNamed⟩ :=
              Traversal.exists_of_mem_right (Traversal.mapM_eq_ok_iff.mp named) inside
            exact loaded.nominal_of_specializer (scalar spec isSpec) isNamed
          exact ⟨loaded.mirrors, loaded.closed, loaded.builtin,
            .registered loaded.reached _ _ _ _ _,
            loaded.nominal.register fun specializer proposed => (proper specializer proposed).1,
            loaded.writable.register fun specializer proposed => (proper specializer proposed).2⟩
        dsimp only
        split
        · rename_i method registry answered
          rw [answered] at left
          exact left
        · rename_i fault registry answered
          rw [answered] at left
          exact left

theorem addMethod (loaded : world.Loaded) {decl : MethodDecl}
    (scalar : ∀ spec ∈ decl.specs, spec.IsScalar) : (world.addMethod decl).Loaded := by
  have left := loaded.registered scalar
  unfold World.addMethod
  split
  · rename_i registry declared
    rw [declared] at left
    exact left
  · rename_i located registry declared
    rw [declared] at left
    exact left.reject located

theorem empty (file : Option String) : (World.empty file).Loaded := by
  obtain ⟨registered, -⟩ :=
    TypeTable.ensureTop_spec (TypeTable.empty_mirrors false) Hierarchy.objectClass
  refine ⟨registered.mirrors, registered.growth.openWorld, registered.growth.classes, .empty,
    fun generic isGeneric => ?_, fun generic isGeneric => ?_⟩
  · cases isGeneric
  · cases isGeneric

/-- What single declarations keep, a list of them keeps. -/
theorem foldl {α : Type} {add : World → α → World} {items : List α}
    (kept : ∀ item ∈ items, ∀ {world : World}, world.Loaded → (add world item).Loaded)
    (loaded : world.Loaded) : (items.foldl add world).Loaded := by
  induction items generalizing world with
  | nil => exact loaded
  | cons item rest inductionHypothesis =>
      exact inductionHypothesis (fun other inside => kept other (by simp [inside]))
        (kept item (by simp) loaded)

theorem addProgram (loaded : world.Loaded) {program : Program}
    (scalar : ∀ decl ∈ program.methods, ∀ spec ∈ decl.specs, spec.IsScalar) :
    (world.addProgram program).Loaded := by
  have typed := foldl (fun decl (_ : decl ∈ program.types) _ loaded => addType loaded decl) loaded
  have declared := foldl
    (fun decl (_ : decl ∈ program.generics) _ loaded => addGeneric loaded decl) typed
  exact foldl (fun decl isMethod _ loaded => addMethod loaded (scalar decl isMethod)) declared

/-- **Every loaded world keeps the invariant.** -/
theorem of_load {file : Option String} {text : String}
    (isLoaded : World.load file text = .ok world) : world.Loaded := by
  unfold World.load at isLoaded
  split at isLoaded
  · rename_i program spelled
    cases isLoaded
    exact (empty file).addProgram (Program.isScalar_of_read spelled)
  · cases isLoaded
    have start := empty file
    exact ⟨start.mirrors, start.closed, start.builtin, start.reached, start.nominal, start.writable⟩
  · cases isLoaded

end World.Loaded

/-! ## Growth -/

theorem World.table_addGeneric (world : World) (decl : GenericDecl) :
    (world.addGeneric decl).table = world.table := by
  unfold World.addGeneric
  split <;> rfl

theorem World.table_addMethod (world : World) (decl : MethodDecl) :
    (world.addMethod decl).table = world.table := by
  unfold World.addMethod
  split <;> rfl

private theorem World.table_foldl {α : Type} {add : World → α → World}
    (keeps : ∀ world item, (add world item).table = world.table) (items : List α) (world : World) :
    (items.foldl add world).table = world.table := by
  induction items generalizing world with
  | nil => rfl
  | cons item rest inductionHypothesis =>
      rw [List.foldl_cons, inductionHypothesis, keeps]

/-- Only declarations of types change the table. -/
theorem World.table_addProgram (world : World) (program : Program) :
    (world.addProgram program).table = (program.types.foldl World.addType world).table := by
  rw [World.addProgram, World.table_foldl World.table_addMethod,
    World.table_foldl World.table_addGeneric]

private theorem World.Loaded.extends_addType (loaded : world.Loaded) (decl : TypeDecl) :
    world.table.Extends (world.addType decl).table := by
  unfold World.addType
  split
  · rename_i table declared
    exact (declareType_spec loaded.mirrors declared).2
  · exact .refl world.table

/-- Declarations only add types. -/
private theorem World.Loaded.extends_addProgram (loaded : world.Loaded) (program : Program) :
    world.table.Extends (world.addProgram program).table := by
  have typed : world.table.Extends (program.types.foldl World.addType world).table := by
    generalize program.types = types
    induction types generalizing world with
    | nil => exact .refl world.table
    | cons decl rest inductionHypothesis =>
        exact (loaded.extends_addType decl).trans (inductionHypothesis (loaded.addType decl))
  exact World.table_addProgram world program ▸ typed

/-- **A loaded world has all types of the empty one.** -/
theorem World.extends_of_load {file : Option String} {text : String}
    (isLoaded : World.load file text = .ok world) :
    (World.empty file).table.Extends world.table := by
  unfold World.load at isLoaded
  split at isLoaded
  · rename_i program spelled
    cases isLoaded
    exact (World.Loaded.empty file).extends_addProgram program
  · cases isLoaded
    exact .refl _
  · cases isLoaded

end Declaration

end StaticDispatch
