import StaticDispatch.Proofs.Declaration.CallSite
import StaticDispatch.Proofs.Declaration.LentNames
import StaticDispatch.Proofs.Growth
import StaticDispatch.Proofs.Totality

/-!
Contract: how a call site is resolved does not depend on the call sites before it.

Earlier call sites leave types of literals and of built-in classes in the table and
permutations in the cache. So the static types of a later call site may get other
numbers; each is then the twin of the type that the call site would have had at first,
because it asks the same of a value. No built-in class is below a declared one, so the
types that came in between change no answer about declared types.

Owns: twins, and inliners that visit call sites one after another.
Does not own: what resolutions mean.
-/

namespace StaticDispatch

open Declaration
open TypeTable (Demand LiteralGrowth Meets)

/-! ## Twins -/

inductive TypeDef.SameSense : TypeDef → TypeDef → Prop where
  | top : SameSense .top .top
  | host {name other : String} {supertypes others : List TypeId} {cls : ClassId} :
      SameSense (.classType name supertypes (some cls)) (.classType other others (some cls))
  | pinned {value other : Value} {base otherBase : TypeId} (equal : value.eql other = true) :
      SameSense (.literalType value base) (.literalType other otherBase)

namespace TypeTable

variable {start left first second firstLater secondLater : TypeTable} {id other : TypeId}

/-- Two types of two tables that ask the same of a value. -/
def Twins (first second : TypeTable) (id other : TypeId) : Prop :=
  ∃ definition twin, first.find? id = some definition ∧ second.find? other = some twin ∧
    definition.SameSense twin

theorem Twins.extend (twins : Twins first second id other) (firstGrowth : first.Extends firstLater)
    (secondGrowth : second.Extends secondLater) : Twins firstLater secondLater id other := by
  obtain ⟨definition, twin, found, twinFound, same⟩ := twins
  exact ⟨definition, twin, firstGrowth.definitions _ _ found,
    secondGrowth.definitions _ _ twinFound, same⟩

/-- No built-in class is below a declared one. -/
private theorem LiteralGrowth.haveCommonHost_eq (grown : start.LiteralGrowth left)
    (pristine : start.Pristine) {cls : ClassId} (declared : start.hostAt? id = some cls)
    (otherCls : ClassId) :
    left.haveCommonHost otherCls cls = start.haveCommonHost otherCls cls := by
  rw [Bool.eq_iff_iff]
  refine ⟨fun common => ?_, grown.growth.haveCommonHost pristine.mirrors⟩
  obtain ⟨own, host, isHost, belowOther, below⟩ := haveCommonHost_iff.mp common
  rw [grown.classes] at belowOther below
  obtain ⟨name, supertypes, found⟩ := hostAt?_eq_some_iff.mp isHost
  rcases grown.hosts _ _ _ _ found with older | ⟨known, -⟩
  · exact haveCommonHost_iff.mpr
      ⟨own, host, hostAt?_eq_some_iff.mpr ⟨_, _, older⟩, belowOther, below⟩
  · rw [pristine.builtin.linearization_eq known] at below
    obtain ⟨_, _, declaredFound⟩ := hostAt?_eq_some_iff.mp declared
    exact absurd (Hierarchy.builtin_wellFormed.knows_of_mem below)
      (pristine.declared _ _ _ _ declaredFound).2

theorem LiteralGrowth.excludes_eq (grown : start.LiteralGrowth left) (pristine : start.Pristine)
    {cls : ClassId} (declared : start.hostAt? id = some cls) (demand : Demand) :
    left.excludes demand ⟨cls, none⟩ = start.excludes demand ⟨cls, none⟩ := by
  simp only [excludes, areApart, grown.classes, grown.growth.openWorld,
    grown.haveCommonHost_eq pristine declared]

end TypeTable

namespace TypeDef.SameSense

variable {definition twin : TypeDef}

private theorem isTop_eq (same : definition.SameSense twin) : twin.isTop = definition.isTop := by
  cases same <;> rfl

theorem implies_eq (same : definition.SameSense twin) (classes : Hierarchy) (cls : ClassId) :
    (Demand.ofDef twin).implies classes ⟨cls, none⟩ =
      (Demand.ofDef definition).implies classes ⟨cls, none⟩ := by
  cases same with
  | top => rfl
  | host => rfl
  | pinned equal => simp [Demand.implies, Value.cls_eq_of_eql equal]

theorem excludes_eq (same : definition.SameSense twin) (table : TypeTable) (cls : ClassId) :
    table.excludes (Demand.ofDef twin) ⟨cls, none⟩ =
      table.excludes (Demand.ofDef definition) ⟨cls, none⟩ := by
  cases same with
  | top => rfl
  | host => rfl
  | pinned equal => simp [TypeTable.excludes, Demand.implies, Value.cls_eq_of_eql equal]

end TypeDef.SameSense

open TypeTable (Twins)

namespace TypeTable.LiteralGrowth

variable {start first second : TypeTable}

/-- Literals change no answer about how specializers of declared types compare. -/
theorem comparesAlike (pristine : start.Pristine) (firstGrown : start.LiteralGrowth first)
    (secondGrown : start.LiteralGrowth second) :
    ComparesAlike (·.Nominal start) first second := by
  refine .of_types ?_ ?_ ?_
  · rintro lower upper ⟨lowerCls, lowerHost⟩ ⟨upperCls, upperHost⟩
    obtain ⟨_, _, lowerFound⟩ := hostAt?_eq_some_iff.mp lowerHost
    obtain ⟨_, _, upperFound⟩ := hostAt?_eq_some_iff.mp upperHost
    rw [secondGrown.growth.isSubtype_eq pristine.mirrors secondGrown.mirrors lowerFound
        upperFound,
      firstGrown.growth.isSubtype_eq pristine.mirrors firstGrown.mirrors lowerFound upperFound]
  · rintro id other ⟨cls, host⟩ ⟨otherCls, otherHost⟩
    obtain ⟨_, _, found⟩ := hostAt?_eq_some_iff.mp host
    obtain ⟨_, _, otherFound⟩ := hostAt?_eq_some_iff.mp otherHost
    rw [isDisjoint_eq secondGrown.mirrors (secondGrown.growth.definitions _ _ found)
        (secondGrown.growth.definitions _ _ otherFound),
      isDisjoint_eq firstGrown.mirrors (firstGrown.growth.definitions _ _ found)
        (firstGrown.growth.definitions _ _ otherFound),
      Demand.ofDef_classType, Demand.ofDef_classType, firstGrown.excludes_eq pristine otherHost,
      secondGrown.excludes_eq pristine otherHost]
  · rintro wanted id known ⟨cls, host⟩
    obtain ⟨_, _, found⟩ := hostAt?_eq_some_iff.mp host
    rw [Specializer.valueMayMatch_later secondGrown.growth known found,
      Specializer.valueMayMatch_later firstGrown.growth known found]

/-- A specializer of a declared type classifies twins alike. -/
private theorem classify_twins (pristine : start.Pristine) (firstGrown : start.LiteralGrowth first)
    (secondGrown : start.LiteralGrowth second) {specializer : Specializer} {static other : TypeId}
    (nominal : specializer.Nominal start) (twins : Twins first second static other) :
    specializer.classify second other = specializer.classify first static := by
  obtain ⟨definition, twin, found, twinFound, same⟩ := twins
  cases specializer with
  | any => rfl
  | exactly wanted =>
      rw [Specializer.classify_exactly found, Specializer.classify_exactly twinFound]
      cases same with
      | top => rfl
      | host => rfl
      | pinned equal => simp [Value.eql_comm _ wanted, Value.eql_congr wanted equal]
  | ofType id =>
      obtain ⟨cls, host⟩ := nominal
      obtain ⟨_, _, declared⟩ := hostAt?_eq_some_iff.mp host
      rw [Specializer.classify_ofType firstGrown.mirrors found
          (firstGrown.growth.definitions _ _ declared),
        Specializer.classify_ofType secondGrown.mirrors twinFound
          (secondGrown.growth.definitions _ _ declared),
        Demand.ofDef_classType, firstGrown.excludes_eq pristine host,
        secondGrown.excludes_eq pristine host, firstGrown.classes, secondGrown.classes,
        same.excludes_eq, same.isTop_eq, same.implies_eq]

/-- **Tables grown by literals answer alike** about declared types and twins. -/
theorem answersAcross (pristine : start.Pristine) (firstGrown : start.LiteralGrowth first)
    (secondGrown : start.LiteralGrowth second) :
    AnswersAcross (·.Nominal start) (Twins first second) first second where
  toComparesAlike := firstGrown.comparesAlike pristine secondGrown
  classify := firstGrown.classify_twins pristine secondGrown
  isTop := by
    rintro static other ⟨definition, twin, found, twinFound, same⟩
    rw [isTop, isTop, get_of_find? found, get_of_find? twinFound]
    exact congrArg Except.ok same.isTop_eq
  label := by
    intro specializer nominal
    have isDefined := (nominal.grounded pristine.mirrors).defined
    rw [Specializer.label_later secondGrown.growth isDefined,
      Specializer.label_later firstGrown.growth isDefined]

end TypeTable.LiteralGrowth

/-! ## Reading -/

namespace CallSite

variable {start first second left : TypeTable} {met more : List Value}

/-- A name that is looked up but not declared is the one that a built-in class goes by. -/
theorem lent_of_lookup? (pristine : start.Pristine) (meets : start.Meets met left) {name : String}
    {id : TypeId} (undeclared : start.lookup? name = none) (found : left.lookup? name = some id) :
    ∃ supertypes cls, Hierarchy.builtin.Knows cls ∧ name = start.nameForHost cls ∧
      left.find? id = some (.classType name supertypes (some cls)) := by
  rcases TypeTable.find?_of_lookup? found with ⟨rfl, -⟩ | ⟨supertypes, host, present⟩
  · obtain ⟨top, isTop, -⟩ := (LiteralGrowth.refl pristine).topId?_eq_some pristine
    rw [TypeTable.lookup?, if_pos rfl, isTop] at undeclared
    cases undeclared
  · rcases meets.hosts_cases pristine present with older | ⟨cls, rfl, known, isName, -⟩
    · obtain ⟨_, isDeclared⟩ := TypeTable.exists_lookup? pristine.hasTop older
      rw [undeclared] at isDeclared
      cases isDeclared
    · exact ⟨supertypes, cls, known, isName, present⟩

/-- A name that both tables look up stands for twins. -/
private theorem twins_of_lookup? (pristine : start.Pristine) (firstMeets : start.Meets met first)
    (secondMeets : start.Meets more second) {name : String} {id other : TypeId}
    (found : first.lookup? name = some id) (otherFound : second.lookup? name = some other) :
    Twins first second id other := by
  cases declared : start.lookup? name with
  | some own =>
      have isOwn := firstMeets.grown.growth.lookup? declared
      have isOther := secondMeets.grown.growth.lookup? declared
      rw [found] at isOwn
      rw [otherFound] at isOther
      cases isOwn
      cases isOther
      rcases TypeTable.find?_of_lookup? declared with ⟨-, isTop⟩ | ⟨supertypes, host, present⟩
      · exact ⟨_, _, firstMeets.grown.growth.definitions _ _ isTop,
          secondMeets.grown.growth.definitions _ _ isTop, .top⟩
      · obtain ⟨cls, rfl, -⟩ := pristine.mirrors.standsFor present
        exact ⟨_, _, firstMeets.grown.growth.definitions _ _ present,
          secondMeets.grown.growth.definitions _ _ present, .host⟩
  | none =>
      obtain ⟨_, cls, known, isName, present⟩ := lent_of_lookup? pristine firstMeets declared found
      obtain ⟨_, otherCls, otherKnown, otherName, otherPresent⟩ :=
        lent_of_lookup? pristine secondMeets declared otherFound
      -- No two built-in classes go by one name.
      obtain rfl := pristine.nameForHost_injective known otherKnown (isName.symm.trans otherName)
      exact ⟨_, _, present, otherPresent, .host⟩

private theorem mayName_mono (within : ∀ value ∈ met, value ∈ more) {name : String}
    (named : mayName start met name = true) : mayName start more name = true := by
  simp only [mayName, Bool.or_eq_true, List.any_eq_true] at named ⊢
  rcases named with declared | ⟨value, isMet, lent⟩
  · exact Or.inl declared
  · exact Or.inr ⟨value, within value isMet, lent⟩

/-- The second table has met all literals that the first one has met. -/
def Ahead (start first second : TypeTable) : Prop :=
  ∃ met more, start.Meets met first ∧ start.Meets more second ∧ ∀ value ∈ met, value ∈ more

/-- What reading the same text from two tables gives: twins, in tables that grew alike. -/
structure ReadsTwins (start first second firstLeft secondLeft : TypeTable)
    (ids others : List TypeId) : Prop where
  ahead : Ahead start firstLeft secondLeft
  firstGrowth : first.Extends firstLeft
  secondGrowth : second.Extends secondLeft
  twins : List.Forall₂ (Twins firstLeft secondLeft) ids others

theorem ReadsTwins.append {firstNext secondNext firstLeft secondLeft : TypeTable}
    {ids others moreIds moreOthers : List TypeId}
    (before : ReadsTwins start first second firstNext secondNext ids others)
    (after : ReadsTwins start firstNext secondNext firstLeft secondLeft moreIds moreOthers) :
    ReadsTwins start first second firstLeft secondLeft (ids ++ moreIds) (others ++ moreOthers) where
  ahead := after.ahead
  firstGrowth := before.firstGrowth.trans after.firstGrowth
  secondGrowth := before.secondGrowth.trans after.secondGrowth
  twins := by
    have kept := before.twins.imp fun _ _ twins =>
      twins.extend after.firstGrowth after.secondGrowth
    exact List.rel_append kept after.twins

/-- **An argument that one table accepts** is accepted by a table that is ahead, with a twin
for static type. -/
theorem argType_twins (pristine : start.Pristine) (ahead : Ahead start first second)
    {arg : ArgDecl} (scalar : arg.IsScalar) {id : TypeId}
    (read : argType first arg = (.ok id, left)) :
    ∃ other secondLeft, argType second arg = (.ok other, secondLeft) ∧
      ReadsTwins start first second left secondLeft [id] [other] := by
  obtain ⟨met, more, firstMeets, secondMeets, within⟩ := ahead
  cases isKind : arg.kind with
  | top =>
      obtain ⟨own, step, isTop⟩ := argType_top pristine firstMeets isKind
      obtain ⟨other, otherStep, otherTop⟩ := argType_top pristine secondMeets isKind
      cases read.symm.trans step
      have twins : Twins first second id other := ⟨_, _, isTop, otherTop, .top⟩
      exact ⟨other, second, otherStep, ⟨met, more, firstMeets, secondMeets, within⟩,
        .refl first, .refl second, .cons twins .nil⟩
  | literal value =>
      obtain ⟨own, next, step, nextMeets, growth, pinned, base, found, equal⟩ :=
        argType_literal pristine firstMeets scalar isKind
      obtain ⟨other, secondLeft, otherStep, otherMeets, otherGrowth, otherPinned, otherBase,
          otherFound, otherEqual⟩ := argType_literal pristine secondMeets scalar isKind
      cases read.symm.trans step
      have nextWithin : ∀ own ∈ met ++ [value], own ∈ more ++ [value] := fun own inside =>
        List.mem_append.mpr ((List.mem_append.mp inside).imp_left (within own))
      have same : pinned.eql otherPinned = true :=
        Value.eql_trans equal (Value.eql_comm otherPinned value ▸ otherEqual)
      have twins : Twins left secondLeft id other := ⟨_, _, found, otherFound, .pinned same⟩
      exact ⟨other, secondLeft, otherStep, ⟨_, _, nextMeets, otherMeets, nextWithin⟩,
        growth, otherGrowth, .cons twins .nil⟩
  | ofType name =>
      have step := argType_ofType pristine firstMeets isKind
      have otherStep := argType_ofType pristine secondMeets isKind
      by_cases named : mayName start met name = true
      · rw [if_pos named] at step
        rw [if_pos (mayName_mono within named)] at otherStep
        obtain ⟨own, step, found⟩ := step
        obtain ⟨other, otherStep, otherFound⟩ := otherStep
        cases read.symm.trans step
        have twins := twins_of_lookup? pristine firstMeets secondMeets found otherFound
        exact ⟨other, second, otherStep, ⟨met, more, firstMeets, secondMeets, within⟩,
          .refl first, .refl second, .cons twins .nil⟩
      · rw [if_neg named] at step
        cases read.symm.trans step

private theorem argTypes_cons_eq_ok {table : TypeTable} {arg : ArgDecl} {rest : List ArgDecl}
    {ids : List TypeId} : argTypes table (arg :: rest) = (.ok ids, left) ↔
      ∃ id next tail, argType table arg = (.ok id, next) ∧ argTypes next rest = (.ok tail, left) ∧
        ids = id :: tail := by
  rw [argTypes]
  rcases argType table arg with ⟨_ | id, next⟩
  · simp
  · simp only [Prod.mk.injEq, Traversal.map_eq_ok]
    constructor
    · rintro ⟨⟨tail, isTail, rfl⟩, isLeft⟩
      exact ⟨id, next, tail, ⟨rfl, rfl⟩, Prod.ext isTail isLeft, rfl⟩
    · rintro ⟨own, _, tail, ⟨isOwn, rfl⟩, restRead, rfl⟩
      cases isOwn
      rw [restRead]
      exact ⟨⟨tail, rfl, rfl⟩, rfl⟩

/-- Arguments that one table accepts are accepted by a table that is ahead. -/
private theorem argTypes_twins (pristine : start.Pristine) (ahead : Ahead start first second)
    {args : List ArgDecl} (scalars : ∀ arg ∈ args, arg.IsScalar) {ids : List TypeId}
    (read : argTypes first args = (.ok ids, left)) :
    ∃ others secondLeft, argTypes second args = (.ok others, secondLeft) ∧
      ReadsTwins start first second left secondLeft ids others := by
  induction args generalizing first second ids with
  | nil =>
      cases read
      exact ⟨[], second, rfl, ahead, .refl _, .refl second, .nil⟩
  | cons arg rest inductionHypothesis =>
      obtain ⟨id, next, tail, step, restRead, rfl⟩ := argTypes_cons_eq_ok.mp read
      obtain ⟨other, otherNext, otherStep, before⟩ :=
        argType_twins pristine ahead (scalars arg (by simp)) step
      obtain ⟨others, secondLeft, otherRead, after⟩ := inductionHypothesis before.ahead
        (fun other inside => scalars other (by simp [inside])) restRead
      exact ⟨other :: others, secondLeft,
        argTypes_cons_eq_ok.mpr ⟨other, otherNext, others, otherStep, otherRead, rfl⟩,
        before.append after⟩

/-- **A call site that one table accepts** is accepted by a table that is ahead. -/
theorem read_twins (pristine : start.Pristine) (ahead : Ahead start first second)
    {source : String} {site : CallSite} (read : CallSite.read first source = (.ok site, left)) :
    ∃ twin secondLeft, CallSite.read second source = (.ok twin, secondLeft) ∧
      twin.name = site.name ∧
      ReadsTwins start first second left secondLeft site.types twin.types := by
  cases spelled : CallDecl.read source with
  | error fault => cases fault <;> simp [CallSite.read, spelled] at read
  | ok decl =>
      simp only [CallSite.read, spelled, Prod.mk.injEq] at read
      obtain ⟨types, areTypes, rfl⟩ := Traversal.map_eq_ok.mp read.1
      obtain ⟨others, secondLeft, otherRead, paired⟩ := argTypes_twins pristine ahead
        (CallDecl.isScalar_of_read spelled) (Prod.ext areTypes read.2)
      refine ⟨⟨decl.name, others⟩, secondLeft, ?_, rfl, paired⟩
      simp only [CallSite.read, spelled, otherRead]
      rfl

end CallSite

/-! ## Visits -/

/-- Reads a call site and resolves it if it is accepted. The types that reading added stay,
also if it failed. -/
def Inliner.visit (inliner : Inliner) (source : String) (checks : Option Bool) :
    Option Resolution × Inliner :=
  match CallSite.read inliner.table source with
  | (.error _, table) => (none, { inliner with table })
  | (.ok site, table) =>
      match { inliner with table }.resolve site.name site.types checks with
      | .error _ => (none, { inliner with table })
      | .ok (resolution, next) => (some resolution, next)

/-- Visits call sites one after another, each with its policy on checks. -/
def Inliner.visitAll (inliner : Inliner) (sites : List (String × Option Bool)) : Inliner :=
  sites.foldl (fun inliner site => (inliner.visit site.1 site.2).2) inliner

def Declaration.World.inliner (world : World) (config : Config) : Inliner where
  registry := world.registry
  table := world.table
  config := config

/-- What visits leave of the inliner of a loaded world. -/
structure Visited (world : World) (config : Config) (inliner : Inliner) : Prop where
  registry : inliner.registry = world.registry
  config : inliner.config = config
  faithful : inliner.cache.Faithful
  meets : ∃ met, world.table.Meets met inliner.table

namespace Visited

variable {world : World} {config : Config} {inliner : Inliner} {table : TypeTable}

/-- Over a table grown by literals resolution answers, whatever a faithful cache holds. -/
theorem resolve_answers (loaded : world.Loaded) (grown : world.table.LiteralGrowth table)
    {types : List TypeId}
    (defined : ∀ type ∈ types, table.Defines type)
    (config : Config) (name : String) (checks : Option Bool) :
    ∃ resolution, ∀ cache : Precedence.Cache, cache.Faithful → ∃ next, next.Faithful ∧
      Resolution.resolve world.registry table config cache name types checks =
        .ok (resolution, next) := by
  refine Resolution.resolve_answers grown.mirrors.rooted.whole loaded.reached.wellFormed ?_
    loaded.writable defined config name checks
  intro generic isGeneric method isMethod specializer inside
  have nominal := loaded.nominal generic isGeneric method isMethod specializer inside
  exact ((nominal.extend grown.growth).grounded grown.mirrors).defined.registered

/-- A visit of an accepted call site gives its resolution, and leaves the table that the
reading left. -/
theorem visit_of_read (visited : Visited world config inliner) {source : String} {site : CallSite}
    {checks : Option Bool} {resolution : Resolution}
    (read : CallSite.read inliner.table source = (.ok site, table))
    (answers : ∀ cache : Precedence.Cache, cache.Faithful → ∃ next, next.Faithful ∧
      Resolution.resolve world.registry table config cache site.name site.types checks =
        .ok (resolution, next)) :
    ∃ cache inlined, cache.Faithful ∧
      inliner.visit source checks = (some resolution, { inliner with table, cache, inlined }) := by
  obtain ⟨cache, faithful, resolved⟩ := answers inliner.cache visited.faithful
  refine ⟨cache, Resolution.notified (· + 1) inliner.inlined resolution, faithful, ?_⟩
  simp only [Inliner.visit, read, Inliner.resolve_eq, visited.registry, visited.config, resolved]
  rfl

/-- **One visit** keeps what the visits before it left. -/
theorem visit (loaded : world.Loaded) (pristine : world.table.Pristine)
    (visited : Visited world config inliner) (source : String) (checks : Option Bool) :
    Visited world config (inliner.visit source checks).2 := by
  obtain ⟨met, meets⟩ := visited.meets
  have surveyed := (CallSite.read_survey pristine meets source).1
  have reading := CallSite.read_spec meets.grown.mirrors (meets.grown.builtin pristine) source
  cases read : CallSite.read inliner.table source with
  | mk outcome table =>
      rw [read] at surveyed reading
      cases outcome with
      | error fault =>
          rw [Inliner.visit, read]
          exact ⟨visited.registry, visited.config, visited.faithful, _, surveyed⟩
      | ok site =>
          obtain ⟨resolution, answers⟩ := resolve_answers loaded surveyed.grown
            (reading.types site rfl) config site.name checks
          obtain ⟨cache, inlined, faithful, visitIs⟩ := visited.visit_of_read read answers
          rw [visitIs]
          exact ⟨visited.registry, visited.config, faithful, _, surveyed⟩

/-- **Visits one after another** leave an inliner that knows no more than literals. -/
theorem visitAll (loaded : world.Loaded) (pristine : world.table.Pristine)
    (visited : Visited world config inliner) (sites : List (String × Option Bool)) :
    Visited world config (inliner.visitAll sites) := by
  induction sites generalizing inliner with
  | nil => exact visited
  | cons site rest inductionHypothesis =>
      exact inductionHypothesis (visited.visit loaded pristine site.1 site.2)

theorem fresh (pristine : world.table.Pristine) (config : Config) :
    Visited world config (world.inliner config) :=
  ⟨rfl, rfl, Precedence.Cache.Reached.empty.faithful, [], .refl pristine⟩

end Visited

/-- **The call sites before it do not change how a call site is resolved.** A call site
that a loaded world accepts at first is accepted after any others, whether these were
accepted or not, and its resolution is the same: the same candidates, classifications
and cascade, or the same reason to abstain. -/
theorem resolution_ignores_earlier_sites {file : Option String} {text : String} {world : World}
    (isLoaded : World.load file text = .ok world) (config : Config)
    (earlier : List (String × Option Bool)) (source : String) (checks : Option Bool)
    {site : CallSite} (accepted : (CallSite.read world.table source).1 = .ok site) :
    ∃ later resolution,
      (CallSite.read ((world.inliner config).visitAll earlier).table source).1 = .ok later ∧
      later.name = site.name ∧
      ((world.inliner config).visit source checks).1 = some resolution ∧
      (((world.inliner config).visitAll earlier).visit source checks).1 = some resolution := by
  have loaded := World.Loaded.of_load isLoaded
  have pristine := World.pristine_of_load isLoaded
  have fresh := Visited.fresh pristine config
  have visited := fresh.visitAll loaded pristine earlier
  obtain ⟨met, meets⟩ := visited.meets
  have read : CallSite.read (world.inliner config).table source =
      (.ok site, (CallSite.read world.table source).2) := Prod.ext accepted rfl
  obtain ⟨later, left, laterRead, sameName, paired⟩ :=
    CallSite.read_twins pristine ⟨[], met, .refl pristine, meets, by simp⟩ read
  obtain ⟨_, _, firstMeets, secondMeets, -⟩ := paired.ahead
  have defined := (CallSite.read_spec pristine.mirrors pristine.builtin source).types site accepted
  obtain ⟨resolution, answers⟩ :=
    Visited.resolve_answers loaded firstMeets.grown defined config site.name checks
  have sameAnswers : ∀ cache : Precedence.Cache, cache.Faithful → ∃ next, next.Faithful ∧
      Resolution.resolve world.registry left config cache later.name later.types checks =
        .ok (resolution, next) := by
    intro cache faithful
    rw [sameName, (firstMeets.grown.answersAcross pristine secondMeets.grown).resolve_eq
      loaded.nominal paired.twins]
    exact answers cache faithful
  obtain ⟨_, _, -, freshVisit⟩ := fresh.visit_of_read read answers
  obtain ⟨_, _, -, laterVisit⟩ := visited.visit_of_read laterRead sameAnswers
  exact ⟨later, resolution, by rw [laterRead], sameName, by rw [freshVisit], by rw [laterVisit]⟩

namespace Visiting

def text : String :=
  "type Shape\ngeneric area(shape, unit)\nmethod area(Shape, _) method area(Shape, 1)"

def program : Program where
  types := [⟨"Shape", [], ⟨1, 1⟩⟩]
  generics := [⟨"area", [⟨.plain, some "shape", ⟨2, 14⟩⟩, ⟨.plain, some "unit", ⟨2, 21⟩⟩], none,
    ⟨2, 1⟩⟩]
  methods := [
    ⟨"area", [⟨.ofType "Shape", ⟨3, 13⟩⟩, ⟨.any, ⟨3, 20⟩⟩], ⟨3, 1⟩⟩,
    ⟨"area", [⟨.ofType "Shape", ⟨3, 35⟩⟩, ⟨.exactly (.int 1), ⟨3, 42⟩⟩], ⟨3, 23⟩⟩]

def shapeWorld : World :=
  (World.empty none).addProgram program

private theorem load_shapes : World.load none text = .ok shapeWorld := by
  have read : Program.read text = .ok program := by with_unfolding_all rfl
  rw [World.load, read]
  rfl

def inliner : Inliner :=
  shapeWorld.inliner { enableAll := true }

/-- Two call sites that are resolved, one with an unknown type, and one that breaks off. -/
def earlier : List (String × Option Bool) :=
  [("area(Shape, \"x\")", none), ("area(int, 2)", some true), ("area(", none),
    ("area(?, true)", some false)]

/-- The literal gets another number later, and the call site is inlined as at first. -/
theorem area_visited_alike :
    (CallSite.read inliner.table "area(Shape, 1)").1.toOption = some ⟨"area", [2, 4]⟩ ∧
    (CallSite.read (inliner.visitAll earlier).table "area(Shape, 1)").1.toOption =
      some ⟨"area", [2, 8]⟩ ∧
    ∃ resolution, resolution.isInlined = true ∧
      (inliner.visit "area(Shape, 1)" none).1 = some resolution ∧
      ((inliner.visitAll earlier).visit "area(Shape, 1)" none).1 = some resolution := by
  have accepted : (CallSite.read inliner.table "area(Shape, 1)").1.toOption =
      some ⟨"area", [2, 4]⟩ := by decide +kernel
  have renumbered : (CallSite.read (inliner.visitAll earlier).table "area(Shape, 1)").1.toOption =
      some ⟨"area", [2, 8]⟩ := by
    simp only [Inliner.visitAll, Inliner.visit, Inliner.resolve,
      Resolution.resolveWith, Resolution.ofGenericWith, Candidate.sort,
      Candidate.byOrdinal_eq_insertionSort]
    decide +kernel
  have inlined : (inliner.visit "area(Shape, 1)" none).1.map (·.isInlined) = some true := by
    simp only [Inliner.visit, Inliner.resolve, Resolution.resolveWith,
      Resolution.ofGenericWith, Candidate.sort, Candidate.byOrdinal_eq_insertionSort]
    decide +kernel
  obtain ⟨_, resolution, -, -, first, later⟩ := resolution_ignores_earlier_sites load_shapes
    { enableAll := true } earlier "area(Shape, 1)" none (Traversal.toOption_eq_some.mp accepted)
  obtain ⟨own, isOwn, isInlined⟩ := Option.map_eq_some_iff.mp inlined
  cases isOwn.symm.trans first
  exact ⟨accepted, renumbered, resolution, isInlined, first, later⟩

end Visiting

end StaticDispatch
