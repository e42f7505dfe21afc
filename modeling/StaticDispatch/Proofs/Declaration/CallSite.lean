import StaticDispatch.Declaration.CallSite
import StaticDispatch.Proofs.Declaration.Loading
import StaticDispatch.Proofs.Resolution

/-!
Contract: what reading call sites does to the table of a loaded world.

Reading a call site only adds types, and its static types are types of the table
that it leaves. A session reads call sites and makes host classes in any order; the
table goes on mirroring its host classes and keeps all that was loaded.

Owns: sessions, and the arguments that a loaded world admits.
Does not own: resolution.
-/

namespace StaticDispatch

open Declaration

variable {table later : TypeTable}

namespace CallSite

/-- Reading leaves a table that still mirrors, with all types that were there. -/
structure Reads {α : Type} (before : TypeTable) (read : Except Fault α × TypeTable)
    (defined : α → Prop) : Prop where
  mirrors : read.2.Mirrors
  growth : before.Extends read.2
  types : ∀ result, read.1 = .ok result → defined result

private theorem argType_spec (mirrors : table.Mirrors)
    (builtin : Hierarchy.builtin.Extends table.classes) {arg : ArgDecl} (plain : arg.IsPlain) :
    Reads table (argType table arg) (argType table arg).2.Defines := by
  unfold argType
  split
  · obtain ⟨registered, isTop⟩ := TypeTable.ensureTop_spec mirrors Hierarchy.objectClass
    refine ⟨registered.mirrors, registered.growth, fun id isId => ?_⟩
    cases isId
    exact ⟨_, isTop⟩
  · rename_i value literal
    obtain ⟨leftMirrors, growth, pins⟩ :=
      TypeTable.newLiteral_spec mirrors (builtin.knows (plain value literal))
    refine ⟨leftMirrors, growth, fun id isId => ?_⟩
    obtain ⟨pinned, base, found, -⟩ := pins id (Traversal.mapError_eq_ok.mp isId)
    exact ⟨_, found⟩
  · split
    · exact ⟨mirrors, .refl table, fun id isId => by cases isId⟩
    · rename_i id found
      refine ⟨mirrors, .refl table, fun own isOwn => ?_⟩
      cases isOwn
      rcases TypeTable.lookup?_eq_some mirrors found with isTop | ⟨cls, host⟩
      · exact ⟨_, isTop⟩
      · obtain ⟨_, _, present⟩ := TypeTable.hostAt?_eq_some_iff.mp host
        exact ⟨_, present⟩

private theorem argTypes_spec (mirrors : table.Mirrors)
    (builtin : Hierarchy.builtin.Extends table.classes) {args : List ArgDecl}
    (plain : ∀ arg ∈ args, arg.IsPlain) :
    Reads table (argTypes table args) fun ids =>
      ∀ id ∈ ids, (argTypes table args).2.Defines id := by
  induction args generalizing table with
  | nil =>
      refine ⟨mirrors, .refl table, fun ids isIds => ?_⟩
      cases isIds
      simp
  | cons arg rest inductionHypothesis =>
      have first := argType_spec mirrors builtin (plain arg (by simp))
      unfold argTypes
      cases read : argType table arg with
      | mk outcome left =>
          rw [read] at first
          cases outcome with
          | error fault => exact ⟨first.mirrors, first.growth, fun ids isIds => by cases isIds⟩
          | ok id =>
              have others := inductionHypothesis first.mirrors
                (builtin.trans first.growth.classes)
                fun other inside => plain other (by simp [inside])
              refine ⟨others.mirrors, first.growth.trans others.growth, fun ids isIds => ?_⟩
              obtain ⟨tail, isTail, rfl⟩ := Traversal.map_eq_ok.mp isIds
              intro own inside
              rcases List.mem_cons.mp inside with rfl | inTail
              · obtain ⟨definition, found⟩ := first.types own rfl
                exact ⟨definition, others.growth.definitions _ _ found⟩
              · exact others.types tail isTail own inTail

/-- **The static types of a call site are types of the table that reading leaves.** -/
theorem read_spec (mirrors : table.Mirrors) (builtin : Hierarchy.builtin.Extends table.classes)
    (source : String) :
    Reads table (CallSite.read table source) fun site =>
      ∀ id ∈ site.types, (CallSite.read table source).2.Defines id := by
  unfold CallSite.read
  split
  · exact ⟨mirrors, .refl table, fun site isSite => by cases isSite⟩
  · exact ⟨mirrors, .refl table, fun site isSite => by cases isSite⟩
  · rename_i decl spelled
    have read := argTypes_spec mirrors builtin (CallDecl.isPlain_of_read spelled)
    refine ⟨read.mirrors, read.growth, fun site isSite => ?_⟩
    obtain ⟨types, areTypes, rfl⟩ := Traversal.map_eq_ok.mp isSite
    exact read.types types areTypes

end CallSite

/-- What a table goes through once a text is loaded: call sites are read, and host
classes are made below ones that are there. -/
inductive Session (table : TypeTable) : TypeTable → Prop where
  | start : Session table table
  | read {left : TypeTable} (session : Session table left) (source : String) :
      Session table (CallSite.read left source).2
  | made {left : TypeTable} {name home : String} {bases : List ClassId} {cls : ClassId}
      {classes : Hierarchy} (session : Session table left)
      (known : ∀ base ∈ bases, left.classes.Knows base)
      (created : left.classes.create name home bases = .ok (cls, classes)) :
      Session table { left with classes }

/-- **A session only adds to a table**, which goes on mirroring its classes. -/
theorem Session.spec (session : Session table later) (mirrors : table.Mirrors)
    (builtin : Hierarchy.builtin.Extends table.classes) :
    later.Mirrors ∧ table.Extends later := by
  induction session with
  | start => exact ⟨mirrors, .refl table⟩
  | read session source inductionHypothesis =>
      obtain ⟨leftMirrors, growth⟩ := inductionHypothesis
      have read := CallSite.read_spec leftMirrors (builtin.trans growth.classes) source
      exact ⟨read.mirrors, growth.trans read.growth⟩
  | made session known created inductionHypothesis =>
      obtain ⟨leftMirrors, growth⟩ := inductionHypothesis
      obtain ⟨grownMirrors, grown⟩ := leftMirrors.withClasses
        (Hierarchy.created_spec leftMirrors.wellFormed known created).1
        (Hierarchy.create_extends created)
      exact ⟨grownMirrors, growth.trans grown⟩

namespace Declaration.World

/-- A call site that is read after a text was loaded, maybe with others before it, and the
table that reading leaves. -/
structure Offers (world : World) (table : TypeTable) (site : CallSite) : Prop where
  loaded : ∃ file text, World.load file text = .ok world
  read : ∃ before source, Session world.table before ∧
    CallSite.read before source = (.ok site, table)

def Declares (world : World) (cls : ClassId) : Prop :=
  ∃ id, world.table.hostAt? id = some cls

instance (world : World) (cls : ClassId) : Decidable (world.Declares cls) :=
  decidable_of_iff (∃ id ∈ world.table.ids, world.table.hostAt? id = some cls) <| by
    constructor
    · rintro ⟨id, -, host⟩
      exact ⟨id, host⟩
    · rintro ⟨id, host⟩
      obtain ⟨_, _, found⟩ := TypeTable.hostAt?_eq_some_iff.mp host
      exact ⟨id, TypeTable.mem_ids_iff.mpr ⟨_, found⟩, host⟩

/-- A value of a declared class, or of one that inherits from no declared class. -/
def Admits (world : World) (later : TypeTable) (value : Value) : Prop :=
  world.Declares value.cls ∨
    ∀ ancestor ∈ later.classes.linearization value.cls, ¬ world.Declares ancestor

instance (world : World) (later : TypeTable) (value : Value) :
    Decidable (world.Admits later value) :=
  inferInstanceAs (Decidable (_ ∨ ∀ ancestor ∈ _, ¬ _))

/-- What a loaded world admits, it foresees. -/
theorem Admits.foreseen {world : World} {value : Value} {specializer : Specializer}
    (admitted : world.Admits later value) (growth : world.table.Extends table)
    (laterGrowth : table.Extends later) (mirrors : table.Mirrors)
    (nominal : specializer.Nominal world.table) : specializer.Foreseen table later value := by
  cases specializer with
  | any => trivial
  | exactly wanted => trivial
  | ofType id =>
      rcases admitted with ⟨own, ownHost⟩ | unrelated
      · exact TypeTable.foresees_of_host mirrors laterGrowth (growth.hostAt? ownHost) id
      · intro closed other otherCls cls otherHost host otherAbove above
        obtain ⟨declared, isDeclared⟩ := nominal
        have same := growth.hostAt? isDeclared
        rw [host] at same
        cases same
        exact absurd ⟨id, isDeclared⟩ (unrelated cls above)

end Declaration.World

end StaticDispatch
