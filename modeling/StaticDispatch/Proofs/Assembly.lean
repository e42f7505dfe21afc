import StaticDispatch.Proofs.Declaration.Loading
import StaticDispatch.Proofs.Scenario
import StaticDispatch.Proofs.TypeTable.Blanking

/-!
Contract: where the tables of worlds and scenarios come from.

A scenario starts empty or over what a text declares, and goes on step by step. As
long as every literal type stands over the type of its value's class, the table
mirrors its host classes. Literal types over whatever base leave the class types in
step with their host classes.

Owns: regular and assembled scenarios, and their invariants.
Does not own: questions about types.
-/

namespace StaticDispatch.Scenario

open Declaration (World)

/-- A scenario over a table in which no class is reachable by name. -/
def ofTable (table : TypeTable) : Scenario :=
  { table, types := [("Top", 1)] }

variable {scenario next : Scenario}

/-! ## Regular scenarios -/

/-- What a scenario may start from: the top type alone, or what a text declares. -/
inductive Start : Scenario → Prop where
  | empty (openWorld : Bool) : Start (empty openWorld)
  | loaded {file : Option String} {text : String} {world : World}
      (loaded : World.load file text = .ok world) : Start (ofTable world.table)

/-- Scenarios that only took steps since their start, so that every literal type stands
over the type of its value's class. -/
def Regular (scenario : Scenario) : Prop :=
  ∃ start, Start start ∧ Steps start scenario

theorem Start.aligned (start : Start scenario) : scenario.Aligned := by
  cases start with
  | empty openWorld => exact empty_aligned openWorld
  | loaded loaded =>
      refine ⟨(World.Loaded.of_load loaded).mirrors, fun name cls reachable => ?_⟩
      cases reachable

/-- **A regular scenario is aligned**: its table mirrors its host classes. -/
theorem Regular.aligned (regular : scenario.Regular) : scenario.Aligned := by
  obtain ⟨start, isStart, run⟩ := regular
  exact (run.spec isStart.aligned).1

/-! ## Assembled scenarios -/

/-- Scenarios that start empty or over what a text declares. They declare classes and
ask for types of host classes and for literal types, which may stand over any base. -/
inductive Assembled : Scenario → Prop where
  | empty (openWorld : Bool) : Assembled (empty openWorld)
  | loaded {file : Option String} {text : String} {world : World}
      (loaded : World.load file text = .ok world) : Assembled (ofTable world.table)
  | step {scenario next : Scenario} (assembled : Assembled scenario) (step : Step scenario next) :
      Assembled next
  | based {scenario : Scenario} (assembled : Assembled scenario) (value : Value) (base : TypeId) :
      Assembled { scenario with table := (scenario.table.newLiteral value (some base)).2 }

theorem Assembled.steps (assembled : scenario.Assembled) (run : Steps scenario next) :
    next.Assembled := by
  induction run with
  | refl => exact assembled
  | tail _ step inductionHypothesis => exact inductionHypothesis.step step

theorem Assembled.declareAll (assembled : scenario.Assembled)
    {declarations : List (String × List String)}
    (declared : scenario.declareAll declarations = .ok next) : next.Assembled :=
  assembled.steps (.of_declareAll declared)

def blanked (scenario : Scenario) : Scenario :=
  { scenario with table := scenario.table.blanked }

/-- The class types of a scenario mirror the classes that are reachable under their
names. -/
structure ClassesAligned (scenario : Scenario) : Prop where
  aligned : scenario.blanked.Aligned
  top : scenario.table.find? 1 = some .top

theorem ClassesAligned.mirrorsClasses (classes : scenario.ClassesAligned) :
    scenario.table.MirrorsClasses :=
  ⟨classes.aligned.mirrors, classes.top⟩

theorem ClassesAligned.extend (classes : scenario.ClassesAligned) {table : TypeTable}
    (mirrors : table.MirrorsClasses) (growth : scenario.table.blanked.Extends table.blanked) :
    { scenario with table }.ClassesAligned :=
  ⟨classes.aligned.extend mirrors.mirrors growth, mirrors.top⟩

private theorem declareClass_blanked {name : String} {supertypes : List String} {id : TypeId}
    (accepted : scenario.declareClass name supertypes = .ok (id, next)) :
    scenario.blanked.declareClass name supertypes = .ok (id, next.blanked) := by
  obtain ⟨bases, basesAre, remaining⟩ := Traversal.bind_eq_ok.mp accepted
  obtain ⟨⟨cls, classes⟩, created, remaining⟩ := Traversal.bind_eq_ok.mp remaining
  obtain ⟨ids, idsAre, remaining⟩ := Traversal.bind_eq_ok.mp remaining
  obtain ⟨⟨own, table⟩, added, made⟩ := Traversal.bind_eq_ok.mp remaining
  cases made
  have blankAdded := TypeTable.newClass_blanked.mpr
    ⟨table, Traversal.mapError_eq_ok.mp added, rfl⟩
  exact Traversal.bind_eq_ok.mpr ⟨bases, basesAre, Traversal.bind_eq_ok.mpr
    ⟨(cls, classes), created, Traversal.bind_eq_ok.mpr ⟨ids, idsAre, Traversal.bind_eq_ok.mpr
      ⟨(id, table.blanked), Traversal.mapError_eq_ok.mpr blankAdded, rfl⟩⟩⟩⟩

/-- **Each step keeps the class types aligned**, whatever literal types there are. -/
theorem ClassesAligned.step (classes : scenario.ClassesAligned) (step : Step scenario next) :
    next.ClassesAligned := by
  have mirrors := classes.mirrorsClasses
  cases step with
  | declared accepted =>
      obtain ⟨aligned, growth⟩ := classes.aligned.declareClass (declareClass_blanked accepted)
      refine ⟨aligned, TypeTable.find?_blanked_top_iff.mp ?_⟩
      exact growth.definitions _ _ (TypeTable.find?_blanked_top_iff.mpr classes.top)
  | ensured known =>
      obtain ⟨grown, growth⟩ := mirrors.ensureClass known
      exact classes.extend grown growth
  | pinned known =>
      obtain ⟨grown, growth⟩ := mirrors.newLiteral _ none fun _ => known
      exact classes.extend grown growth
  | made known created =>
      obtain ⟨grown, growth⟩ := classes.aligned.mirrors.withClasses
        (Hierarchy.created_spec classes.aligned.mirrors.wellFormed known created).1
        (Hierarchy.create_extends created)
      exact ⟨classes.aligned.extend grown growth, classes.top⟩

private theorem top_first (openWorld : Bool) :
    (TypeTable.empty openWorld).ensureTop.2.find? 1 = some .top := by
  simp [TypeTable.ensureTop, TypeTable.topId?, TypeTable.findId?, TypeTable.empty, TypeTable.add,
    TypeTable.find?]

theorem ClassesAligned.of_assembled (assembled : scenario.Assembled) :
    scenario.ClassesAligned := by
  induction assembled with
  | empty openWorld =>
      have top : (empty openWorld).table.find? 1 = some .top := top_first openWorld
      have aligned := empty_aligned openWorld
      refine ⟨⟨aligned.mirrors.blanked top, fun name cls reachable => ?_⟩, top⟩
      cases reachable
  | loaded loaded =>
      have top := (World.extends_of_load loaded).definitions _ _ (top_first false)
      have mirrors := (World.Loaded.of_load loaded).mirrors
      refine ⟨⟨mirrors.blanked top, fun name cls reachable => ?_⟩, top⟩
      cases reachable
  | step _ step inductionHypothesis => exact inductionHypothesis.step step
  | based _ value base inductionHypothesis =>
      obtain ⟨grown, growth⟩ :=
        inductionHypothesis.mirrorsClasses.newLiteral value (some base) nofun
      exact inductionHypothesis.extend grown growth

end StaticDispatch.Scenario
