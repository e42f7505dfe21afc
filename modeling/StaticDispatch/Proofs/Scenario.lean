import Mathlib.Logic.Relation
import StaticDispatch.Proofs.TypeTable.Registration
import StaticDispatch.Scenario

/-!
Contract: what holds of every scenario that is built class by class.

A scenario declares classes, asks for the types of host classes and for literal
types, and host classes may be made at any time. Each of these steps keeps the
types of the table in step with their host classes, under one name for both, so
every run of steps does.

Owns: the steps of scenarios and their invariant.
Does not own: resolution.
-/

namespace StaticDispatch.Scenario

variable {scenario next later : Scenario}

inductive Step (scenario : Scenario) : Scenario → Prop where
  | declared {next : Scenario} {name : String} {supertypes : List String} {id : TypeId}
      (accepted : scenario.declareClass name supertypes = .ok (id, next)) : Step scenario next
  | ensured {cls : ClassId} (known : scenario.table.classes.Knows cls) :
      Step scenario { scenario with table := (scenario.table.ensureClass cls).2 }
  | pinned {value : Value} (known : scenario.table.classes.Knows value.cls) :
      Step scenario { scenario with table := (scenario.table.newLiteral value none).2 }
  | made {name home : String} {bases : List ClassId} {cls : ClassId} {classes : Hierarchy}
      (known : ∀ base ∈ bases, scenario.table.classes.Knows base)
      (created : scenario.table.classes.create name home bases = .ok (cls, classes)) :
      Step scenario { scenario with table := { scenario.table with classes } }

def Steps : Scenario → Scenario → Prop :=
  Relation.ReflTransGen Step

/-- The classes of a scenario are reachable under the names of their types. -/
structure Aligned (scenario : Scenario) : Prop where
  mirrors : scenario.table.Mirrors
  named : ∀ name cls, scenario.classes.lookup name = some cls →
    ∃ id, scenario.types.lookup name = some id ∧ scenario.table.hostAt? id = some cls

private theorem find_eq_ok {α : Type} {entries : List (String × α)} {name : String} {found : α}
    (looked : find entries name = .ok found) : entries.lookup name = some found := by
  unfold find at looked
  split at looked
  · rename_i own isOwn
    cases looked
    exact isOwn
  · cases looked

/-- What is left of the types does not matter to names that were there. -/
theorem Aligned.extend (aligned : scenario.Aligned) {table : TypeTable} (mirrors : table.Mirrors)
    (growth : scenario.table.Extends table) : { scenario with table }.Aligned := by
  refine ⟨mirrors, fun name cls reachable => ?_⟩
  obtain ⟨id, isType, host⟩ := aligned.named name cls reachable
  exact ⟨id, isType, growth.hostAt? host⟩

/-- The types and the classes of some names belong together. -/
theorem Aligned.basesOf (aligned : scenario.Aligned) {supertypes : List String}
    {bases : List ClassId} {ids : List TypeId}
    (basesAre : supertypes.mapM (find scenario.classes) = .ok bases)
    (idsAre : supertypes.mapM (find scenario.types) = .ok ids) :
    scenario.table.BasesOf ids bases := by
  refine ⟨bases, ?_, rfl⟩
  rw [Traversal.mapM_eq_ok_iff] at basesAre idsAre
  induction basesAre generalizing ids with
  | nil =>
      cases idsAre
      exact .nil
  | cons isBase _ inductionHypothesis =>
      cases idsAre with
      | cons isId rest =>
          obtain ⟨own, isOwn, host⟩ := aligned.named _ _ (find_eq_ok isBase)
          rw [find_eq_ok isId] at isOwn
          cases isOwn
          exact .cons host (inductionHypothesis rest)

theorem Aligned.declareClass (aligned : scenario.Aligned) {name : String}
    {supertypes : List String} {id : TypeId}
    (accepted : scenario.declareClass name supertypes = .ok (id, next)) :
    next.Aligned ∧ scenario.table.Extends next.table := by
  obtain ⟨bases, basesAre, remaining⟩ := Traversal.bind_eq_ok.mp accepted
  obtain ⟨⟨cls, classes⟩, created, remaining⟩ := Traversal.bind_eq_ok.mp remaining
  obtain ⟨ids, idsAre, remaining⟩ := Traversal.bind_eq_ok.mp remaining
  obtain ⟨⟨own, table⟩, added, made⟩ := Traversal.bind_eq_ok.mp remaining
  cases made
  rw [Traversal.mapError_eq_ok] at created added
  obtain ⟨mirrors, growth, host⟩ := TypeTable.declare_spec aligned.mirrors
    (aligned.basesOf basesAre idsAre) created added
  refine ⟨⟨mirrors, fun other otherCls reachable => ?_⟩, growth⟩
  rw [List.lookup_cons] at reachable ⊢
  split at reachable
  · cases reachable
    exact ⟨id, by simp_all, host⟩
  · obtain ⟨otherId, isType, otherHost⟩ := aligned.named other otherCls reachable
    exact ⟨otherId, by simp_all, growth.hostAt? otherHost⟩

/-- **Each step keeps a scenario aligned** and only adds to its table. -/
theorem Step.spec (step : Step scenario next) (aligned : scenario.Aligned) :
    next.Aligned ∧ scenario.table.Extends next.table := by
  cases step with
  | declared accepted => exact aligned.declareClass accepted
  | ensured known =>
      obtain ⟨registered, -⟩ := TypeTable.ensureClass_spec aligned.mirrors known
      exact ⟨aligned.extend registered.mirrors registered.growth, registered.growth⟩
  | pinned known =>
      obtain ⟨mirrors, growth, -⟩ := TypeTable.newLiteral_spec aligned.mirrors known
      exact ⟨aligned.extend mirrors growth, growth⟩
  | made known created =>
      obtain ⟨mirrors, growth⟩ := aligned.mirrors.withClasses
        (Hierarchy.created_spec aligned.mirrors.wellFormed known created).1
        (Hierarchy.create_extends created)
      exact ⟨aligned.extend mirrors growth, growth⟩

/-- **Every run of steps keeps a scenario aligned** and only adds to its table. -/
theorem Steps.spec (steps : Steps scenario later) (aligned : scenario.Aligned) :
    later.Aligned ∧ scenario.table.Extends later.table := by
  induction steps with
  | refl => exact ⟨aligned, .refl scenario.table⟩
  | tail _ step inductionHypothesis =>
      obtain ⟨laterAligned, growth⟩ := inductionHypothesis
      obtain ⟨nextAligned, nextGrowth⟩ := step.spec laterAligned
      exact ⟨nextAligned, growth.trans nextGrowth⟩

theorem Steps.of_declareAll {declarations : List (String × List String)}
    (declared : scenario.declareAll declarations = .ok next) : Steps scenario next := by
  induction declarations generalizing scenario with
  | nil =>
      cases declared
      exact .refl
  | cons declaration rest inductionHypothesis =>
      obtain ⟨middle, first, others⟩ := Traversal.bind_eq_ok.mp declared
      obtain ⟨⟨id, own⟩, accepted, rfl⟩ := Traversal.map_eq_ok.mp first
      exact .head (.declared accepted) (inductionHypothesis others)

theorem empty_aligned (openWorld : Bool) : (empty openWorld).Aligned := by
  obtain ⟨registered, -⟩ :=
    TypeTable.ensureTop_spec (TypeTable.empty_mirrors openWorld) Hierarchy.objectClass
  refine ⟨registered.mirrors, fun name cls reachable => ?_⟩
  cases reachable

theorem openWorld_empty (openWorld : Bool) : (empty openWorld).table.openWorld = openWorld := by
  obtain ⟨registered, -⟩ :=
    TypeTable.ensureTop_spec (TypeTable.empty_mirrors openWorld) Hierarchy.objectClass
  exact registered.growth.openWorld

end StaticDispatch.Scenario
