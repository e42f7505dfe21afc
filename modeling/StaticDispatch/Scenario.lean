import StaticDispatch.Registry
import StaticDispatch.TypeTable.Registration

/-!
Contract: worlds built class by class.

A scenario is a type table with a registry in which types and host classes are
reachable by name. Every declared type has a host class of its own; a host class
may also be made without a type.

Owns: scenarios, declaring classes in them, and the example of shapes.
Does not own: worlds that are loaded from a text.
-/

namespace StaticDispatch

structure Scenario where
  table : TypeTable
  registry : Registry := {}
  types : List (String × TypeId)
  classes : List (String × ClassId) := []

namespace Scenario

inductive Fault where
  | unknownName (name : String)
  | host (fault : Hierarchy.Fault)
  | type (fault : TypeTable.Fault)

def empty (openWorld : Bool) : Scenario :=
  let (top, table) := (TypeTable.empty openWorld).ensureTop
  { table, types := [("Top", top)] }

/-- A scenario over what was loaded; its class types are reachable. -/
def ofLoaded (table : TypeTable) (registry : Registry) : Scenario :=
  let declared := table.ids.filterMap fun id =>
    (table.find? id).bind fun found => found.host?.map fun host => (found.name, id, host)
  { table
    registry
    types := (table.topId?.map ("Top", ·)).toList ++ declared.map fun (name, id, _) => (name, id)
    classes := declared.map fun (name, _, host) => (name, host) }

def find {α : Type} (entries : List (String × α)) (name : String) : Except Fault α :=
  match entries.lookup name with
  | some found => .ok found
  | none => .error (.unknownName name)

/-- Makes a host class that is reachable under a label of its own. -/
def makeClass (scenario : Scenario) (home name label : String) (bases : List ClassId) :
    Except Fault Scenario := do
  let (host, classes) ← (scenario.table.classes.create name home bases).mapError .host
  return { scenario with
    table := { scenario.table with classes }
    classes := (label, host) :: scenario.classes }

def home : String := "gfinline.test_support"

/-- Declares a class below others of the scenario. The host class is made before
the supertypes are looked up. -/
def declareClass (scenario : Scenario) (name : String) (supertypes : List String) :
    Except Fault (TypeId × Scenario) := do
  let bases ← supertypes.mapM (find scenario.classes)
  let (host, classes) ← (scenario.table.classes.create name home bases).mapError .host
  let ids ← supertypes.mapM (find scenario.types)
  let (id, table) ←
    ({ scenario.table with classes }.newClass name ids (some host)).mapError .type
  return (id, { scenario with
    table
    types := (name, id) :: scenario.types
    classes := (name, host) :: scenario.classes })

def declareAll (scenario : Scenario) (declarations : List (String × List String)) :
    Except Fault Scenario :=
  declarations.foldlM
    (fun scenario (name, supertypes) => (·.2) <$> scenario.declareClass name supertypes) scenario

/-- Circles and polygons below shapes, with rectangles, squares and triangles. -/
def shapes : Except Fault Scenario :=
  (empty false).declareAll [
    ("Shape", []), ("Circle", ["Shape"]), ("Polygon", ["Shape"]), ("Rect", ["Polygon"]),
    ("Square", ["Rect"]), ("Triangle", ["Polygon"])]

end Scenario

end StaticDispatch
