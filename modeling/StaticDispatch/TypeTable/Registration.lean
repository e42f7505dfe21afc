import StaticDispatch.TypeTable.Basic

/-!
Contract: adding static types to a table.

A request that fails may have added other types on the way: the supertypes of a
class whose own name is taken, or the base of a value that cannot be a key or
cannot be written.
Such requests return the table they leave beside their outcome.

Owns: the top type, class types, types for host classes, literal types, and
class types with a host class of their own.
Does not own: questions about types.
-/

namespace StaticDispatch.TypeTable

abbrev Update (α : Type) := Except Fault α × TypeTable

/-- The top type, added on first use. -/
def ensureTop (table : TypeTable) : TypeId × TypeTable :=
  match table.topId? with
  | some id => (id, table)
  | none => table.add .top

/-- Refuses a supertype that is not defined or is a literal type. -/
def checkSupertype (table : TypeTable) (name : String) (id : TypeId) : Except Fault Unit := do
  let found ← table.get id
  if found.isLiteral then
    throw (.literalSupertype name found.name)

/-- Adds a class type. Its name must be new and its supertypes no literals. -/
def newClass (table : TypeTable) (name : String) (supertypes : List TypeId)
    (host : Option ClassId) : Except Fault (TypeId × TypeTable) := do
  if table.definitions.any (TypeDef.isNamed name) then
    throw (.alreadyDefined name)
  supertypes.forM (table.checkSupertype name)
  return table.add (.classType name supertypes host)

/-- The name a host class gets in the table: the full one if the short is taken. -/
def nameForHost (table : TypeTable) (host : ClassId) : String :=
  let short := table.classes.className host
  if table.definitions.any (TypeDef.isNamed short) then table.classes.fullName host else short

/-- Does one request after another, up to the first that fails. -/
def forEach {α : Type} (request : TypeTable → α → Update TypeId) :
    TypeTable → List α → Update (List TypeId)
  | table, [] => (.ok [], table)
  | table, item :: rest =>
      match request table item with
      | (.error fault, left) => (.error fault, left)
      | (.ok id, left) =>
          match forEach request left rest with
          | (.error fault, final) => (.error fault, final)
          | (.ok ids, final) => (.ok (id :: ids), final)

/-- The type of a host class, its bases first, to a depth of `steps`. -/
def ensureClassWithin : Nat → TypeTable → ClassId → Update TypeId
  | 0, table, _ => (.error (.endlessBases false), table)
  | steps + 1, table, host =>
      if host = Hierarchy.objectClass then
        let (id, left) := table.ensureTop
        (.ok id, left)
      else
        match table.ofHost? host with
        | some id => (.ok id, table)
        | none =>
            let bases := (table.classes.bases host).filter (· != Hierarchy.objectClass)
            match forEach (ensureClassWithin steps) table bases with
            | (.error fault, left) => (.error fault, left)
            | (.ok supertypes, left) =>
                match left.newClass (left.nameForHost host) supertypes (some host) with
                | .error fault => (.error fault, left)
                | .ok (id, final) => (.ok id, final)

/-- The type of a host class, added with its bases on first use. The root of
the hierarchy is the top type. Bases are older than the class itself. -/
def ensureClass (table : TypeTable) (host : ClassId) : Update TypeId :=
  ensureClassWithin (table.classes.classes.size + 1) table host

/-- The base of a literal type: the one given, else the type of the value's class. -/
def literalBase (table : TypeTable) (value : Value) : Option TypeId → Update TypeId
  | some base => (.ok base, table)
  | none => table.ensureClass value.cls

/-- Adds a literal type. It is named by the text of its value. -/
def addLiteral (table : TypeTable) (value : Value) (base : TypeId) : Update TypeId :=
  match value.display with
  | .error fault => (.error (.unwritable fault), table)
  | .ok _ =>
      let (id, grown) := table.add (.literalType value base)
      (.ok id, grown)

/-- The type that pins a value. An equal value over the same base gets the same
type, unless the value can change. -/
def newLiteral (table : TypeTable) (value : Value) (base : Option TypeId) : Update TypeId :=
  match table.literalBase value base with
  | (.error fault, left) => (.error fault, left)
  | (.ok base, left) =>
      if !value.isHashable then
        left.addLiteral value base
      else
        match value.mutablePart?, left.literalOf? value base with
        | some cls, _ => (.error (.unhashable (left.classes.messageName cls)), left)
        | none, some id => (.ok id, left)
        | none, none => left.addLiteral value base

/-- A class type with a host class of its own fails in one of two ways. -/
inductive DeclareFault where
  | host (fault : Hierarchy.Fault)
  | type (fault : Fault)
deriving DecidableEq, Repr

/-- Makes a host class with the given bases and a class type for it. -/
def declareClass (table : TypeTable) (home name : String) (bases : List ClassId)
    (supertypes : List TypeId) : Except DeclareFault (TypeId × TypeTable) :=
  match table.classes.create name home bases with
  | .error fault => .error (.host fault)
  | .ok (host, classes) =>
      match { table with classes }.newClass name supertypes (some host) with
      | .error fault => .error (.type fault)
      | .ok added => .ok added

end StaticDispatch.TypeTable
