import StaticDispatch.Value.Display

/-!
Contract: the table of static types.

Types are numbered from one in the order of their registration. A type is the
top type, a named class type below its declared supertypes, or a literal type
that pins one value below a base. Class types may name the host class whose
instances they hold.

Owns: definitions, the table, and look-ups by number, by name, by host class
and by value.
Does not own: adding types, and the order and disjointness of types.
-/

namespace StaticDispatch

/-- A static type is known by its number in the table. A number may come from
outside, so it need not be one that the table gave out. -/
abbrev TypeId := Int

inductive TypeDef where
  | top
  | classType (name : String) (supertypes : List TypeId) (host : Option ClassId)
  | literalType (value : Value) (base : TypeId)

namespace TypeDef

def name : TypeDef → String
  | .top => "Top"
  | .classType name _ _ => name
  | .literalType value _ => value.spelling

def supertypes : TypeDef → List TypeId
  | .top => []
  | .classType _ supertypes _ => supertypes
  | .literalType _ base => [base]

def host? : TypeDef → Option ClassId
  | .classType _ _ host => host
  | _ => none

def isTop : TypeDef → Bool
  | .top => true
  | _ => false

def isClass : TypeDef → Bool
  | .classType .. => true
  | _ => false

def isLiteral : TypeDef → Bool
  | .literalType .. => true
  | _ => false

def pinned? : TypeDef → Option Value
  | .literalType value _ => some value
  | _ => none

/-- Whether the definition is a class type of the given name. -/
def isNamed (name : String) : TypeDef → Bool
  | .classType own _ _ => own = name
  | _ => false

/-- Whether the definition is a literal type of the value over the base. -/
def isLiteralOf (value : Value) (base : TypeId) : TypeDef → Bool
  | .literalType own ownBase => own.eql value && ownBase = base
  | _ => false

end TypeDef

structure TypeTable where
  /-- The host classes that types and values refer to. -/
  classes : Hierarchy
  /-- In an open world, classes may exist that were never registered. -/
  openWorld : Bool
  definitions : Array TypeDef

namespace TypeTable

/-- What can go wrong in a question about types or in adding one. -/
inductive Fault where
  | undefinedType (id : TypeId)
  | alreadyDefined (name : String)
  | literalSupertype (name literal : String)
  | noHostClass (name : String)
  | unhashable (className : String)
  /-- The bases of two literal types go round for ever. It shows whether the values
  of these types are nested. -/
  | endlessBases (nested : Bool)
  | unwritable (fault : Number.Unwritable)
deriving DecidableEq, Repr

def Fault.message : Fault → String
  | .undefinedType id => toString id
  | .alreadyDefined name => s!"type '{name}' is already defined"
  | .literalSupertype name literal => s!"type '{name}' cannot derive from literal type {literal}"
  | .noHostClass name => s!"type '{name}' has no runtime class to test against"
  | .unhashable className => s!"unhashable type: '{className}'"
  | .endlessBases false => "maximum recursion depth exceeded while calling a Python object"
  | .endlessBases true => "maximum recursion depth exceeded in comparison"
  | .unwritable fault => fault.message

def empty (openWorld : Bool) : TypeTable where
  classes := .builtin
  openWorld := openWorld
  definitions := #[]

def idAt (position : Nat) : TypeId :=
  position + 1

def find? (table : TypeTable) : TypeId → Option TypeDef
  | .ofNat (index + 1) => table.definitions[index]?
  | _ => none

def get (table : TypeTable) (id : TypeId) : Except Fault TypeDef :=
  match table.find? id with
  | some found => .ok found
  | none => .error (.undefinedType id)

def ids (table : TypeTable) : List TypeId :=
  (List.range table.definitions.size).map idAt

def findId? (table : TypeTable) (wanted : TypeDef → Bool) : Option TypeId :=
  (table.definitions.findIdx? wanted).map idAt

def topId? (table : TypeTable) : Option TypeId :=
  table.findId? TypeDef.isTop

/-- A class type by its name. The name `Top` is kept for the top type. -/
def lookup? (table : TypeTable) (name : String) : Option TypeId :=
  if name = "Top" then table.topId? else table.findId? (TypeDef.isNamed name)

def ofHost? (table : TypeTable) (host : ClassId) : Option TypeId :=
  table.findId? fun definition => definition.host? = some host

def literalOf? (table : TypeTable) (value : Value) (base : TypeId) : Option TypeId :=
  table.findId? (TypeDef.isLiteralOf value base)

def name (table : TypeTable) (id : TypeId) : Except Fault String :=
  (table.get id).map TypeDef.name

def isTop (table : TypeTable) (id : TypeId) : Except Fault Bool :=
  (table.get id).map TypeDef.isTop

def host? (table : TypeTable) (id : TypeId) : Except Fault (Option ClassId) :=
  (table.get id).map TypeDef.host?

def pinned? (table : TypeTable) (id : TypeId) : Except Fault (Option Value) :=
  (table.get id).map TypeDef.pinned?

/-- The table with one more type, which gets the next number. -/
def add (table : TypeTable) (definition : TypeDef) : TypeId × TypeTable :=
  (idAt table.definitions.size,
    { table with definitions := table.definitions.push definition })

end TypeTable

end StaticDispatch
