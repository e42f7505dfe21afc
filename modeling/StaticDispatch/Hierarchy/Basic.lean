import StaticDispatch.Hierarchy.Linearization
import StaticDispatch.Text.Utf8

/-!
Contract: the classes of the host language and how new ones are made.

A class has bases, a linearization that starts with itself, and a layout: the
class that fixes how its instances are stored. A new class is refused when a
base is sealed, when two bases have unrelated layouts, when its name holds a null
character, when a base is listed twice, or when the linearizations of the bases
cannot be merged.

Owns: the hierarchy, the built-in classes, subclassing and class creation.
Does not own: the static types that stand for classes.
-/

namespace StaticDispatch

structure HostClass where
  name : String
  /-- Where the class was defined; part of its full name. -/
  home : String
  bases : List ClassId
  linearization : List ClassId
  layout : ClassId
  /-- A sealed class cannot be a base. -/
  isSealed : Bool := false
deriving DecidableEq, Repr

structure Hierarchy where
  classes : Array HostClass
deriving DecidableEq, Repr

namespace Hierarchy

def objectClass : ClassId := 0
def intClass : ClassId := 1
def boolClass : ClassId := 2
def strClass : ClassId := 3
def floatClass : ClassId := 4
def complexClass : ClassId := 5
def bytesClass : ClassId := 6
def tupleClass : ClassId := 7
def listClass : ClassId := 8
def dictClass : ClassId := 9
def setClass : ClassId := 10
def frozensetClass : ClassId := 11
def noneClass : ClassId := 12
def baseExceptionClass : ClassId := 13
def exceptionClass : ClassId := 14
def lookupErrorClass : ClassId := 15
def keyErrorClass : ClassId := 16
def valueErrorClass : ClassId := 17
def orderedDictClass : ClassId := 18

/-- A built-in class directly below the root, with a layout of its own. -/
def builtinClass (id : ClassId) (name : String) : HostClass where
  name := name
  home := "builtins"
  bases := [objectClass]
  linearization := [id, objectClass]
  layout := id

/-- The hierarchy that every program starts from. -/
def builtin : Hierarchy where
  classes := #[
    { name := "object", home := "builtins", bases := [], linearization := [objectClass],
      layout := objectClass },
    builtinClass intClass "int",
    { name := "bool", home := "builtins", bases := [intClass],
      linearization := [boolClass, intClass, objectClass], layout := boolClass,
      isSealed := true },
    builtinClass strClass "str",
    builtinClass floatClass "float",
    builtinClass complexClass "complex",
    builtinClass bytesClass "bytes",
    builtinClass tupleClass "tuple",
    builtinClass listClass "list",
    builtinClass dictClass "dict",
    builtinClass setClass "set",
    builtinClass frozensetClass "frozenset",
    { builtinClass noneClass "NoneType" with isSealed := true },
    builtinClass baseExceptionClass "BaseException",
    { name := "Exception", home := "builtins", bases := [baseExceptionClass],
      linearization := [exceptionClass, baseExceptionClass, objectClass],
      layout := baseExceptionClass },
    { name := "LookupError", home := "builtins", bases := [exceptionClass],
      linearization := [lookupErrorClass, exceptionClass, baseExceptionClass, objectClass],
      layout := baseExceptionClass },
    { name := "KeyError", home := "builtins", bases := [lookupErrorClass],
      linearization :=
        [keyErrorClass, lookupErrorClass, exceptionClass, baseExceptionClass, objectClass],
      layout := baseExceptionClass },
    { name := "ValueError", home := "builtins", bases := [exceptionClass],
      linearization := [valueErrorClass, exceptionClass, baseExceptionClass, objectClass],
      layout := baseExceptionClass },
    { name := "OrderedDict", home := "collections", bases := [dictClass],
      linearization := [orderedDictClass, dictClass, objectClass],
      layout := orderedDictClass }]

def find? (hierarchy : Hierarchy) (id : ClassId) : Option HostClass :=
  hierarchy.classes[id]?

/-- The class itself, then its ancestors, nearest first. -/
def linearization (hierarchy : Hierarchy) (id : ClassId) : List ClassId :=
  ((hierarchy.find? id).map (·.linearization)).getD []

def layout (hierarchy : Hierarchy) (id : ClassId) : ClassId :=
  ((hierarchy.find? id).map (·.layout)).getD objectClass

def isSealed (hierarchy : Hierarchy) (id : ClassId) : Bool :=
  ((hierarchy.find? id).map (·.isSealed)).getD false

def className (hierarchy : Hierarchy) (id : ClassId) : String :=
  ((hierarchy.find? id).map (·.name)).getD ""

def fullName (hierarchy : Hierarchy) (id : ClassId) : String :=
  ((hierarchy.find? id).map fun found => found.home ++ "." ++ found.name).getD ""

/-- The bytes that a message about an instance has for the name of its class. -/
def nameLimit : Nat := 200

/-- The name of a class in messages about its instances. A built-in class from
elsewhere goes by its full name. -/
def messageName (hierarchy : Hierarchy) (id : ClassId) : String :=
  Text.Utf8.clip nameLimit
    (if id = orderedDictClass then hierarchy.fullName id else hierarchy.className id)

def bases (hierarchy : Hierarchy) (id : ClassId) : List ClassId :=
  ((hierarchy.find? id).map (·.bases)).getD []

def isSubclass (hierarchy : Hierarchy) (lower upper : ClassId) : Bool :=
  (hierarchy.linearization lower).contains upper

/-- The part of a name behind its last dot. -/
def shortName (name : String) : String :=
  String.ofList (name.toList.reverse.takeWhile (· ≠ '.')).reverse

/-- The built-in classes whose instances hold a value. -/
def valueClasses : List ClassId := [
  intClass, strClass, floatClass, complexClass, bytesClass, tupleClass, listClass, dictClass,
  setClass, frozensetClass, orderedDictClass]

/-- The class of values that a class is or derives from. A class that derives from
one makes its instances out of nothing, so they hold the empty value. -/
def valueClass? (hierarchy : Hierarchy) (id : ClassId) : Option ClassId :=
  (hierarchy.linearization id).find? valueClasses.contains

/-- The classes whose values can change and so cannot be keys. -/
def isMutable (id : ClassId) : Bool :=
  id = listClass || id = dictClass || id = setClass || id = orderedDictClass

/-- How the empty value of a built-in class is shown, as an instance of a class
of the given name. Exceptions are shown without arguments. -/
def emptyText? (name : String) (id : ClassId) : Option String :=
  if id = intClass then some "0"
  else if id = floatClass then some "0.0"
  else if id = complexClass then some "0j"
  else if id = strClass then some "\x27\x27"
  else if id = bytesClass then some "b\x27\x27"
  else if id = tupleClass then some "()"
  else if id = listClass then some "[]"
  else if id = setClass || id = frozensetClass then some (name ++ "()")
  else if id = orderedDictClass then some (shortName name ++ "()")
  else if id = dictClass then some "\x7b\x7d"
  else if id = baseExceptionClass then some (shortName name ++ "()")
  else none

/-- How an instance of a class is shown: below a built-in class of values as the
empty one, any other by the full name of its class. -/
def instanceText (hierarchy : Hierarchy) (id : ClassId) : String :=
  match hierarchy.find? id with
  | none => "<object>"
  | some found =>
      match found.linearization.findSome? (emptyText? found.name) with
      | some text => text
      | none =>
          if found.home = "builtins" then
            s!"<{found.name} object>"
          else
            s!"<{found.home}.{found.name} object>"

inductive Fault where
  | sealedBase (name : String)
  | layoutConflict
  | nullInName
  | duplicateBase (name : String)
  /-- The linearizations cannot be merged, and these classes are left. -/
  | inconsistent (heads : List String)
deriving DecidableEq, Repr

/-- The bytes that a report on linearizations has room for. -/
def reportLimit : Nat := 999

/-- A report cut to the room it has. One that is cut inside a character is lost. -/
def cutReport (report : String) : String :=
  match Text.Utf8.decode (report.toUTF8.toList.take reportLimit) with
  | .ok characters => String.ofList characters
  | .error _ => ""

def Fault.message : Fault → String
  | .sealedBase name => s!"type '{name}' is not an acceptable base type"
  | .layoutConflict => "multiple bases have instance lay-out conflict"
  | .nullInName => "type name must not contain null characters"
  | .duplicateBase name => s!"duplicate base class {name}"
  | .inconsistent heads =>
      cutReport ("Cannot create a consistent method resolution\norder (MRO) for bases " ++
        String.intercalate ", " heads)

/-- The most derived layout of the bases, found from the left. -/
def combineLayouts (hierarchy : Hierarchy) : ClassId → List ClassId → Except Fault ClassId
  | winner, [] => .ok winner
  | winner, base :: rest =>
      let candidate := hierarchy.layout base
      if hierarchy.isSealed base then
        .error (.sealedBase (hierarchy.className base))
      else if hierarchy.isSubclass winner candidate then
        combineLayouts hierarchy winner rest
      else if hierarchy.isSubclass candidate winner then
        combineLayouts hierarchy candidate rest
      else
        .error .layoutConflict

def repeatedBase? : List ClassId → Option ClassId
  | [] => none
  | base :: rest => if rest.contains base then some base else repeatedBase? rest

/-- The ancestors of a class with the given bases, nearest first. -/
def ancestorsOf (hierarchy : Hierarchy) (bases : List ClassId) : Except Fault (List ClassId) :=
  match Linearization.merge (bases.map hierarchy.linearization ++ [bases]) with
  | .ok ancestors => .ok ancestors
  | .error heads => .error (.inconsistent (heads.map hierarchy.className))

/-- What a class with the given bases inherits: its layout and its ancestors. -/
def inherit (hierarchy : Hierarchy) (bases : List ClassId) :
    Except Fault (ClassId × List ClassId) := do
  let layout ← hierarchy.combineLayouts objectClass bases
  match repeatedBase? bases with
  | some base => .error (.duplicateBase (hierarchy.className base))
  | none =>
      let ancestors ← hierarchy.ancestorsOf bases
      return (layout, ancestors)

/-- Whether some class could have exactly these bases, in this order. -/
def canDerive (hierarchy : Hierarchy) (bases : List ClassId) : Bool :=
  (hierarchy.inherit bases).isOk

/-- The built-in classes whose instances vary in size. What a class adds to one
of them changes how its instances are stored. -/
def variesInSize (id : ClassId) : Bool :=
  id = intClass || id = bytesClass || id = tupleClass

/-- Makes a class; without bases it stands directly below the root. -/
def create (hierarchy : Hierarchy) (name home : String) (bases : List ClassId) :
    Except Fault (ClassId × Hierarchy) := do
  let bases := if bases = [] then [objectClass] else bases
  if name.toList.contains '\x00' then
    -- The bases are laid out before the name is looked at.
    let _ ← hierarchy.combineLayouts objectClass bases
    throw .nullInName
  let (layout, ancestors) ← hierarchy.inherit bases
  let id := hierarchy.classes.size
  let made : HostClass := {
    name, home, bases
    linearization := id :: ancestors
    layout := if variesInSize layout then id else layout }
  return (id, { classes := hierarchy.classes.push made })

end Hierarchy

end StaticDispatch
