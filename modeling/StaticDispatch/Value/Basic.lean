import StaticDispatch.Hierarchy.Basic
import StaticDispatch.Number.Binary64

/-!
Contract: the values that arguments, defaults and specializers hold.

Two equalities are told apart. `same` is the plain one: numbers compare by
value whatever their class, containers item by item, and an object or an
undefined number is the same as itself only. An object of a class that derives
from a class of values is an empty value among others. `eql` also asks for one
class.

Owns: values, their classes, the two equalities, how deep a comparison goes, and
hashability.
Does not own: how values are shown.
-/

namespace StaticDispatch

/-- An instance of a class, known by its identity. -/
structure Instance where
  identity : Nat
  cls : ClassId
  /-- How the instance is shown. -/
  shown : String
  /-- The class of values whose empty value the instance holds. -/
  held : Option ClassId := none
deriving DecidableEq, Repr

/-- A kind of value that has one empty value. -/
inductive EmptyKind where
  | number
  | text
  | bytes
  | tuple
  | list
  | mapping
  | collection
deriving DecidableEq, Repr

def EmptyKind.ofClass? (cls : ClassId) : Option EmptyKind :=
  if cls = Hierarchy.intClass || cls = Hierarchy.floatClass || cls = Hierarchy.complexClass then
    some .number
  else if cls = Hierarchy.strClass then some .text
  else if cls = Hierarchy.bytesClass then some .bytes
  else if cls = Hierarchy.tupleClass then some .tuple
  else if cls = Hierarchy.listClass then some .list
  else if cls = Hierarchy.dictClass || cls = Hierarchy.orderedDictClass then some .mapping
  else if cls = Hierarchy.setClass || cls = Hierarchy.frozensetClass then some .collection
  else none

namespace Instance

def make (hierarchy : Hierarchy) (identity : Nat) (cls : ClassId) : Instance where
  identity := identity
  cls := cls
  shown := hierarchy.instanceText cls
  held := hierarchy.valueClass? cls

def emptyKind? (found : Instance) : Option EmptyKind :=
  found.held.bind EmptyKind.ofClass?

/-- Two empty values of a kind are equal, and any other instance is equal to
itself only. -/
def same (first second : Instance) : Bool :=
  match first.emptyKind?, second.emptyKind? with
  | some left, some right => left = right
  | none, none => first.identity = second.identity
  | _, _ => false

/-- Whether the instance can change, and so cannot be a key. -/
def isMutable (found : Instance) : Bool :=
  found.held.any Hierarchy.isMutable

end Instance

inductive Value where
  | nil
  | bool (value : Bool)
  | int (value : Int)
  | float (value : Number.Binary64)
  | str (value : String)
  | bytes (value : List UInt8)
  | tuple (items : List Value)
  | list (items : List Value)
  | object (value : Instance)

namespace Value

def cls : Value → ClassId
  | .nil => Hierarchy.noneClass
  | .bool _ => Hierarchy.boolClass
  | .int _ => Hierarchy.intClass
  | .float _ => Hierarchy.floatClass
  | .str _ => Hierarchy.strClass
  | .bytes _ => Hierarchy.bytesClass
  | .tuple _ => Hierarchy.tupleClass
  | .list _ => Hierarchy.listClass
  | .object found => found.cls

/-- The value that a built-in class of values makes out of nothing. -/
def initial? (cls : ClassId) : Option Value :=
  [.nil, .bool false, .int 0, .float (.finite false .zero), .str "", .bytes [], .tuple [],
    .list []].find? fun value => value.cls = cls

/-- The value that an instance of a class derived from a class of values holds,
where it can be written without a class. -/
def content? (found : Instance) : Option Value :=
  found.held.bind initial?

def exactNumber? : Value → Option Number.Exact
  | .bool value => some (.ofInt (if value then 1 else 0))
  | .int value => some (.ofInt value)
  | .float value => some value.exact
  | .object found => if found.emptyKind? = some .number then some (.ofInt 0) else none
  | _ => none

/-- The kind of a value that is the empty one of its kind; plain numbers are left
out. -/
def emptyKind? : Value → Option EmptyKind
  | .str "" => some .text
  | .bytes [] => some .bytes
  | .tuple [] => some .tuple
  | .list [] => some .list
  | .object found => found.emptyKind?
  | _ => none

mutual

/-- Plain equality: by number, by kind of empty value, or part by part. -/
def same : Value → Value → Bool
  | .nil, .nil => true
  | .str first, .str second => first = second
  | .bytes first, .bytes second => first = second
  | .tuple first, .tuple second => sameItems first second
  | .list first, .list second => sameItems first second
  | .object first, .object second => first.same second
  | first, second =>
      match first.exactNumber?, second.exactNumber?, first.emptyKind?, second.emptyKind? with
      | some left, some right, _, _ => left = right
      | _, _, some left, some right => left = right
      | _, _, _, _ => false

def sameItems : List Value → List Value → Bool
  | [], [] => true
  | first :: firsts, second :: seconds => same first second && sameItems firsts seconds
  | _, _ => false

end

/-- Equality of values of one class. -/
def eql (first second : Value) : Bool :=
  first.cls = second.cls && same first second

/-- Whether two values are one and the same. Small values are kept once; of the
others only objects and undefined numbers can be met again. -/
def isIdentical : Value → Value → Bool
  | .nil, .nil => true
  | .bool first, .bool second => first = second
  | .int first, .int second => first = second && -5 ≤ first && first ≤ 256
  | .float (.undefined first), .float (.undefined second) => first = second
  | .str first, .str second =>
      first = second && first.length ≤ 1 && first.toList.all fun character => character.toNat < 256
  | .bytes first, .bytes second => first = second && first.length ≤ 1
  | .tuple [], .tuple [] => true
  | .object first, .object second => first.identity = second.identity
  | _, _ => false

mutual

/-- How deep the comparison of two equal values nests. A value is not compared with
itself. -/
def nesting : Value → Value → Nat
  | .tuple [], .tuple [] => 0
  | .tuple firsts, .tuple seconds => nestingOfItems firsts seconds + 1
  | .list firsts, .list seconds => nestingOfItems firsts seconds + 1
  | first, second => if isIdentical first second then 0 else 1

def nestingOfItems : List Value → List Value → Nat
  | first :: firsts, second :: seconds => max (nesting first second) (nestingOfItems firsts seconds)
  | _, _ => 0

end

/-- Lists and other values that can change are refused as keys; the items of a
tuple are not looked at. -/
def isHashable : Value → Bool
  | .list _ => false
  | .object found => !found.isMutable
  | _ => true

mutual

/-- The class of the first part of a value that can change. -/
def mutablePart? : Value → Option ClassId
  | .list _ => some Hierarchy.listClass
  | .tuple items => mutableItem? items
  | .object found => if found.isMutable then some found.cls else none
  | _ => none

def mutableItem? : List Value → Option ClassId
  | [] => none
  | item :: rest => (mutablePart? item).or (mutableItem? rest)

end

/-- Whether the value belongs to a class or to one below it. -/
def isInstanceOf (hierarchy : Hierarchy) (value : Value) (cls : ClassId) : Bool :=
  hierarchy.isSubclass value.cls cls

end Value

end StaticDispatch
