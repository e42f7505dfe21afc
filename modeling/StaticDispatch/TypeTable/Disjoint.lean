import StaticDispatch.TypeTable.Subtype

/-!
Contract: which static types can share a value, and which values a type has.

In a closed world two unrelated class types are disjoint unless some registered
class type is below both. In an open world they are disjoint only if no host
class can be derived from both.

Owns: disjointness and membership.
Does not own: specializers, which ask these questions.
-/

namespace StaticDispatch.TypeTable

/-- Whether no host class can have these two as its bases, in this order. -/
def noCommonSubclass (table : TypeTable) : Option ClassId → Option ClassId → Bool
  | some first, some second => !table.classes.canDerive [first, second]
  | _, _ => false

/-- Whether a value pinned over `base` lies outside a class type. Without a host
class the value may still belong to a type below its base. -/
def isOutside (table : TypeTable) (value : Value) (base cls : TypeId) : Except Fault Bool := do
  if ← table.isSubtype base cls then
    return false
  match ← table.host? cls with
  | some host => return !value.isInstanceOf table.classes host
  | none => return !(← table.isSubtype cls base)

/-- Whether a registered class type is below both types. -/
def haveCommonClass (table : TypeTable) (first second : TypeId) : Except Fault Bool :=
  table.ids.anyM fun id => do
    if !(← table.get id).isClass then
      return false
    if !(← table.isSubtype id first) then
      return false
    table.isSubtype id second

def isDisjoint (table : TypeTable) (first second : TypeId) : Except Fault Bool := do
  let firstDef ← table.get first
  if firstDef.isTop then
    return false
  let secondDef ← table.get second
  if secondDef.isTop then
    return false
  if ← table.isSubtype first second then
    return false
  if ← table.isSubtype second first then
    return false
  match firstDef, secondDef with
  | .literalType value _, .literalType other _ => return !value.eql other
  | .literalType value base, _ => table.isOutside value base second
  | _, .literalType value base => table.isOutside value base first
  | _, _ =>
      if ← table.haveCommonClass first second then
        return false
      if table.openWorld then
        return table.noCommonSubclass firstDef.host? secondDef.host?
      return true

/-- Whether a value is of a type. A class type must have a host class. -/
def isInstance (table : TypeTable) (value : Value) (id : TypeId) : Except Fault Bool := do
  match ← table.get id with
  | .top => return true
  | .literalType pinned _ => return value.eql pinned
  | .classType name _ none => throw (.noHostClass name)
  | .classType _ _ (some host) => return value.isInstanceOf table.classes host

end StaticDispatch.TypeTable
