import StaticDispatch.TypeTable.Basic

/-!
Contract: the order of static types.

A class type is below its declared supertypes and below what those are below.
A literal type is below its base; between two literal types the values must be
equal and the bases in order. Everything is below the top type.

Owns: ancestors and the subtype question.
Does not own: disjointness.
-/

namespace StaticDispatch.TypeTable

/-- The types of a list that have not been seen, each once. -/
def unseen (seen : List TypeId) (ids : List TypeId) : List TypeId :=
  (ids.filter fun id => !seen.contains id).eraseDups

/-- Follows supertypes from `frontier` for at most `steps` levels. -/
def ancestorsFrom (table : TypeTable) :
    Nat → List TypeId → List TypeId → Except Fault (List TypeId)
  | 0, seen, _ => .ok seen
  | steps + 1, seen, frontier =>
      if frontier.isEmpty then
        .ok seen
      else do
        let found ← frontier.mapM fun id => (table.get id).map fun found => (id, found)
        let below := found.filter fun (_, definition) => !definition.isTop
        let seen := seen ++ below.map (·.1)
        ancestorsFrom table steps seen (unseen seen (below.flatMap (·.2.supertypes)))

/-- The type itself and every type it was declared below, the top type left
out. Each level reaches a new type, so the size of the table bounds them. -/
def ancestors (table : TypeTable) (id : TypeId) : Except Fault (List TypeId) :=
  table.ancestorsFrom (table.definitions.size + 1) [] [id]

/-- The fault of two literal types whose bases have no end. A comparison inside
another one is the first thing that is too deep, if there is any. -/
def endlessFault (table : TypeTable) (lower upper : TypeId) : Fault :=
  match (table.find? lower).bind (·.pinned?), (table.find? upper).bind (·.pinned?) with
  | some value, some other => .endlessBases (1 < value.nesting other)
  | _, _ => .endlessBases false

/-- The subtype question, following at most `steps` literal bases. -/
def isSubtypeWithin (table : TypeTable) : Nat → TypeId → TypeId → Except Fault Bool
  | 0, lower, upper => .error (table.endlessFault lower upper)
  | steps + 1, lower, upper =>
      if lower = upper then
        .ok true
      else do
        let upperDef ← table.get upper
        if upperDef.isTop then
          return true
        let lowerDef ← table.get lower
        if lowerDef.isTop then
          return false
        match lowerDef, upperDef with
        | .literalType value base, .literalType other otherBase =>
            if value.eql other then
              isSubtypeWithin table steps base otherBase
            else
              return false
        | _, .literalType .. => return false
        | _, _ => return (← table.ancestors lower).contains upper

/-- Whether every value of the lower type is one of the upper type. -/
def isSubtype (table : TypeTable) (lower upper : TypeId) : Except Fault Bool :=
  table.isSubtypeWithin (table.definitions.size + 1) lower upper

end StaticDispatch.TypeTable
