import StaticDispatch.Registry

/-!
Contract: the methods that a call site may select.

Static types are given in precedence order. Each method is classified place by
place. A method with an inapplicable place can never be selected; the others are
candidates. A candidate is definite if every place is applicable.

Owns: candidates, collecting them, and the two relations between candidates:
one is more specific than another, and both may apply to the same arguments.
Does not own: the order of candidates.
-/

namespace StaticDispatch

/-- A method with its specializers and their classes, both in precedence order. -/
structure Candidate where
  method : Method
  specializers : List Specializer
  classes : List Applicability

namespace Candidate

/-- Why the methods of a function could not be classified. -/
inductive Fault where
  | typeCount (name : String) (expected given : Nat)
  /-- A method has too few specializers for the permutation. -/
  | missingPlace
  | types (fault : TypeTable.Fault)

def Fault.message : Fault → String
  | .typeCount name expected given =>
      s!"'{name}' takes {expected} required argument(s), got {given} static type(s)"
  | .missingPlace => "list index out of range"
  | .types fault => fault.message

def ordinal (candidate : Candidate) : Nat :=
  candidate.method.ordinal

def isDefinite (candidate : Candidate) : Bool :=
  candidate.classes.all (· = .applicable)

def ambiguousPlaces (candidate : Candidate) : List Nat :=
  (candidate.classes.zipIdx.filter (·.1 = .ambiguous)).map (·.2)

/-- The candidate for a method, unless one of its places is inapplicable. -/
def ofMethod? (table : TypeTable) (permutation : List Nat) (types : List TypeId)
    (method : Method) : Except Fault (Option Candidate) :=
  match Precedence.toPrecedence? permutation method.specializers with
  | none => .error .missingPlace
  | some specializers =>
      match (specializers.zip types).mapM fun (specializer, type) =>
          specializer.classify table type with
      | .error fault => .error (.types fault)
      | .ok classes =>
          if classes.contains .inapplicable then
            .ok none
          else
            .ok (some { method, specializers, classes })

def collect (table : TypeTable) (generic : GenericFunction) (permutation : List Nat)
    (types : List TypeId) : Except Fault (List Candidate) :=
  if types.length ≠ generic.arity then
    .error (.typeCount generic.name generic.arity types.length)
  else
    generic.methods.filterMapM (ofMethod? table permutation types)

/-- The first place that decides, of two lists of specializers. -/
def isMoreSpecificAt (table : TypeTable) :
    List (Specializer × Specializer) → Except TypeTable.Fault Bool
  | [] => return false
  | (first, second) :: rest => do
      match ← Specializer.compareAt table first second with
      | .more => return true
      | .less => return false
      | .equal => isMoreSpecificAt table rest
      | .incomparable => isMoreSpecificAt table rest

/-- Places are compared in precedence order, and the first that decides counts. -/
def isMoreSpecific (table : TypeTable) (first second : Candidate) :
    Except TypeTable.Fault Bool :=
  isMoreSpecificAt table (first.specializers.zip second.specializers)

def isCoApplicable (table : TypeTable) (first second : Candidate) :
    Except TypeTable.Fault Bool :=
  (first.specializers.zip second.specializers).allM fun (left, right) =>
    Specializer.mayOverlap table left right

end Candidate

/-- Whether the specializers or the static types say anything at all. -/
def carriesInformation (table : TypeTable) (specializers : List Specializer)
    (types : List TypeId) : Except TypeTable.Fault Bool := do
  let untyped ← types.allM table.isTop
  return !(specializers.all (·.isAny) && untyped)

end StaticDispatch
