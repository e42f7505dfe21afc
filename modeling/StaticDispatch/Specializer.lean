import StaticDispatch.TypeTable.Disjoint

/-!
Contract: what one method asks of one argument.

A specializer matches every value, the values of a type, or the values equal to
a given one. Against the static type of an argument it is applicable, not
applicable, or undecided. A type alone never rules out an exact value.

Owns: specializers, their classification, comparison, overlap and matching, and
their labels.
Does not own: methods, which have one specializer for each required parameter.
-/

namespace StaticDispatch

inductive Applicability where
  | applicable
  | inapplicable
  | ambiguous
deriving DecidableEq, Repr

def Applicability.text : Applicability → String
  | .applicable => "applicable"
  | .inapplicable => "inapplicable"
  | .ambiguous => "ambiguous"

/-- The first specializer is more specific than the second, or less, or equal to
it, or neither. -/
inductive Specificity where
  | more
  | less
  | equal
  | incomparable
deriving DecidableEq, Repr

def Specificity.text : Specificity → String
  | .more => "more"
  | .less => "less"
  | .equal => "equal"
  | .incomparable => "incomparable"

inductive Specializer where
  | any
  | ofType (id : TypeId)
  | exactly (value : Value)

namespace Specializer

open TypeTable (Fault)

def isAny : Specializer → Bool
  | .any => true
  | _ => false

/-- Equality of specializers; exact values compare as values of one class. -/
def eql : Specializer → Specializer → Bool
  | .any, .any => true
  | .ofType first, .ofType second => first = second
  | .exactly first, .exactly second => first.eql second
  | _, _ => false

instance : BEq Specializer := ⟨eql⟩

/-- An exact value outranks a type, and a type outranks no demand at all. -/
def rank : Specializer → Nat
  | .any => 0
  | .ofType _ => 1
  | .exactly _ => 2

/-- The class of the first part of the specializer that cannot be in a key. -/
def mutablePart? : Specializer → Option ClassId
  | .exactly value => value.mutablePart?
  | _ => none

/-- The specializer against the static type known for an argument. -/
def classify (table : TypeTable) (specializer : Specializer) (static : TypeId) :
    Except Fault Applicability :=
  match specializer with
  | .any => return .applicable
  | .ofType id => do
      if ← table.isTop static then
        return .ambiguous
      if ← table.isSubtype static id then
        return .applicable
      if ← table.isDisjoint static id then
        return .inapplicable
      return .ambiguous
  | .exactly value => do
      match ← table.pinned? static with
      | some pinned => return if pinned.eql value then .applicable else .ambiguous
      | none => return .ambiguous

/-- Compares two specializers of one position: by rank, then by subtyping. -/
def compareAt (table : TypeTable) (first second : Specializer) : Except Fault Specificity :=
  if first.rank ≠ second.rank then
    return if second.rank < first.rank then .more else .less
  else if first == second then
    return .equal
  else
    match first, second with
    | .ofType left, .ofType right => do
        if ← table.isSubtype left right then
          return .more
        if ← table.isSubtype right left then
          return .less
        return .incomparable
    | _, _ => return .incomparable

/-- Whether a value and a type may meet: always, if the type has no host class. -/
def valueMayMatch (table : TypeTable) (value : Value) (id : TypeId) : Except Fault Bool := do
  match ← table.host? id with
  | some host => return value.isInstanceOf table.classes host
  | none => return true

def mayOverlap (table : TypeTable) : Specializer → Specializer → Except Fault Bool
  | .any, _ => return true
  | _, .any => return true
  | .exactly first, .exactly second => return first.eql second
  | .ofType first, .ofType second => return !(← table.isDisjoint first second)
  | .exactly value, .ofType id => valueMayMatch table value id
  | .ofType id, .exactly value => valueMayMatch table value id

def isMatch (table : TypeTable) (specializer : Specializer) (value : Value) :
    Except Fault Bool :=
  match specializer with
  | .any => return true
  | .exactly wanted => return value.eql wanted
  | .ofType id => table.isInstance value id

def label (table : TypeTable) : Specializer → Except Fault String
  | .any => return "_"
  | .ofType id => table.name id
  | .exactly value => value.display.mapError .unwritable

def numberLabel : Specializer → Except Fault String
  | .any => return "_"
  | .ofType id => return s!"type#{id}"
  | .exactly value => value.display.mapError .unwritable

end Specializer

end StaticDispatch
