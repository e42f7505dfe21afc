import StaticDispatch.Candidate.Basic

/-!
Contract: the shape of a resolved call site.

A cascade tries guarded branches in order and ends in a call without guards: of
a method that is known to match, or of dynamic dispatch. Guards test only the
places that the static types leave open.

Owns: cascades, making one from sorted candidates, and the choice that a cascade
makes for given arguments.
Does not own: the text of a cascade, and dynamic dispatch.
-/

namespace StaticDispatch

inductive Guard.Test where
  | ofType (id : TypeId)
  | exactly (value : Value)

structure Guard where
  argument : String
  /-- The place of the parameter in the order of declaration. -/
  index : Nat
  test : Guard.Test

structure Cascade.Branch where
  guards : List Guard
  method : Method

inductive Cascade.Final where
  | method (method : Method)
  | dispatch (generic : String)

structure Cascade where
  generic : String
  branches : List Cascade.Branch
  final : Cascade.Final

namespace Cascade

inductive Fault where
  | unspecialized (place : Nat) (name : String)
  | missingPlace
deriving DecidableEq, Repr

def Fault.message : Fault → String
  | .unspecialized place name =>
      s!"Any specializer cannot be ambiguous (position {place} of {name})"
  | .missingPlace => "tuple index out of range"

/-- Whether the call site becomes one direct call. -/
def isUnconditional (cascade : Cascade) : Bool :=
  match cascade.branches, cascade.final with
  | [], .method _ => true
  | _, _ => false

/-- The methods that the cascade may call, in the order of its tests. -/
def methods (cascade : Cascade) : List Method :=
  cascade.branches.map (·.method) ++
    match cascade.final with
    | .method method => [method]
    | .dispatch _ => []

def guardAt (generic : GenericFunction) (permutation : List Nat) (candidate : Candidate)
    (place : Nat) : Except Fault Guard :=
  match permutation[place]? with
  | none => .error .missingPlace
  | some index =>
      match generic.params.required[index]?, candidate.specializers[place]? with
      | some argument, some (.ofType id) => .ok { argument, index, test := .ofType id }
      | some argument, some (.exactly value) => .ok { argument, index, test := .exactly value }
      | some _, some .any => .error (.unspecialized place generic.name)
      | _, _ => .error .missingPlace

/-- A branch for each candidate up to the first that is definite, which ends the
cascade. Without a definite candidate dynamic dispatch does. -/
def guarded (generic : GenericFunction) (permutation : List Nat) :
    List Candidate → Except Fault Cascade
  | [] => return { generic := generic.name, branches := [], final := .dispatch generic.name }
  | candidate :: rest =>
      if candidate.isDefinite then
        return { generic := generic.name, branches := [], final := .method candidate.method }
      else do
        let guards ← candidate.ambiguousPlaces.mapM (guardAt generic permutation candidate)
        let cascade ← guarded generic permutation rest
        let branch : Branch := { guards, method := candidate.method }
        return { cascade with branches := branch :: cascade.branches }

/-- The cascade for sorted candidates, if there is one. Without checks the first
candidate has to be definite. -/
def emit (generic : GenericFunction) (permutation : List Nat) (checks : Bool)
    (candidates : List Candidate) : Except Fault (Option Cascade) :=
  match candidates with
  | [] => .ok none
  | top :: _ =>
      if checks then
        (guarded generic permutation candidates).map some
      else if top.isDefinite then
        .ok (some { generic := generic.name, branches := [], final := .method top.method })
      else
        .ok none

end Cascade

def Guard.Test.holds (table : TypeTable) (test : Guard.Test) (value : Value) :
    Except TypeTable.Fault Bool :=
  match test with
  | .ofType id => table.isInstance value id
  | .exactly wanted => return value.eql wanted

/-- Whether the arguments, in the order of declaration, pass a guard. -/
def Guard.holds (table : TypeTable) (guard : Guard) (arguments : List Value) :
    Except TypeTable.Fault Bool :=
  match arguments[guard.index]? with
  | some value => guard.test.holds table value
  | none => return false

namespace Cascade

/-- The method whose guards hold first, or the final call. -/
def selectFrom (table : TypeTable) (arguments : List Value) (final : Final) :
    List Branch → Except TypeTable.Fault Final
  | [] => return final
  | branch :: rest => do
      if ← branch.guards.allM (·.holds table arguments) then
        return .method branch.method
      else
        selectFrom table arguments final rest

def select (cascade : Cascade) (table : TypeTable) (arguments : List Value) :
    Except TypeTable.Fault Final :=
  selectFrom table arguments cascade.final cascade.branches

end Cascade

end StaticDispatch
