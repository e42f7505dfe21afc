import StaticDispatch.Cascade.Basic
import StaticDispatch.Text.WordCharacter

/-!
Contract: a cascade as a function of its own.

A wrapper takes the parameters of the generic function and refers only to them
and to private names, which stand for method bodies, host classes, tests, values,
defaults and the dynamic dispatcher. Private names start with an underscore and
parameters do not, so the two never meet.

Owns: wrappers, their private names, and making one from a cascade.
Does not own: the source of a wrapper, and calling it.
-/

namespace StaticDispatch

namespace Wrapper

inductive Meaning where
  | body (body : Body)
  | hostClass (host : ClassId)
  | typeTest (id : TypeId)
  | value (value : Value)
  /-- The test whether a value is an instance of a host class. -/
  | instanceTest
  /-- The test whether two values are the same literal. -/
  | equalityTest
  | dispatcher

/-- The private names of a wrapper; no name occurs twice. -/
abbrev Namespace := List (String × Meaning)

namespace Namespace

/-- Gives a name its meaning, in place of an earlier one. -/
def bind (space : Namespace) (name : String) (meaning : Meaning) : Namespace :=
  match space with
  | [] => [(name, meaning)]
  | (existing, old) :: rest =>
      if existing = name then
        (name, meaning) :: rest
      else
        (existing, old) :: bind rest name meaning

def find? (space : Namespace) (name : String) : Option Meaning :=
  List.lookup name space

end Namespace

inductive Check where
  /-- The parameter is an instance of the class under a name. -/
  | isInstance (argument host : String)
  /-- The parameter passes the test under a name. -/
  | passes (argument test : String)
  /-- The parameter equals the value under a name. -/
  | equals (argument value : String)
deriving DecidableEq, Repr

/-- Tests that all have to hold, and the name to call then. -/
structure Branch where
  checks : List Check
  target : String
deriving DecidableEq, Repr

end Wrapper

structure Wrapper where
  name : String
  params : ParamList
  branches : List Wrapper.Branch
  /-- The name to call if no branch applies. -/
  final : String
  space : Wrapper.Namespace

namespace Wrapper

inductive Fault where
  | wrongGeneric (cascade generic : String)
  | noDispatcher (generic : String)
  | types (fault : TypeTable.Fault)

def Fault.message : Fault → String
  | .wrongGeneric cascade generic =>
      s!"cascade for '{cascade}' rendered against generic function '{generic}'"
  | .noDispatcher generic =>
      s!"cascade for '{generic}' falls back to dynamic dispatch but no dispatcher was given"
  | .types fault => fault.message

/-- The name of the wrapper for a function; other characters become underscores. -/
def nameFor (generic : String) : String :=
  "inline_" ++ generic.map fun char => if Text.isWordCharacter char then char else '_'

def instanceTestName : String := "_isinstance"
def equalityTestName : String := "_eql"
def dispatcherName : String := "_dispatch"
def bodyName (ordinal : Nat) : String := s!"_m{ordinal}"
def hostName (id : TypeId) : String := s!"_t{id}"
def typeTestName (id : TypeId) : String := s!"_is_t{id}"
def valueName (index : Nat) : String := s!"_v{index}"

/-- The names given so far, and the values among them in order. -/
structure Names where
  space : Namespace
  values : List Value := []

namespace Names

def start (params : ParamList) : Names where
  space := params.defaults.map fun (name, value) => (name, .value value)

def bind (names : Names) (name : String) (meaning : Meaning) : Names :=
  { names with space := names.space.bind name meaning }

/-- The check for a guard. A class is tested through its host class if it has
one, and equal values share a name. -/
def check (names : Names) (table : TypeTable) (guard : Guard) :
    Except TypeTable.Fault (Check × Names) :=
  match guard.test with
  | .ofType id => do
      match ← table.host? id with
      | some host =>
          return (.isInstance guard.argument (hostName id),
            (names.bind (hostName id) (.hostClass host)).bind instanceTestName .instanceTest)
      | none =>
          return (.passes guard.argument (typeTestName id),
            names.bind (typeTestName id) (.typeTest id))
  | .exactly value =>
      let (index, values) :=
        match names.values.findIdx? (·.eql value) with
        | some index => (index, names.values)
        | none => (names.values.length, names.values ++ [value])
      return (.equals guard.argument (valueName index),
        ({ names with values }.bind (valueName index) (.value value)).bind
          equalityTestName .equalityTest)

def checks (names : Names) (table : TypeTable) :
    List Guard → Except TypeTable.Fault (List Check × Names)
  | [] => return ([], names)
  | guard :: rest => do
      let (first, names) ← names.check table guard
      let (others, names) ← checks names table rest
      return (first :: others, names)

def method (names : Names) (method : Method) : String × Names :=
  (bodyName method.ordinal, names.bind (bodyName method.ordinal) (.body method.body))

def branches (names : Names) (table : TypeTable) :
    List Cascade.Branch → Except TypeTable.Fault (List Branch × Names)
  | [] => return ([], names)
  | branch :: rest => do
      let (tests, names) ← names.checks table branch.guards
      let (target, names) := names.method branch.method
      let (others, names) ← branches names table rest
      return ({ checks := tests, target } :: others, names)

end Names

/-- The wrapper for a cascade. The name is the given one unless that is empty. -/
def ofCascade (generic : GenericFunction) (cascade : Cascade) (table : TypeTable)
    (hasDispatcher : Bool) (name : Option String) : Except Fault Wrapper :=
  if cascade.generic ≠ generic.name then
    .error (.wrongGeneric cascade.generic generic.name)
  else
    match (Names.start generic.params).branches table cascade.branches with
    | .error fault => .error (.types fault)
    | .ok (branches, names) =>
        let name := (name.filter (!·.isEmpty)).getD (nameFor generic.name)
        let make (final : String) (names : Names) : Wrapper :=
          { name, params := generic.params, branches, final, space := names.space }
        match cascade.final with
        | .method method =>
            let (final, names) := names.method method
            .ok (make final names)
        | .dispatch _ =>
            if hasDispatcher then
              .ok (make dispatcherName (names.bind dispatcherName .dispatcher))
            else
              .error (.noDispatcher generic.name)

end Wrapper

end StaticDispatch
