import StaticDispatch.ParamList.Basic
import StaticDispatch.Precedence
import StaticDispatch.Specializer

/-!
Contract: generic functions and their methods.

A generic function is declared with its parameters, or by its first method. A
method with the specializers of an earlier one takes over its place and its
ordinal, so no two methods of a function have equal specializers. Registries are
values, so a snapshot is a registry that is kept.

Owns: methods, generic functions, declaration and registration.
Does not own: choosing among methods.
-/

namespace StaticDispatch

/-- What a method does: it answers with its label, and may echo its arguments. -/
structure Body where
  label : String
  echoes : Bool := false
deriving DecidableEq, Repr

structure Method where
  /-- One specializer for each required parameter, in their order. -/
  specializers : List Specializer
  body : Body
  /-- The place among all registrations. -/
  ordinal : Nat

structure GenericFunction where
  name : String
  params : ParamList
  precedence : List String
  methods : List Method := []

namespace GenericFunction

def arity (generic : GenericFunction) : Nat :=
  generic.params.arity

def find? (generic : GenericFunction) (specializers : List Specializer) : Option Method :=
  generic.methods.find? (·.specializers == specializers)

/-- Puts a body under the given specializers: in the place of the method that
has them, else behind all others with a new ordinal. Also says whether the
ordinal was used. -/
def install (specializers : List Specializer) (body : Body) (ordinal : Nat) :
    List Method → Method × List Method × Bool
  | [] =>
      let added : Method := { specializers, body, ordinal }
      (added, [added], true)
  | method :: rest =>
      if method.specializers == specializers then
        let replaced := { method with body }
        (replaced, replaced :: rest, false)
      else
        let (placed, others, used) := install specializers body ordinal rest
        (placed, method :: others, used)

end GenericFunction

/-- What a method is registered with: a specializer, or a value that is none. -/
inductive Proposal where
  | specializer (specializer : Specializer)
  | stray (value : Value)

structure Registry where
  /-- In the order of declaration; names differ. -/
  generics : List GenericFunction := []
  nextOrdinal : Nat := 0

namespace Registry

inductive Fault where
  | precedence (name : String) (fault : Precedence.Fault)
  | differentParameters (name : String)
  | differentPrecedence (name : String)
  | notSpecializer (name : String) (shown : String)
  | notHashable (name : String) (shown : String)
  | specializerCount (name : String) (given expected : Nat)
  /-- The value that the fault is about cannot be shown. -/
  | unwritable (fault : Number.Unwritable)
deriving DecidableEq, Repr

def Fault.message : Fault → String
  | .precedence name fault => s!"generic function '{name}': {fault.message}"
  | .differentParameters name =>
      s!"generic function '{name}' redeclared with a different parameter list"
  | .differentPrecedence name =>
      s!"generic function '{name}' redeclared with a different precedence order"
  | .notSpecializer name shown => s!"method on '{name}': {shown} is not a specializer"
  | .notHashable name shown => s!"method on '{name}': exact value {shown} is not hashable"
  | .specializerCount name given expected =>
      s!"method on '{name}' has {given} specializer(s); generic function takes {expected} " ++
        "required parameter(s)"
  | .unwritable fault => fault.message

def find? (registry : Registry) (name : String) : Option GenericFunction :=
  registry.generics.find? (·.name = name)

def isDeclared (registry : Registry) (name : String) : Bool :=
  (registry.find? name).isSome

def names (registry : Registry) : List String :=
  registry.generics.map (·.name)

/-- The methods of a function in the order of registration. -/
def methods (registry : Registry) (name : String) : List Method :=
  ((registry.find? name).map (·.methods)).getD []

/-- Declares a generic function. A second declaration must say the same. -/
def declare (registry : Registry) (name : String) (params : ParamList)
    (order : Option (List String)) : Except Fault (GenericFunction × Registry) :=
  let precedence := order.getD params.required
  match Precedence.permutation params.required (some precedence) with
  | .error fault => .error (.precedence name fault)
  | .ok _ =>
      match registry.find? name with
      | some existing =>
          if !existing.params.same params then
            .error (.differentParameters name)
          else if existing.precedence ≠ precedence then
            .error (.differentPrecedence name)
          else
            .ok (existing, registry)
      | none =>
          let generic : GenericFunction := { name, params, precedence }
          .ok (generic, { registry with generics := registry.generics ++ [generic] })

/-- Refuses a proposal because of a value, which the fault shows. -/
def refuse (fault : String → Fault) (value : Value) : Except Fault Specializer :=
  match value.display with
  | .ok shown => .error (fault shown)
  | .error unwritable => .error (.unwritable unwritable)

/-- The specializer of a proposal, if it is one that can be a key. -/
def accept (name : String) : Proposal → Except Fault Specializer
  | .stray value => refuse (.notSpecializer name) value
  | .specializer (.exactly value) =>
      if value.isHashable then
        .ok (.exactly value)
      else
        refuse (.notHashable name) value
  | .specializer specializer => .ok specializer

/-- The parameters of a function that its first method declares. -/
def implicitParams (count : Nat) : ParamList where
  required := (List.range count).map fun index => s!"arg{index}"

/-- The function that a method is for, declared if need be. -/
def declareFor (registry : Registry) (name : String) (count : Nat)
    (params : Option ParamList) (order : Option (List String)) :
    Except Fault (GenericFunction × Registry) :=
  match registry.find? name with
  | none => registry.declare name (params.getD (implicitParams count)) order
  | some existing =>
      if params.isNone && order.isNone then
        .ok (existing, registry)
      else
        registry.declare name (params.getD existing.params)
          (some (order.getD existing.precedence))

def update (generic : GenericFunction) (generics : List GenericFunction) :
    List GenericFunction :=
  generics.map fun existing => if existing.name = generic.name then generic else existing

/-- Registers a method, or gives a new body to the one with its specializers.
Returns the registry that is left, in which a function may have been declared
even though its method was refused. -/
def register (registry : Registry) (name : String) (proposals : List Proposal) (body : Body)
    (params : Option ParamList) (order : Option (List String)) :
    Except Fault Method × Registry :=
  match proposals.mapM (accept name) with
  | .error fault => (.error fault, registry)
  | .ok specializers =>
      match registry.declareFor name specializers.length params order with
      | .error fault => (.error fault, registry)
      | .ok (generic, declared) =>
          if specializers.length ≠ generic.arity then
            (.error (.specializerCount name specializers.length generic.arity), declared)
          else
            let (method, methods, used) :=
              GenericFunction.install specializers body declared.nextOrdinal generic.methods
            (.ok method,
              { generics := update { generic with methods } declared.generics
                nextOrdinal := if used then declared.nextOrdinal + 1 else declared.nextOrdinal })

end Registry

end StaticDispatch
