import StaticDispatch.ParamList.Binding
import StaticDispatch.Registry

/-!
Contract: dynamic dispatch, the measure of every cascade.

Among the methods that match the arguments, an exact value comes before a type,
a type nearer in the linearization of the argument's class before one further
away, and a type before no demand. Places are compared in precedence order, and
ties keep the order of registration.

Owns: applicable methods in their order, calling a body, and dispatching a call.
Does not own: static resolution.
-/

namespace StaticDispatch

/-- The answer of a body, with the arguments if it echoes them. -/
structure Reply where
  label : String
  echo : Option Call

def Body.reply (body : Body) (call : Call) : Reply where
  label := body.label
  echo := if body.echoes then some call else none

namespace Dispatch

inductive Fault where
  | unknownGeneric (name : String)
  | noMethod (name : String) (shown : String)
  | argumentCount (name : String) (expected given : Nat)
  | precedence (fault : Precedence.Fault)
  | missingPlace
  | types (fault : TypeTable.Fault)
  /-- There is no method for arguments that cannot be shown. -/
  | unwritable (fault : Number.Unwritable)

def Fault.message : Fault → String
  | .unknownGeneric name => s!"no generic function named '{name}'"
  | .noMethod name shown => s!"no applicable method of '{name}' for {shown}"
  | .argumentCount name expected given =>
      s!"'{name}' takes {expected} required argument(s), got {given}"
  | .precedence fault => fault.message
  | .missingPlace => "list index out of range"
  | .types fault => fault.message
  | .unwritable fault => fault.message

/-- How near a specializer is to an argument that matches it: less is nearer. -/
def distance (table : TypeTable) (specializer : Specializer) (argument : Value) :
    Except TypeTable.Fault (Nat × Nat) :=
  match specializer with
  | .exactly _ => return (0, 0)
  | .any => return (2, 0)
  | .ofType id => do
      match ← table.host? id with
      | none => return (1, 0)
      | some host => return (1, (table.classes.linearization argument.cls).idxOf host)

def compareDistances : List (Nat × Nat) → List (Nat × Nat) → Ordering
  | [], [] => .eq
  | [], _ :: _ => .lt
  | _ :: _, [] => .gt
  | first :: firsts, second :: seconds =>
      (compare first.1 second.1).then
        ((compare first.2 second.2).then (compareDistances firsts seconds))

structure Match where
  distances : List (Nat × Nat)
  method : Method

def Match.precedes (first second : Match) : Bool :=
  ((compareDistances first.distances second.distances).then
    (compare first.method.ordinal second.method.ordinal)).isLE

def accepts (table : TypeTable) (method : Method) (arguments : List Value) :
    Except TypeTable.Fault Bool :=
  (method.specializers.zip arguments).allM fun (specializer, argument) =>
    specializer.isMatch table argument

def match? (table : TypeTable) (permutation : List Nat) (arguments : List Value)
    (method : Method) : Except Fault (Option Match) :=
  match accepts table method arguments with
  | .error fault => .error (.types fault)
  | .ok false => .ok none
  | .ok true =>
      match Precedence.toPrecedence? permutation method.specializers,
          Precedence.toPrecedence? permutation arguments with
      | some specializers, some ordered =>
          match (specializers.zip ordered).mapM fun (specializer, argument) =>
              distance table specializer argument with
          | .error fault => .error (.types fault)
          | .ok distances => .ok (some { distances, method })
      | _, _ => .error .missingPlace

/-- The methods that the arguments satisfy, most specific first. -/
def applicable (table : TypeTable) (generic : GenericFunction) (arguments : List Value) :
    Except Fault (List Method) :=
  let required := arguments.take generic.arity
  if required.length ≠ generic.arity then
    .error (.argumentCount generic.name generic.arity required.length)
  else
    match Precedence.permutation generic.params.required (some generic.precedence) with
    | .error fault => .error (.precedence fault)
    | .ok permutation => do
        let found ← generic.methods.filterMapM (match? table permutation required)
        return (found.mergeSort Match.precedes).map (·.method)

def dispatch (registry : Registry) (table : TypeTable) (name : String) (call : Call) :
    Except Fault Reply :=
  match registry.find? name with
  | none => .error (.unknownGeneric name)
  | some generic =>
      match applicable table generic call.positional with
      | .error fault => .error fault
      | .ok [] =>
          match (Value.tuple (call.positional.take generic.arity)).display with
          | .ok shown => .error (.noMethod name shown)
          | .error fault => .error (.unwritable fault)
      | .ok (method :: _) => .ok (method.body.reply call)

end Dispatch

end StaticDispatch
