import StaticDispatch.Text.Identifier
import StaticDispatch.Text.Normalization
import StaticDispatch.Value.Basic

/-!
Contract: the parameters of a generic function.

Required parameters come first and are the only ones dispatched on. Optional
parameters have a default, a rest parameter collects further arguments, keyword
parameters are given by name, and other keys may be accepted as well. Names are
identifiers, differ from each other, and leave the leading underscore to
generated code.

Owns: parameter lists, their validation, and the two texts that a wrapper needs:
its own parameters and the arguments that pass all of them on.
Does not own: what a call binds to the parameters.
-/

namespace StaticDispatch

/-- A parameter with the value it has when no argument is given. -/
structure DefaultParam where
  name : String
  fallback : Value

structure ParamList where
  required : List String
  optional : List DefaultParam := []
  rest : Option String := none
  keywords : List DefaultParam := []
  /-- Collects keyword arguments that no parameter names. -/
  otherKeys : Option String := none

namespace ParamList

inductive Fault where
  | invalidName (name : String)
  | reservedStart (name : String)
  | duplicateName (name : String)
deriving DecidableEq, Repr

def Fault.message : Fault → String
  | .invalidName name => s!"invalid parameter name '{name}'"
  | .reservedStart name => s!"parameter name '{name}' must not start with '_'"
  | .duplicateName name => s!"duplicate parameter name '{name}'"

def arity (params : ParamList) : Nat :=
  params.required.length

def names (params : ParamList) : List String :=
  params.required ++ params.optional.map (·.name) ++ params.rest.toList ++
    params.keywords.map (·.name) ++ params.otherKeys.toList

def nameFault? (seen : List String) (name : String) : Option Fault :=
  if !Text.isIdentifier name || Text.isReservedWord name then
    some (.invalidName name)
  else if name.toList.head? = some '_' then
    some (.reservedStart name)
  else if seen.contains name then
    some (.duplicateName name)
  else
    none

def firstFault? : List String → List String → Option Fault
  | _, [] => none
  | seen, name :: rest =>
      match nameFault? seen name with
      | some fault => some fault
      | none => firstFault? (name :: seen) rest

def validate (params : ParamList) : Except Fault ParamList :=
  match firstFault? [] params.names with
  | some fault => .error fault
  | none => .ok params

/-- The parameters under the normal forms of their names, which is how generated
code binds them. -/
def normalized (params : ParamList) : ParamList :=
  let normalize (param : DefaultParam) : DefaultParam :=
    { param with name := Text.normalForm param.name }
  { required := params.required.map Text.normalForm
    optional := params.optional.map normalize
    rest := params.rest.map Text.normalForm
    keywords := params.keywords.map normalize
    otherKeys := params.otherKeys.map Text.normalForm }

/-- The name under which generated code finds the default of a parameter. -/
def defaultName (name : String) : String :=
  "_default_" ++ name

def defaults (params : ParamList) : List (String × Value) :=
  (params.optional ++ params.keywords).map fun param => (defaultName param.name, param.fallback)

def DefaultParam.formal (param : DefaultParam) : String :=
  param.name ++ "=" ++ defaultName param.name

/-- The mark that ends the positional parameters, where one is needed. -/
def restMark (params : ParamList) : List String :=
  match params.rest with
  | some name => ["*" ++ name]
  | none => if params.keywords.isEmpty then [] else ["*"]

/-- The parameters of a wrapper that takes exactly this list. -/
def formalText (params : ParamList) : String :=
  String.intercalate ", "
    (params.required ++ params.optional.map DefaultParam.formal ++ params.restMark ++
      params.keywords.map DefaultParam.formal ++ params.otherKeys.toList.map ("**" ++ ·))

/-- The arguments that pass every parameter of a wrapper on. -/
def callText (params : ParamList) : String :=
  String.intercalate ", "
    (params.required ++ params.optional.map (·.name) ++ params.rest.toList.map ("*" ++ ·) ++
      params.keywords.map (fun param => param.name ++ "=" ++ param.name) ++
      params.otherKeys.toList.map ("**" ++ ·))

def sameDefaults : List DefaultParam → List DefaultParam → Bool
  | [], [] => true
  | first :: firsts, second :: seconds =>
      first.name = second.name && first.fallback.same second.fallback &&
        sameDefaults firsts seconds
  | _, _ => false

/-- Equality of parameter lists; how the other keys are called does not count. -/
def same (first second : ParamList) : Bool :=
  first.required = second.required && sameDefaults first.optional second.optional &&
    first.rest = second.rest && sameDefaults first.keywords second.keywords &&
    first.otherKeys.isSome = second.otherKeys.isSome

end ParamList

end StaticDispatch
