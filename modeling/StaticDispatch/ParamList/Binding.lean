import StaticDispatch.ParamList.Basic

/-!
Contract: what a call binds to the parameters of a wrapper.

Positional arguments fill the required and then the optional parameters, and
any further ones go to the rest parameter. Named arguments fill what is left.
A call is refused if an argument has no place or two, or if a required parameter
gets none.

Owns: calls, bindings, binding a call, and the call that passes a binding on.
Does not own: what the wrapper does with its parameters.
-/

namespace StaticDispatch

/-- The arguments of a call; each name occurs once. -/
structure Call where
  positional : List Value
  named : List (String × Value)

def Call.named? (call : Call) (name : String) : Option Value :=
  (call.named.find? (·.1 = name)).map (·.2)

structure Binding where
  required : List Value
  optional : List Value
  rest : List Value
  keywords : List Value
  otherKeys : List (String × Value)

namespace ParamList

/-- The parameters that positional arguments can fill. -/
def positionalNames (params : ParamList) : List String :=
  params.required ++ params.optional.map (·.name)

/-- The parameters that a named argument can fill. -/
def keyNames (params : ParamList) : List String :=
  params.positionalNames ++ params.keywords.map (·.name)

def hasPlaces (params : ParamList) (call : Call) : Bool :=
  let filled := params.positionalNames.take call.positional.length
  (params.rest.isSome || call.positional.length ≤ params.positionalNames.length) &&
    call.named.all fun (name, _) =>
      !filled.contains name && (params.otherKeys.isSome || params.keyNames.contains name)

/-- The value for the positional parameter at an index, if the call has one. -/
def argumentAt? (call : Call) (name : String) (index : Nat) : Option Value :=
  (call.positional[index]?).or (call.named? name)

def bind? (params : ParamList) (call : Call) : Option Binding :=
  if params.hasPlaces call then do
    let required ← params.required.zipIdx.mapM fun (name, index) =>
      argumentAt? call name index
    return {
      required
      optional := params.optional.zipIdx.map fun (param, index) =>
        (argumentAt? call param.name (params.arity + index)).getD param.fallback
      rest := call.positional.drop params.positionalNames.length
      keywords := params.keywords.map fun param => (call.named? param.name).getD param.fallback
      otherKeys := call.named.filter fun (name, _) => !params.keyNames.contains name }
  else
    none

def forward (params : ParamList) (binding : Binding) : Call where
  positional := binding.required ++ binding.optional ++ binding.rest
  named := (params.keywords.map (·.name)).zip binding.keywords ++ binding.otherKeys

def requiredValue? (params : ParamList) (binding : Binding) (name : String) : Option Value :=
  ((params.required.zip binding.required).find? (·.1 = name)).map (·.2)

end ParamList

end StaticDispatch
