import StaticDispatch.Dispatch
import StaticDispatch.Wrapper.Basic

/-!
Contract: calling a wrapper.

A call binds the parameters under the normal forms of their names, tries the
branches in order, and passes all parameters on to the name that it ends in.

Owns: the evaluation of wrappers.
Does not own: dynamic dispatch, which the caller supplies.
-/

namespace StaticDispatch.Wrapper

inductive CallFault where
  /-- The arguments do not fit the parameters. -/
  | refused
  /-- A name has no meaning, or not one that fits its use. -/
  | unbound (name : String)
  | types (fault : TypeTable.Fault)
  | dispatch (fault : Dispatch.Fault)

def argument (wrapper : Wrapper) (binding : Binding) (name : String) : Except CallFault Value :=
  match wrapper.params.requiredValue? binding name with
  | some value => .ok value
  | none => .error (.unbound name)

def Check.holds (wrapper : Wrapper) (table : TypeTable) (binding : Binding) :
    Check → Except CallFault Bool
  | .isInstance name host =>
      match wrapper.space.find? host with
      | some (.hostClass cls) => do
          return (← wrapper.argument binding name).isInstanceOf table.classes cls
      | _ => .error (.unbound host)
  | .passes name test =>
      match wrapper.space.find? test with
      | some (.typeTest id) => do
          let value ← wrapper.argument binding name
          (table.isInstance value id).mapError .types
      | _ => .error (.unbound test)
  | .equals name value =>
      match wrapper.space.find? value with
      | some (.value wanted) => do
          return (← wrapper.argument binding name).eql wanted
      | _ => .error (.unbound value)

def targetFrom (wrapper : Wrapper) (table : TypeTable) (binding : Binding) :
    List Branch → Except CallFault String
  | [] => return wrapper.final
  | branch :: rest => do
      if ← branch.checks.allM (·.holds wrapper table binding) then
        return branch.target
      else
        targetFrom wrapper table binding rest

def target (wrapper : Wrapper) (table : TypeTable) (binding : Binding) :
    Except CallFault String :=
  targetFrom wrapper table binding wrapper.branches

/-- Calls the wrapper; `dispatch` is what the name of the dispatcher stands for. -/
def run (wrapper : Wrapper) (table : TypeTable) (dispatch : Call → Except Dispatch.Fault Reply)
    (call : Call) : Except CallFault Reply :=
  let params := wrapper.params.normalized
  match params.bind? call with
  | none => .error .refused
  | some binding => do
      let target ← wrapper.target table binding
      let forwarded := params.forward binding
      match wrapper.space.find? target with
      | some (.body body) => return body.reply forwarded
      | some .dispatcher => (dispatch forwarded).mapError .dispatch
      | _ => .error (.unbound target)

end StaticDispatch.Wrapper
