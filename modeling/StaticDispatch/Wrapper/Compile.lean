import StaticDispatch.Resolution
import StaticDispatch.Wrapper.Source

/-!
Contract: wrappers straight from call sites.

Owns: the wrapper of a resolution, and the compiled wrapper of a call site.
Does not own: calling a wrapper.
-/

namespace StaticDispatch

namespace Wrapper

/-- Why a call site has no compiled wrapper although it is inlined. -/
inductive CompileFault where
  | resolution (fault : Resolution.Fault)
  | wrapper (fault : Fault)
  /-- The source does not compile. -/
  | source
  /-- The source refers to a default by a name that is not bound. -/
  | unboundDefault (name : String)
  /-- The source defines its function under another name. -/
  | misnamed (name : String)

/-- The first default that the source, in which names have their normal form,
does not find. -/
def unboundDefault? (wrapper : Wrapper) : Option String :=
  (wrapper.params.defaults.map fun (name, _) => Text.normalForm name).find? fun name =>
    (wrapper.space.find? name).isNone

/-- A wrapper whose source compiles, and defines the function that it names. -/
def compile (wrapper : Wrapper) : Except CompileFault Wrapper :=
  if !wrapper.compiles then
    .error .source
  else
    match wrapper.unboundDefault? with
    | some name => .error (.unboundDefault name)
    | none =>
        if Text.normalForm wrapper.name = wrapper.name then
          .ok wrapper
        else
          .error (.misnamed wrapper.name)

end Wrapper

/-- The wrapper of a resolution, if the call site is inlined. -/
def Resolution.wrapper? (resolution : Resolution) (table : TypeTable) (hasDispatcher : Bool) :
    Except Wrapper.Fault (Option Wrapper) :=
  match resolution with
  | .inlined generic cascade _ =>
      (Wrapper.ofCascade generic cascade table hasDispatcher none).map some
  | .abstained .. => .ok none

/-- Resolves a call site and compiles its wrapper, if it is inlined. The inliner
counts the call site even if its wrapper has a fault. -/
def Inliner.compile (inliner : Inliner) (name : String) (types : List TypeId)
    (checks : Option Bool) (hasDispatcher : Bool) :
    Except Wrapper.CompileFault (Option Wrapper) × Inliner :=
  match inliner.resolve name types checks with
  | .error fault => (.error (.resolution fault), inliner)
  | .ok (resolution, next) =>
      match resolution.wrapper? next.table hasDispatcher with
      | .error fault => (.error (.wrapper fault), next)
      | .ok none => (.ok none, next)
      | .ok (some wrapper) => (wrapper.compile.map some, next)

end StaticDispatch
