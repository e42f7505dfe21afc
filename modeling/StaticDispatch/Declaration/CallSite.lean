import StaticDispatch.Declaration.Program
import StaticDispatch.TypeTable.Registration

/-!
Contract: call sites over a type table.

An argument is unknown, of a declared type, or a literal. A literal stands for
the type of just that value, which is registered on the way and stays registered
even if a later argument has a fault.

Owns: call sites with static types, and reading them.
Does not own: resolving them.
-/

namespace StaticDispatch

/-- A function's name with static types in precedence order. -/
structure CallSite where
  name : String
  types : List TypeId
deriving DecidableEq, Repr

namespace CallSite

open Declaration

inductive Fault where
  | malformed (source : String) (fault : SyntaxFault)
  | unknownType (name : String) (position : Position)
  | literal (fault : LiteralFault)
  | types (fault : TypeTable.Fault)

/-- The message and the place of a fault of the call site's text. Literals and
types have faults of their own. -/
def Fault.report? : Fault → Option (String × Position)
  | .malformed source fault =>
      some (s!"invalid call site '{source}': {fault.message}", fault.position)
  | .unknownType name position => some (s!"unknown type '{name}' in call site", position)
  | .literal _ => none
  | .types _ => none

def argType (table : TypeTable) (arg : ArgDecl) : Except Fault TypeId × TypeTable :=
  match arg.kind with
  | .top =>
      let (id, table) := table.ensureTop
      (.ok id, table)
  | .literal value =>
      let (id, table) := table.newLiteral value none
      (id.mapError .types, table)
  | .ofType name =>
      match table.lookup? name with
      | none => (.error (.unknownType name arg.position), table)
      | some id => (.ok id, table)

def argTypes (table : TypeTable) : List ArgDecl → Except Fault (List TypeId) × TypeTable
  | [] => (.ok [], table)
  | arg :: rest =>
      match argType table arg with
      | (.error fault, table) => (.error fault, table)
      | (.ok id, table) =>
          let (ids, table) := argTypes table rest
          (ids.map (id :: ·), table)

/-- Reads a call site, and returns the table with the literals met. -/
def read (table : TypeTable) (source : String) : Except Fault CallSite × TypeTable :=
  match CallDecl.read source with
  | .error (.language fault) => (.error (.malformed source fault), table)
  | .error (.literal fault) => (.error (.literal fault), table)
  | .ok decl =>
      let (types, table) := argTypes table decl.args
      (types.map fun types => { name := decl.name, types }, table)

end CallSite

end StaticDispatch
