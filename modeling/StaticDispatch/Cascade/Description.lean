import StaticDispatch.Cascade.Basic

/-!
Contract: cascades in words.

A description is a list of lines: a condition and a call for each branch, and the
final call. Types are named by the table, or numbered where there is none.

Owns: the labels of methods and the lines of a cascade.
Does not own: generated source.
-/

namespace StaticDispatch

inductive Naming where
  | named (table : TypeTable)
  | numbered

namespace Naming

def typeName : Naming → TypeId → Except TypeTable.Fault String
  | .named table, id => table.name id
  | .numbered, id => return s!"type#{id}"

def label : Naming → Specializer → Except TypeTable.Fault String
  | .named table, specializer => specializer.label table
  | .numbered, specializer => specializer.numberLabel

end Naming

def Method.label (method : Method) (naming : Naming) (generic : String) :
    Except TypeTable.Fault String := do
  let labels ← method.specializers.mapM naming.label
  let list := String.intercalate ", " labels
  return s!"{generic}({list})"

def Guard.text (guard : Guard) (naming : Naming) : Except TypeTable.Fault String :=
  match guard.test with
  | .ofType id => return s!"{guard.argument} is {← naming.typeName id}"
  | .exactly value => return s!"{guard.argument} == {← value.display.mapError .unwritable}"

namespace Cascade

def Branch.lines (branch : Branch) (naming : Naming) (generic keyword : String) :
    Except TypeTable.Fault (List String) := do
  let conditions ← branch.guards.mapM (·.text naming)
  let condition := String.intercalate " and " conditions
  let label ← branch.method.label naming generic
  return [s!"{keyword} {condition}:", s!"\tcall {label}"]

/-- The lines of all branches; only the first one opens with its own word. -/
def branchLines (naming : Naming) (generic : String) :
    String → List Branch → Except TypeTable.Fault (List String)
  | _, [] => return []
  | keyword, branch :: rest => do
      let lines ← branch.lines naming generic keyword
      return lines ++ (← branchLines naming generic "elif" rest)

def Final.text (final : Final) (naming : Naming) (generic : GenericFunction) :
    Except TypeTable.Fault String :=
  match final with
  | .method chosen => return "call " ++ (← chosen.label naming generic.name)
  | .dispatch name =>
      let arguments := String.intercalate ", " generic.params.required
      return s!"dispatch {name}({arguments})"

def describe (cascade : Cascade) (naming : Naming) (generic : GenericFunction) :
    Except TypeTable.Fault (List String) := do
  let lines ← branchLines naming generic.name "if" cascade.branches
  let target ← cascade.final.text naming generic
  return if cascade.branches.isEmpty then [target] else lines ++ ["else:", "\t" ++ target]

end Cascade

end StaticDispatch
