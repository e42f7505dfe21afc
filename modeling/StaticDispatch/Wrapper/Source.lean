import StaticDispatch.Text.Identifier
import StaticDispatch.Wrapper.Basic

/-!
Contract: the source of a wrapper.

The source is one function definition: a conditional with a branch for each
guarded call, and the final call behind it. Every call passes all parameters on.

Owns: the text of a wrapper, and whether that text compiles.
Does not own: what the source does when it runs.
-/

namespace StaticDispatch.Wrapper

def Check.text : Check → String
  | .isInstance argument host => s!"{instanceTestName}({argument}, {host})"
  | .passes argument test => s!"{test}({argument})"
  | .equals argument value => s!"{equalityTestName}({argument}, {value})"

/-- The lines of all branches; only the first one opens with its own word. -/
def branchSource (arguments : String) : String → List Branch → List String
  | _, [] => []
  | keyword, branch :: rest =>
      let condition := String.intercalate " and " (branch.checks.map Check.text)
      s!"    {keyword} {condition}:" :: s!"        return {branch.target}({arguments})" ::
        branchSource arguments "elif" rest

def sourceLines (wrapper : Wrapper) : List String :=
  let arguments := wrapper.params.callText
  s!"def {wrapper.name}({wrapper.params.formalText}):" ::
    branchSource arguments "if" wrapper.branches ++ [s!"    return {wrapper.final}({arguments})"]

/-- The function definition, with a line end behind each line. -/
def source (wrapper : Wrapper) : String :=
  String.join (wrapper.sourceLines.map (· ++ "\n"))

/-- The source compiles if the wrapper's name can name a function, and the normal
forms of the parameters differ from each other. -/
def compiles (wrapper : Wrapper) : Bool :=
  Text.isIdentifier wrapper.name && !Text.isReservedWord wrapper.name &&
    decide wrapper.params.normalized.names.Nodup

end StaticDispatch.Wrapper
