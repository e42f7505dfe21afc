import StaticDispatch.Declaration.Program
import StaticDispatch.Diagnostic
import StaticDispatch.Registry
import StaticDispatch.TypeTable.Registration

/-!
Contract: programs loaded into a type table and a registry.

Types are declared first, then generic functions, then methods, each in the
order of the text. A declaration with a fault has no effect but a diagnostic.
Declared types have host classes of their own, and the body of a method answers
with the method's label.

Owns: worlds, the faults of declarations and loading.
Does not own: call sites.
-/

namespace StaticDispatch.Declaration

inductive LoadFault where
  | alreadyDefined (name : String)
  | unknownSupertype (supertype name : String)
  | duplicateSupertype (supertype name : String)
  | noLinearization (name : String) (fault : Hierarchy.Fault)
  | types (fault : TypeTable.Fault)
  | afterOtherKeys (otherKeys generic : String)
  | secondStar (generic : String)
  | requiredAfterOptional (param generic : String)
  | params (generic : String) (fault : ParamList.Fault)
  | registry (fault : Registry.Fault)
  | undeclaredGeneric (name : String)
  | unknownType (name : String)

def LoadFault.message : LoadFault → String
  | .alreadyDefined name => s!"type '{name}' is already defined"
  | .unknownSupertype supertype name =>
      s!"unknown supertype '{supertype}' of '{name}' (types must be declared before use)"
  | .duplicateSupertype supertype name => s!"duplicate supertype '{supertype}' of '{name}'"
  | .noLinearization name fault => s!"cannot linearize supertypes of '{name}': {fault.message}"
  | .types fault => fault.message
  | .afterOtherKeys otherKeys generic => s!"parameter after '**{otherKeys}' in '{generic}'"
  | .secondStar generic => s!"more than one '*' parameter in '{generic}'"
  | .requiredAfterOptional param generic =>
      s!"required parameter '{param}' follows an optional one in '{generic}'"
  | .params generic fault => s!"generic function '{generic}': {fault.message}"
  | .registry fault => fault.message
  | .undeclaredGeneric name => s!"method on undeclared generic function '{name}'"
  | .unknownType name => s!"unknown type '{name}'"

structure Located where
  fault : LoadFault
  position : Position

/-- Looks supertypes up in order; none may occur twice. -/
def supertypeIds (table : TypeTable) (name : String) :
    List TypeId → List String → Except LoadFault (List TypeId)
  | seen, [] => .ok seen
  | seen, supertype :: rest =>
      match table.lookup? supertype with
      | none => .error (.unknownSupertype supertype name)
      | some id =>
          if seen.contains id then
            .error (.duplicateSupertype supertype name)
          else
            supertypeIds table name (seen ++ [id]) rest

def declaredHome : String := "gfinline.declared"

def declareType (table : TypeTable) (decl : TypeDecl) : Except LoadFault TypeTable := do
  if (table.lookup? decl.name).isSome then
    throw (.alreadyDefined decl.name)
  let all ← supertypeIds table decl.name [] decl.supertypes
  let proper := all.filter fun id => !((table.find? id).any (·.isTop))
  let hosts := proper.map fun id =>
    ((table.find? id).bind (·.host?)).getD Hierarchy.objectClass
  let bases := if hosts.isEmpty then [Hierarchy.objectClass] else hosts
  match table.declareClass declaredHome decl.name bases proper with
  | .ok (_, table) => return table
  | .error (.host fault) => throw (.noLinearization decl.name fault)
  | .error (.type fault) => throw (.types fault)

structure ParamState where
  params : ParamList
  seenStar : Bool

def ParamState.add (state : ParamState) (generic : String) (decl : ParamDecl) :
    Except LoadFault ParamState :=
  let params := state.params
  let name := decl.name.getD ""
  match params.otherKeys with
  | some otherKeys => .error (.afterOtherKeys otherKeys generic)
  | none =>
      match decl.kind with
      | .star =>
          if state.seenStar then
            .error (.secondStar generic)
          else
            .ok { params := { params with rest := decl.name }, seenStar := true }
      | .doubleStar => .ok { state with params := { params with otherKeys := decl.name } }
      | .fallback value =>
          let added : DefaultParam := { name, fallback := value }
          if state.seenStar then
            .ok { state with params := { params with keywords := params.keywords ++ [added] } }
          else
            .ok { state with params := { params with optional := params.optional ++ [added] } }
      | .plain =>
          if state.seenStar then
            let added : DefaultParam := { name, fallback := .nil }
            .ok { state with params := { params with keywords := params.keywords ++ [added] } }
          else if !params.optional.isEmpty then
            .error (.requiredAfterOptional name generic)
          else
            .ok { state with params := { params with required := params.required ++ [name] } }

/-- Adds parameters in order; a fault is located at its parameter. -/
def ParamState.addAll (generic : String) :
    ParamState → List ParamDecl → Except Located ParamState
  | state, [] => .ok state
  | state, decl :: rest =>
      match state.add generic decl with
      | .error fault => .error { fault, position := decl.position }
      | .ok next => addAll generic next rest

def GenericDecl.paramList (decl : GenericDecl) : Except Located ParamList := do
  let state ← ParamState.addAll decl.name { params := { required := [] }, seenStar := false }
    decl.params
  match state.params.validate with
  | .ok params => return params
  | .error fault => throw { fault := .params decl.name fault, position := decl.position }

def declareGeneric (registry : Registry) (decl : GenericDecl) : Except Located Registry := do
  let params ← decl.paramList
  match registry.declare decl.name params decl.precedence with
  | .ok (_, registry) => return registry
  | .error fault => throw { fault := .registry fault, position := decl.position }

/-- The specializer that a declaration names; the top type demands nothing. -/
def SpecDecl.specializer (decl : SpecDecl) (table : TypeTable) : Except Located Specializer :=
  match decl.kind with
  | .any => .ok .any
  | .exactly value => .ok (.exactly value)
  | .ofType name =>
      match table.lookup? name with
      | none => .error { fault := .unknownType name, position := decl.position }
      | some id => .ok (if (table.find? id).any (·.isTop) then .any else .ofType id)

def SpecDecl.label (decl : SpecDecl) : String :=
  match decl.kind with
  | .any => "_"
  | .ofType name => name
  -- Literals are short enough to be written, because they were read.
  | .exactly value => value.spelling

def MethodDecl.label (decl : MethodDecl) : String :=
  let labels := String.intercalate ", " (decl.specs.map SpecDecl.label)
  s!"{decl.generic}({labels})"

def declareMethod (table : TypeTable) (registry : Registry) (decl : MethodDecl) :
    Except Located Unit × Registry :=
  if !registry.isDeclared decl.generic then
    (.error { fault := .undeclaredGeneric decl.generic, position := decl.position }, registry)
  else
    match decl.specs.mapM (·.specializer table) with
    | .error located => (.error located, registry)
    | .ok specializers =>
        let proposals := specializers.map Proposal.specializer
        match registry.register decl.generic proposals { label := decl.label } none none with
        | (.ok _, left) => (.ok (), left)
        | (.error fault, left) =>
            (.error { fault := .registry fault, position := decl.position }, left)

/-- A type table and a registry, with the diagnostics of loading them. -/
structure World where
  table : TypeTable
  registry : Registry
  diagnostics : List Diagnostic
  file : Option String

namespace World

def isOk (world : World) : Bool :=
  !world.diagnostics.any (·.isError)

def empty (file : Option String) : World where
  table := (TypeTable.empty false).ensureTop.2
  registry := {}
  diagnostics := []
  file

def span (world : World) (position : Position) : Span where
  file := world.file
  line := some position.line
  column := some position.column

def report (world : World) (phase message : String) (position : Position) : World :=
  let diagnostic : Diagnostic := { message, phase := some phase, span := world.span position }
  { world with diagnostics := world.diagnostics ++ [diagnostic] }

def reject (world : World) (located : Located) : World :=
  world.report "declare" located.fault.message located.position

def addType (world : World) (decl : TypeDecl) : World :=
  match declareType world.table decl with
  | .ok table => { world with table }
  | .error fault => world.reject { fault, position := decl.position }

def addGeneric (world : World) (decl : GenericDecl) : World :=
  match declareGeneric world.registry decl with
  | .ok registry => { world with registry }
  | .error located => world.reject located

def addMethod (world : World) (decl : MethodDecl) : World :=
  match declareMethod world.table world.registry decl with
  | (.ok _, registry) => { world with registry }
  | (.error located, registry) => { world with registry }.reject located

/-- Loads all declarations: types, then generic functions, then methods. -/
def addProgram (world : World) (program : Program) : World :=
  let typed := program.types.foldl addType world
  let declared := program.generics.foldl addGeneric typed
  program.methods.foldl addMethod declared

/-- Loads a text. A fault of the grammar is a diagnostic and nothing is loaded;
a fault of a literal is no diagnostic. -/
def load (file : Option String) (text : String) : Except LiteralFault World :=
  match Program.read text with
  | .ok program => .ok ((empty file).addProgram program)
  | .error (.language fault) =>
      .ok ((empty file).report "parser" fault.message fault.position)
  | .error (.literal fault) => .error fault

end World

end StaticDispatch.Declaration
