import StaticDispatch.Proofs.Wrapper.Reading
import StaticDispatch.Wrapper.Run

/-!
Contract: what the source of a wrapper does.

The source is read as the definition of a function, which is then called. Names in it stand
for parameters, and behind them for what is bound in a namespace. The arguments are bound to
the parameters that the text declares, the tests of each clause are applied in turn, and the
result of the first clause that applies is called with the arguments that the text gives it.
A wrapper that reads what it was made of does the same when it runs.

Owns: scopes, the evaluation of definitions, and its agreement with running a wrapper.
Does not own: what a wrapper answers.
-/

namespace StaticDispatch.Wrapper

/-! ## Scopes -/

structure Scope where
  frame : List (String × Slot)
  space : Namespace

inductive Referent where
  | parameter (slot : Slot)
  | bound (meaning : Meaning)

def Meaning.value? : Meaning → Option Value
  | .value held => some held
  | _ => none

def Referent.value? : Referent → Option Value
  | .parameter slot => slot.value?
  | .bound meaning => meaning.value?

/-- What a written name stands for. A parameter hides a bound name. -/
def Scope.denoted? (scope : Scope) (own : String) : Option Referent := do
  let name ← readName? own
  match scope.frame.lookup name with
  | some slot => some (.parameter slot)
  | none => (scope.space.find? name).map .bound

/-- What the items of a text stand for, if they are names. -/
def Scope.operands? (scope : Scope) (text : String) : Option (List Referent) := do
  (← Piece.listOfText? text).mapM fun
    | .plain own => scope.denoted? own
    | _ => none

/-! ## Evaluation -/

def Meaning.test? (table : TypeTable) :
    Meaning → List Referent → Option (Except TypeTable.Fault Bool)
  | .instanceTest, [object, .bound (.hostClass host)] =>
      object.value?.map fun value => .ok (value.isInstanceOf table.classes host)
  | .typeTest id, [object] => object.value?.map (table.isInstance · id)
  | .equalityTest, [object, wanted] => do
      return .ok ((← object.value?).eql (← wanted.value?))
  | _, _ => none

def Meaning.reply? (dispatch : Call → Except Dispatch.Fault Reply) (call : Call) :
    Meaning → Option (Except CallFault Reply)
  | .body called => some (.ok (called.reply call))
  | .dispatcher => some ((dispatch call).mapError .dispatch)
  | _ => none

namespace Application

def meaning? (scope : Scope) (application : Application) : Option Meaning :=
  match scope.denoted? application.function with
  | some (.bound meaning) => some meaning
  | _ => none

def holds (table : TypeTable) (scope : Scope) (application : Application) :
    Except CallFault Bool :=
  let answer := do
    (← application.meaning? scope).test? table (← scope.operands? application.arguments)
  match answer with
  | some answer => answer.mapError .types
  | none => .error (.unbound application.function)

def returned (dispatch : Call → Except Dispatch.Fault Reply) (scope : Scope)
    (application : Application) : Except CallFault Reply :=
  let reply := do
    (← application.meaning? scope).reply? dispatch
      (← Call.ofText? application.arguments scope.frame)
  match reply with
  | some reply => reply
  | none => .error (.unbound application.function)

end Application

/-- The result of the first clause that applies, or else the final one. -/
def Clause.selectFrom (table : TypeTable) (scope : Scope) (final : Application) :
    List Clause → Except CallFault Application
  | [] => return final
  | clause :: rest => do
      if ← clause.tests.allM (·.holds table scope) then
        return clause.result
      else
        selectFrom table scope final rest

/-- The values that are bound, from which defaults are taken. -/
def Namespace.values (space : Namespace) : List (String × Value) :=
  space.filterMap fun (name, meaning) => meaning.value?.map (name, ·)

/-- Calls a definition. There is no outcome if its parameters cannot be read. -/
def Definition.run (definition : Definition) (space : Namespace) (table : TypeTable)
    (dispatch : Call → Except Dispatch.Fault Reply) (call : Call) :
    Option (Except CallFault Reply) := do
  let params ← ParamList.ofText? definition.parameters space.values
  match params.bind? call with
  | none => return .error .refused
  | some binding =>
      let scope : Scope := { frame := params.frame binding, space }
      return do
        let result ← Clause.selectFrom table scope definition.final definition.clauses
        result.returned dispatch scope

/-- Calls the function with a name that a source defines in a namespace. There is no
outcome if the source cannot be read, or defines another function. -/
def execute (source name : String) (space : Namespace) (table : TypeTable)
    (dispatch : Call → Except Dispatch.Fault Reply) (call : Call) :
    Option (Except CallFault Reply) := do
  let definition ← Definition.ofText? source
  if definition.name = name then
    definition.run space table dispatch call
  else
    none

/-! ## Names -/

variable {scope : Scope} {table : TypeTable}

theorem Scope.denoted?_bound {own : String} {meaning : Meaning}
    (readable : readName? own = some own) (unhidden : scope.frame.lookup own = none)
    (found : scope.space.find? own = some meaning) :
    scope.denoted? own = some (.bound meaning) := by
  simp [denoted?, readable, unhidden, found]

theorem Scope.denoted?_parameter {own : String} {slot : Slot}
    (readable : readName? own = some own) (found : scope.frame.lookup own = some slot) :
    scope.denoted? own = some (.parameter slot) := by
  simp [denoted?, readable, found]

private theorem Scope.legible_of_denoted? {own : String} {referent : Referent}
    (denotes : scope.denoted? own = some referent) : Piece.Legible own := by
  obtain ⟨name, isRead, -⟩ := Option.bind_eq_some_iff.mp denotes
  unfold readName? at isRead
  split at isRead
  · rename_i isName
    exact Piece.legible_of_isIdentifier (Bool.and_eq_true_iff.mp isName).1
  · cases isRead

/-- Names in a list stand for what each of them stands for. -/
private theorem Scope.operands?_eq {owns : List String} {referents : List Referent}
    (denote : List.Forall₂ (fun own referent => scope.denoted? own = some referent)
      owns referents) :
    scope.operands? (String.intercalate ", " owns) = some referents := by
  have texts : owns = (owns.map Piece.plain).map Piece.text := by
    simp [Function.comp_def, Piece.text]
  have legible : ∀ piece ∈ owns.map Piece.plain, ∀ own ∈ piece.names, Piece.Legible own := by
    rw [List.forall_mem_map]
    intro own inside
    obtain ⟨referent, -, denotes⟩ := Traversal.exists_of_mem_left denote inside
    simpa [Piece.names] using legible_of_denoted? denotes
  rw [operands?, texts, Piece.listOfText?_texts legible, Option.bind_eq_bind, Option.bind_some,
    Traversal.mapM_eq_some_iff, List.forall₂_map_left_iff]
  exact denote

private theorem Namespace.lookup_values {space : Namespace} {name : String} {value : Value}
    (found : space.find? name = some (.value value)) : space.values.lookup name = some value := by
  unfold find? at found
  unfold values
  induction space with
  | nil => cases found
  | cons entry rest inductionHypothesis =>
      obtain ⟨existing, meaning⟩ := entry
      by_cases same : name = existing
      · subst same
        rw [List.lookup_cons_self] at found
        cases found
        simp [Meaning.value?]
      · rw [List.lookup_cons, beq_false_of_ne same] at found
        cases isValue : meaning.value? with
        | none => simpa [isValue] using inductionHypothesis found
        | some other =>
            simpa [isValue, List.lookup_cons, beq_false_of_ne same] using
              inductionHypothesis found

/-! ## Agreement -/

private theorem Check.arguments_eq (check : Check) :
    check.application.arguments = String.intercalate ", " check.names.tail := by
  cases check <;> simp [Check.application, Check.names, toString]

/-- A check that is written asks what its names stand for. -/
theorem Check.holds_application (check : Check) {meaning : Meaning}
    {referents : List Referent} {answer : Except TypeTable.Fault Bool}
    (isTest : scope.denoted? check.application.function = some (.bound meaning))
    (denote : List.Forall₂ (fun own referent => scope.denoted? own = some referent)
      check.names.tail referents)
    (answers : meaning.test? table referents = some answer) :
    check.application.holds table scope = answer.mapError .types := by
  simp [Application.holds, Application.meaning?, isTest, check.arguments_eq,
    Scope.operands?_eq denote, answers]

/-- **Clauses select what the branches do that wrote them**, if their tests agree. -/
theorem Clause.selectFrom_eq {wrapper : Wrapper} {binding : Binding} {branches : List Branch}
    (arguments : String)
    (agree : ∀ branch ∈ branches, ∀ check ∈ branch.checks,
      check.application.holds table scope = check.holds wrapper table binding) :
    selectFrom table scope ⟨wrapper.final, arguments⟩ (branches.map (Branch.clause arguments)) =
      (wrapper.targetFrom table binding branches).map (Application.mk · arguments) := by
  induction branches with
  | nil => rfl
  | cons branch rest inductionHypothesis =>
      rw [List.forall_mem_cons] at agree
      have tested : (branch.checks.map Check.application).allM (·.holds table scope) =
          branch.checks.allM (·.holds wrapper table binding) :=
        Traversal.allM_eq_of_forall₂ (List.forall₂_map_left_iff.mpr
          (List.forall₂_same.mpr agree.1))
      rw [List.map_cons, selectFrom, targetFrom, Branch.clause, tested]
      cases branch.checks.allM (·.holds wrapper table binding) with
      | error fault => rfl
      | ok answer =>
          cases answer with
          | true => rfl
          | false => exact inductionHypothesis agree.2

/-- What stands in the frame of a call hides no bound name. -/
theorem lookup_frame_of_bound {params : ParamList} {call : Call} {binding : Binding}
    {space : Namespace} {name : String} {meaning : Meaning}
    (binds : params.Binds call binding)
    (apart : ∀ name ∈ params.names, space.find? name = none)
    (found : space.find? name = some meaning) : (params.frame binding).lookup name = none := by
  rw [List.lookup_eq_none_iff]
  intro entry inside
  have isParam : entry.1 ∈ params.names := by
    rw [← ParamList.map_fst_frame binds]
    exact List.mem_map_of_mem inside
  rw [bne_iff_ne]
  rintro rfl
  simp [apart entry.1 isParam] at found

/-- **Calling the definition that a wrapper writes is running the wrapper**, if the names in
it can be read, its tests agree, and what it ends in is bound. -/
theorem run_definition {wrapper : Wrapper} {call : Call}
    (wellNamed : ParamList.WellNamed wrapper.params.names)
    (ascii : ∀ name ∈ wrapper.params.names, Text.isAscii name.toList = true)
    (keys : (call.named.map (·.1)).Nodup)
    (apart : ∀ name ∈ wrapper.params.names, wrapper.space.find? name = none)
    (readable : ∀ name meaning, wrapper.space.find? name = some meaning →
      readName? name = some name)
    (defaults : ∀ param ∈ wrapper.params.optional ++ wrapper.params.keywords,
      wrapper.space.find? (ParamList.defaultName param.name) = some (.value param.fallback))
    (agree : ∀ binding, wrapper.params.Binds call binding →
      ∀ branch ∈ wrapper.branches, ∀ check ∈ branch.checks,
        check.application.holds table ⟨wrapper.params.frame binding, wrapper.space⟩ =
          check.holds wrapper table binding)
    (ends : ∀ binding target, wrapper.params.Binds call binding →
      wrapper.target table binding = .ok target → (wrapper.space.find? target).isSome = true)
    (dispatch : Call → Except Dispatch.Fault Reply) :
    wrapper.definition.run wrapper.space table dispatch call =
      some (wrapper.run table dispatch call) := by
  have signed : ParamList.ofText? wrapper.params.formalText wrapper.space.values =
      some wrapper.params := by
    rw [ParamList.ofText?, ParamList.listOfText?_formalText wellNamed]
    exact ParamList.ofPieces?_of_found wellNamed ascii fun param inside =>
      Namespace.lookup_values (defaults param inside)
  rw [Definition.run, definition, signed, run, ParamList.normalized_of_ascii ascii,
    Option.bind_eq_bind, Option.bind_some]
  dsimp only
  cases bound : wrapper.params.bind? call with
  | none => rfl
  | some binding =>
      have binds := ParamList.bind?_eq_some_iff.mp bound
      have passed : Call.ofText? wrapper.params.callText (wrapper.params.frame binding) =
          some (wrapper.params.forward binding) := by
        have same : wrapper.params.SameNames wrapper.params.normalized := by
          rw [ParamList.normalized_of_ascii ascii]
          exact ⟨rfl, rfl, rfl, rfl, rfl⟩
        rw [Call.ofText?, ParamList.listOfText?_callText wellNamed]
        exact ParamList.ofPieces?_callPieces wellNamed same wellNamed.distinct binds keys
      dsimp only
      rw [Clause.selectFrom_eq _ (agree binding binds), ← target]
      cases ended : wrapper.target table binding with
      | error fault => rfl
      | ok target =>
          obtain ⟨meaning, found⟩ := Option.isSome_iff_exists.mp (ends binding target binds ended)
          have denotes : Scope.denoted? ⟨wrapper.params.frame binding, wrapper.space⟩ target =
              some (.bound meaning) :=
            Scope.denoted?_bound (readable target meaning found)
              (lookup_frame_of_bound binds apart found) found
          simp only [Except.map, Traversal.ok_bind, found, Application.returned,
            Application.meaning?, denotes, passed, Option.bind_eq_bind, Option.bind_some]
          cases meaning <;> rfl

end StaticDispatch.Wrapper
