import StaticDispatch.Proofs.Wrapper.Construction
import StaticDispatch.Proofs.Wrapper.Evaluation

/-!
Contract: a wrapper calls what its cascade selects.

Each check of a wrapper asks what the guard asks that it was made from, through names that
stand for the right things, and each branch calls the body of its method. So running a
wrapper on any call is selecting among the branches of the cascade, guard by guard, and
executing its source is running it.

Owns: what the checks, branches and calls of a wrapper mean, and the refinement.
Does not own: what a cascade selects, and dynamic dispatch.
-/

namespace StaticDispatch

variable {table later : TypeTable} {generic : GenericFunction} {cascade : Cascade}

namespace Wrapper

variable {wrapper : Wrapper} {space : Namespace} {names : Names}

/-! ## What names stand for -/

/-- A check asks what a guard asks: the name of a class stands for the host class of the
guard's type, the name of a test for the test of a type without one, and the name of a
value for a value that equals the guard's. -/
inductive Check.Asks (table : TypeTable) (space : Namespace) (guard : Guard) : Check → Prop where
  | isInstance {id : TypeId} {host : ClassId} (isTest : guard.test = .ofType id)
      (isHost : table.host? id = .ok (some host))
      (hostBound : space.find? (hostName id) = some (.hostClass host))
      (testBound : space.find? instanceTestName = some .instanceTest) :
      Asks table space guard (.isInstance guard.argument (hostName id))
  | passes {id : TypeId} (isTest : guard.test = .ofType id) (noHost : table.host? id = .ok none)
      (testBound : space.find? (typeTestName id) = some (.typeTest id)) :
      Asks table space guard (.passes guard.argument (typeTestName id))
  | equals {value bound : Value} {index : Nat} (isTest : guard.test = .exactly value)
      (valueBound : space.find? (valueName index) = some (.value bound))
      (equal : bound.eql value = true)
      (testBound : space.find? equalityTestName = some .equalityTest) :
      Asks table space guard (.equals guard.argument (valueName index))

/-- A branch follows a branch of the cascade: it asks the same, it asks something, and it
calls the body of the same method. -/
structure Branch.Follows (table : TypeTable) (space : Namespace) (branch : Cascade.Branch)
    (rendered : Branch) : Prop where
  asks : List.Forall₂ (Check.Asks table space) branch.guards rendered.checks
  asksSomething : rendered.checks ≠ []
  target : rendered.target = bodyName branch.method.ordinal
  bound : space.find? rendered.target = some (.body branch.method.body)

def finalMeaning : Cascade.Final → Meaning
  | .method method => .body method.body
  | .dispatch _ => .dispatcher

private theorem asks_of_renders {guard : Guard} {check : Check} (sound : names.Sound table generic)
    (renders : names.Renders table guard check) : check.Asks table names.space guard := by
  cases renders with
  | isInstance isTest isHost hostBound testBound =>
      obtain ⟨_, hostFound, host, isOther, rfl⟩ := sound.exists_means hostBound
      obtain ⟨_, testFound, rfl⟩ := sound.exists_means testBound
      rw [isHost] at isOther
      cases isOther
      exact .isInstance isTest isHost hostFound testFound
  | passes isTest noHost testBound =>
      obtain ⟨_, testFound, -, rfl⟩ := sound.exists_means testBound
      exact .passes isTest noHost testFound
  | equals isTest isFirst equal valueBound testBound =>
      obtain ⟨_, valueFound, first, bound, isOther, boundEqual, rfl⟩ :=
        sound.exists_means valueBound
      obtain ⟨_, testFound, rfl⟩ := sound.exists_means testBound
      rw [isFirst] at isOther
      cases isOther
      exact .equals isTest valueFound (Value.eql_trans boundEqual equal) testFound

/-- The name of a method's body stands for it, since no ordinal is used twice. -/
theorem find?_bodyName {method : Method} (sound : names.Sound table generic)
    (distinct : (generic.methods.map (·.ordinal)).Nodup) (isMethod : method ∈ generic.methods)
    (bound : names.IsBound (.body method.ordinal)) :
    names.space.find? (bodyName method.ordinal) = some (.body method.body) := by
  obtain ⟨_, found, other, isOther, sameOrdinal, rfl⟩ := sound.exists_means bound
  obtain rfl := List.inj_on_of_nodup_map distinct isOther isMethod sameOrdinal
  exact found

theorem Made.follows (made : Made table generic cascade wrapper names)
    (wellMade : cascade.WellMade generic)
    (distinct : (generic.methods.map (·.ordinal)).Nodup) :
    List.Forall₂ (Branch.Follows table wrapper.space) cascade.branches wrapper.branches := by
  rw [made.space]
  refine (Traversal.forall₂_mem made.branches).imp ?_
  rintro branch rendered ⟨isBranch, renders⟩
  have isMethod : branch.method ∈ generic.methods :=
    wellMade.methods _ (List.mem_append_left _ (List.mem_map_of_mem isBranch))
  refine ⟨renders.checks.imp fun _ _ => asks_of_renders made.sound, ?_, renders.target, ?_⟩
  · intro empty
    have unguarded := renders.checks
    rw [empty, List.forall₂_nil_right_iff] at unguarded
    exact wellMade.guarded branch isBranch unguarded
  · rw [renders.target]
    exact find?_bodyName made.sound distinct isMethod renders.bound

private theorem Made.final_eq (made : Made table generic cascade wrapper names)
    (wellMade : cascade.WellMade generic)
    (distinct : (generic.methods.map (·.ordinal)).Nodup) :
    wrapper.space.find? wrapper.final = some (finalMeaning cascade.final) := by
  rw [made.space, made.final]
  have bound := made.finalBound
  cases isFinal : cascade.final with
  | method method =>
      rw [isFinal] at bound
      exact find?_bodyName made.sound distinct
        (wellMade.methods method (by simp [Cascade.methods, isFinal])) bound
  | dispatch name =>
      rw [isFinal] at bound
      obtain ⟨_, found, rfl⟩ := made.sound.exists_means bound
      exact found

/-! ## Running -/

private theorem exists_classType {id : TypeId} {host : ClassId}
    (isHost : table.host? id = .ok (some host)) :
    ∃ name supertypes, table.find? id = some (.classType name supertypes (some host)) := by
  obtain ⟨definition, found, hosts⟩ := Traversal.map_eq_ok.mp isHost
  unfold TypeTable.get at found
  cases isDefined : table.find? id with
  | none => simp [isDefined] at found
  | some other =>
      simp only [isDefined, Except.ok.injEq] at found
      subst found
      cases other with
      | classType name supertypes own =>
          cases hosts
          exact ⟨name, supertypes, rfl⟩
      | top => cases hosts
      | literalType value base => cases hosts

/-- The parameter that a guard names has the value at the place of the guard. -/
theorem exists_argument {wrapper : Wrapper} {guard : Guard} {binding : Binding}
    (distinct : wrapper.params.required.Nodup)
    (place : wrapper.params.required[guard.index]? = some guard.argument)
    (count : binding.required.length = wrapper.params.required.length) :
    ∃ value, binding.required[guard.index]? = some value ∧
      wrapper.argument binding guard.argument = .ok value := by
  have inside : guard.index < binding.required.length :=
    count ▸ (List.getElem?_eq_some_iff.mp place).1
  refine ⟨_, List.getElem?_eq_getElem inside, ?_⟩
  rw [Wrapper.argument, ParamList.requiredValue?, ParamList.find?_zip distinct place,
    List.getElem?_eq_getElem inside]

/-- **A check answers what its guard does.** -/
theorem holds_eq {wrapper : Wrapper} {guard : Guard} {check : Check} {binding : Binding}
    (growth : table.Extends later) (distinct : wrapper.params.required.Nodup)
    (place : wrapper.params.required[guard.index]? = some guard.argument)
    (count : binding.required.length = wrapper.params.required.length)
    (asks : check.Asks table wrapper.space guard) :
    check.holds wrapper later binding =
      (guard.holds later binding.required).mapError .types := by
  obtain ⟨value, isValue, argument⟩ := exists_argument distinct place count
  rw [Guard.holds, isValue]
  cases asks with
  | @isInstance id host isTest isHost hostBound testBound =>
      obtain ⟨name, supertypes, isClass⟩ := exists_classType isHost
      simp only [Check.holds, hostBound, argument, isTest, Guard.Test.holds, Traversal.ok_bind,
        TypeTable.isInstance, TypeTable.get, growth.definitions id _ isClass]
      rfl
  | @passes id isTest noHost testBound =>
      simp only [Check.holds, testBound, argument, isTest, Guard.Test.holds, Traversal.ok_bind]
  | @equals wanted bound index isTest valueBound equal testBound =>
      simp only [Check.holds, valueBound, argument, isTest, Guard.Test.holds, Traversal.ok_bind]
      rw [Value.eql_congr value equal]
      rfl

/-- **The branches of a wrapper end in the name of what the cascade selects.** -/
theorem targetFrom_eq {wrapper : Wrapper} {binding : Binding} {final : Cascade.Final}
    {cascaded : List Cascade.Branch} {branches : List Branch}
    (growth : table.Extends later) (distinct : wrapper.params.required.Nodup)
    (count : binding.required.length = wrapper.params.required.length)
    (places : ∀ branch ∈ cascaded, ∀ guard ∈ branch.guards,
      wrapper.params.required[guard.index]? = some guard.argument)
    (isFinal : wrapper.final = (finalLabel final).text)
    (follow : List.Forall₂ (Branch.Follows table wrapper.space) cascaded branches) :
    wrapper.targetFrom later binding branches =
      ((Cascade.selectFrom later binding.required final cascaded).map
        (finalLabel · |>.text)).mapError .types := by
  induction follow with
  | nil =>
      rw [targetFrom, isFinal]
      rfl
  | @cons branch rendered rest renderedRest follows _ inductionHypothesis =>
      have guarded : (rendered.checks.allM fun check => check.holds wrapper later binding) =
          (branch.guards.allM fun guard : Guard =>
            guard.holds later binding.required).mapError .types :=
        Traversal.allM_mapError follows.asks fun guard isGuard check asks =>
          holds_eq growth distinct (places branch (by simp) guard isGuard) count asks
      have laterBranches := inductionHypothesis fun other inside => places other (by simp [inside])
      rw [targetFrom, Cascade.selectFrom, guarded]
      cases branch.guards.allM fun guard => guard.holds later binding.required with
      | error fault => rfl
      | ok answer =>
          cases answer with
          | true =>
              show Except.ok rendered.target = Except.ok (bodyName branch.method.ordinal)
              rw [follows.target]
          | false => exact laterBranches

end Wrapper

/-! ## Calls -/

/-- What comes of a call that ends in a method or in dynamic dispatch. -/
def Cascade.Final.answer (dispatch : Call → Except Dispatch.Fault Reply) (call : Call) :
    Cascade.Final → Except Wrapper.CallFault Reply
  | .method called => .ok (called.body.reply call)
  | .dispatch _ => (dispatch call).mapError .dispatch

/-- A call evaluated along a cascade: the arguments are bound, the guards are asked one by
one, and all parameters are passed on to what is selected. -/
def Cascade.answer (cascade : Cascade) (params : ParamList) (table : TypeTable)
    (dispatch : Call → Except Dispatch.Fault Reply) (call : Call) :
    Except Wrapper.CallFault Reply :=
  match params.bind? call with
  | none => .error .refused
  | some binding => do
      let selected ← (cascade.select table binding.required).mapError .types
      selected.answer dispatch (params.forward binding)

/-- A cascade selects the method of one of its branches, or its final call. -/
private theorem Cascade.selectFrom_cases {arguments : List Value} {final selected : Cascade.Final}
    {branches : List Cascade.Branch}
    (selects : selectFrom table arguments final branches = .ok selected) :
    selected = final ∨ ∃ branch ∈ branches, selected = .method branch.method := by
  induction branches with
  | nil => exact Or.inl (Except.ok.inj selects).symm
  | cons branch rest inductionHypothesis =>
      obtain ⟨answer, -, remaining⟩ := Traversal.bind_eq_ok.mp selects
      cases answer with
      | true => exact Or.inr ⟨branch, by simp, (Except.ok.inj remaining).symm⟩
      | false =>
          rcases inductionHypothesis remaining with isFinal | ⟨other, inside, isMethod⟩
          · exact Or.inl isFinal
          · exact Or.inr ⟨other, by simp [inside], isMethod⟩

namespace Wrapper

variable {wrapper : Wrapper} {names : Names}

/-- The name of what a cascade selects stands for it. -/
theorem find?_selected {selected : Cascade.Final} {arguments : List Value}
    (follow : List.Forall₂ (Branch.Follows table wrapper.space) cascade.branches wrapper.branches)
    (finalText : wrapper.final = (finalLabel cascade.final).text)
    (finalBound : wrapper.space.find? wrapper.final = some (finalMeaning cascade.final))
    (selects : cascade.select later arguments = .ok selected) :
    wrapper.space.find? (finalLabel selected).text = some (finalMeaning selected) := by
  rcases Cascade.selectFrom_cases selects with rfl | ⟨branch, isBranch, rfl⟩
  · rw [← finalText]
    exact finalBound
  · obtain ⟨rendered, -, follows⟩ := Traversal.exists_of_mem_left follow isBranch
    have bound := follows.bound
    rw [follows.target] at bound
    exact bound

/-- A wrapper ends in the name of what its cascade selects. -/
theorem target_eq {call : Call} {binding : Binding} (isParams : wrapper.params = generic.params)
    (distinct : generic.params.required.Nodup) (wellMade : cascade.WellMade generic)
    (follow : List.Forall₂ (Branch.Follows table wrapper.space) cascade.branches wrapper.branches)
    (finalText : wrapper.final = (finalLabel cascade.final).text)
    (growth : table.Extends later) (binds : generic.params.Binds call binding) :
    wrapper.target later binding =
      ((cascade.select later binding.required).map (finalLabel · |>.text)).mapError .types :=
  targetFrom_eq growth (isParams ▸ distinct) (isParams ▸ binds.length_required)
    (isParams ▸ wellMade.places) finalText follow

/-- What a wrapper is to the cascade that it was made from. -/
structure Refines (table : TypeTable) (generic : GenericFunction) (cascade : Cascade)
    (wrapper : Wrapper) : Prop where
  params : wrapper.params = generic.params
  /-- Each branch asks what its guards ask, and calls the body of its method. -/
  branches : List.Forall₂ (Branch.Follows table wrapper.space) cascade.branches wrapper.branches
  /-- The final call is one of the same method, or of the dispatcher. -/
  final : wrapper.final = (finalLabel cascade.final).text ∧
    wrapper.space.find? wrapper.final = some (finalMeaning cascade.final)
  defaults : ∀ param ∈ generic.params.optional ++ generic.params.keywords,
    wrapper.space.find? (ParamList.defaultName param.name) = some (.value param.fallback)
  /-- The source has no names but parameters and bound names. -/
  closed : ∀ word ∈ Text.words wrapper.source.toList, word ∈ keywords ∨ word = wrapper.name ∨
    word ∈ wrapper.params.names ∨ (wrapper.space.find? word).isSome = true
  apart : ∀ name ∈ wrapper.params.names, wrapper.space.find? name = none
  compiles : wrapper.compile = .ok wrapper
  /-- Every call, also when the table has grown, is answered as along the cascade. -/
  answers : ∀ later dispatch call, table.Extends later →
    wrapper.run later dispatch call = cascade.answer generic.params later dispatch call
  /-- The same comes of reading the source and calling the function that it defines. -/
  executes : ∀ later dispatch call, table.Extends later → (call.named.map (·.1)).Nodup →
    execute wrapper.source wrapper.name wrapper.space later dispatch call =
      some (cascade.answer generic.params later dispatch call)

/-- **Running a wrapper is selecting along its cascade.** -/
theorem run_eq (isParams : wrapper.params = generic.params)
    (ascii : ∀ name ∈ generic.params.names, Text.isAscii name.toList = true)
    (distinct : generic.params.required.Nodup) (wellMade : cascade.WellMade generic)
    (follow : List.Forall₂ (Branch.Follows table wrapper.space) cascade.branches wrapper.branches)
    (finalText : wrapper.final = (finalLabel cascade.final).text)
    (finalBound : wrapper.space.find? wrapper.final = some (finalMeaning cascade.final))
    (growth : table.Extends later) (dispatch : Call → Except Dispatch.Fault Reply) (call : Call) :
    wrapper.run later dispatch call = cascade.answer generic.params later dispatch call := by
  rw [run, Cascade.answer, isParams, ParamList.normalized_of_ascii ascii]
  dsimp only
  cases bound : generic.params.bind? call with
  | none => rfl
  | some binding =>
      have target := target_eq isParams distinct wellMade follow finalText growth
        (ParamList.bind?_eq_some_iff.mp bound)
      dsimp only
      rw [target]
      cases selects : cascade.select later binding.required with
      | error fault => rfl
      | ok selected =>
          have found := find?_selected follow finalText finalBound selects
          simp only [Except.map, Except.mapError, Traversal.ok_bind, found]
          cases selected with
          | method method => rfl
          | dispatch name => rfl

/-! ## The source -/

/-- Every bound name is read as itself. -/
theorem Made.readable (made : Made table generic cascade wrapper names)
    (areWords : ∀ name ∈ generic.params.names, Text.IsWord name) :
    ∀ name meaning, wrapper.space.find? name = some meaning → readName? name = some name := by
  rw [made.space]
  intro name meaning found
  obtain ⟨label, rfl, means⟩ := made.sound name meaning found
  exact ParamList.readName?_of_marked (isWord_text areWords means)
    (by rw [Label.toList_text]; rfl)

/-- **A check that is read asks what the wrapper does**, since its names stand for the same. -/
theorem holds_application {guard : Guard} {check : Check} {call : Call} {binding : Binding}
    (binds : wrapper.params.Binds call binding) (distinct : wrapper.params.names.Nodup)
    (readableParam : readName? guard.argument = some guard.argument)
    (readable : ∀ name meaning, wrapper.space.find? name = some meaning →
      readName? name = some name)
    (apart : ∀ name ∈ wrapper.params.names, wrapper.space.find? name = none)
    (place : wrapper.params.required[guard.index]? = some guard.argument)
    (asks : check.Asks table wrapper.space guard) :
    check.application.holds later ⟨wrapper.params.frame binding, wrapper.space⟩ =
      check.holds wrapper later binding := by
  obtain ⟨value, isValue, argument⟩ :=
    exists_argument (distinct.sublist wrapper.params.required_sublist) place binds.length_required
  have inFrame : (guard.argument, Slot.one value) ∈ wrapper.params.frame binding := by
    have together : (guard.argument, value) ∈ wrapper.params.required.zip binding.required :=
      List.mem_of_getElem? (List.getElem?_zip_eq_some.mpr ⟨place, isValue⟩)
    have slotted := ParamList.one_mem_zip together
    simp [ParamList.frame, slotted]
  have denotesParam : Scope.denoted? ⟨wrapper.params.frame binding, wrapper.space⟩ guard.argument =
      some (.parameter (.one value)) :=
    Scope.denoted?_parameter readableParam (ParamList.lookup_frame binds distinct inFrame)
  have denotes : ∀ {name : String} {meaning : Meaning},
      wrapper.space.find? name = some meaning →
        Scope.denoted? ⟨wrapper.params.frame binding, wrapper.space⟩ name =
          some (.bound meaning) := fun found =>
    Scope.denoted?_bound (readable _ _ found) (lookup_frame_of_bound binds apart found) found
  cases asks with
  | isInstance isTest isHost hostBound testBound =>
      rw [Check.holds_application (.isInstance _ _) (denotes testBound)
        (.cons denotesParam (.cons (denotes hostBound) .nil)) rfl]
      simp only [Check.holds, hostBound, argument, Traversal.ok_bind]
      rfl
  | @passes id isTest noHost testBound =>
      rw [Check.holds_application (.passes _ (typeTestName id)) (denotes testBound)
        (.cons denotesParam .nil) rfl]
      simp only [Check.holds, testBound, argument, Traversal.ok_bind]
  | equals isTest valueBound equal testBound =>
      rw [Check.holds_application (.equals _ _) (denotes testBound)
        (.cons denotesParam (.cons (denotes valueBound) .nil)) rfl]
      simp only [Check.holds, valueBound, argument, Traversal.ok_bind]
      rfl

/-- **Executing the source of a wrapper is running the wrapper.** -/
theorem Made.execute_source (made : Made table generic cascade wrapper names)
    (wellMade : cascade.WellMade generic) (asciiName : Text.isAscii generic.name.toList = true)
    (wellNamed : ParamList.WellNamed generic.params.names)
    (ascii : ∀ name ∈ generic.params.names, Text.isAscii name.toList = true)
    (follow : List.Forall₂ (Branch.Follows table wrapper.space) cascade.branches wrapper.branches)
    (finalBound : wrapper.space.find? wrapper.final = some (finalMeaning cascade.final))
    (growth : table.Extends later) (dispatch : Call → Except Dispatch.Fault Reply) {call : Call}
    (keys : (call.named.map (·.1)).Nodup) :
    execute wrapper.source wrapper.name wrapper.space later dispatch call =
      some (wrapper.run later dispatch call) := by
  have areWords : ∀ name ∈ generic.params.names, Text.IsWord name := fun name isParam =>
    Text.isWord_of_isIdentifier (ascii name isParam) (wellNamed.identifiers name isParam)
  have isWord : Text.IsWord wrapper.name := made.name ▸ isWord_nameFor asciiName
  have readableName : readName? wrapper.name = some wrapper.name := by
    obtain ⟨isName, unreserved⟩ := made.name ▸ nameFor_spec asciiName
    simp [readName?, isName, unreserved, Text.normalForm_of_ascii isWord.ascii]
  have asks : ∀ branch ∈ wrapper.branches, branch.checks ≠ [] := by
    intro branch isBranch
    obtain ⟨_, -, follows⟩ := Traversal.exists_of_mem_right follow isBranch
    exact follows.asksSomething
  have read : Definition.ofText? wrapper.source = some wrapper.definition :=
    ofText?_source isWord readableName (made.params ▸ areWords)
      (fun name isUsed => (made.mayUse wellMade name isUsed).isWord areWords made.sound) asks
  have isDefined : wrapper.definition.name = wrapper.name := rfl
  have apart := made.apart wellNamed
  have readable := made.readable areWords
  have requiredDistinct : generic.params.required.Nodup :=
    wellNamed.distinct.sublist generic.params.required_sublist
  rw [execute, read, Option.bind_eq_bind, Option.bind_some, if_pos isDefined]
  apply run_definition (made.params ▸ wellNamed) (made.params ▸ ascii) keys apart readable
  · rw [made.params]
    exact fun param isParam => made.default_eq wellNamed isParam
  · intro binding binds branch isBranch check isCheck
    obtain ⟨cascaded, isCascaded, follows⟩ := Traversal.exists_of_mem_right follow isBranch
    obtain ⟨guard, isGuard, asks⟩ := Traversal.exists_of_mem_right follows.asks isCheck
    have place := wellMade.places cascaded isCascaded guard isGuard
    have isParam := ParamList.mem_names.mpr (.inl (List.mem_of_getElem? place))
    exact holds_application binds (made.params ▸ wellNamed.distinct)
      (ParamList.readName?_of_ascii wellNamed ascii isParam) readable apart (made.params ▸ place)
      asks
  · intro binding target binds ended
    rw [made.params] at binds
    rw [target_eq made.params requiredDistinct wellMade follow made.final growth binds,
      Traversal.mapError_eq_ok, Traversal.map_eq_ok] at ended
    obtain ⟨selected, selects, rfl⟩ := ended
    simp [find?_selected follow made.final finalBound selects]

end Wrapper

/-- **A wrapper refines its cascade.** Take a function of any registry that was declared
and registered in with valid parameters, with names in ASCII, and any cascade that is
emitted for some of its candidates at a call site. The cascade has a wrapper exactly if the
types of its guards are defined and there is a dispatcher, if one is needed. In the
wrapper every branch asks something, the source uses nothing but parameters and bound
names, which are apart, and every bound name that is used stands for the body, host class,
value or default that it was bound for. So every call is answered as along the cascade, and
executing the source on it gives the same. -/
theorem wrapper_refines_cascade {calls : List Registry.Call} {generic : GenericFunction}
    {earlier : TypeTable} {permutation : List Nat} {types : List TypeId}
    {collected candidates : List Candidate} {checks : Bool} {cascade : Cascade}
    (valid : ∀ call ∈ calls, ∀ params, call.params? = some params →
      params.validate = .ok params)
    (declared : generic ∈ (Registry.run {} calls).1.generics)
    (asciiName : Text.isAscii generic.name.toList = true)
    (asciiParams : ∀ name ∈ generic.params.names, Text.isAscii name.toList = true)
    (collects : Candidate.collect earlier generic permutation types = .ok collected)
    (fromThese : ∀ candidate ∈ candidates, candidate ∈ collected)
    (emitted : Cascade.emit generic permutation checks candidates = .ok (some cascade))
    (table : TypeTable) (hasDispatcher : Bool) :
    ((∃ wrapper, Wrapper.ofCascade generic cascade table hasDispatcher none = .ok wrapper) ↔
        (∀ branch ∈ cascade.branches, ∀ guard ∈ branch.guards, guard.Defined table) ∧
          (hasDispatcher = true ∨ ∃ method, cascade.final = .method method)) ∧
      ∀ wrapper, Wrapper.ofCascade generic cascade table hasDispatcher none = .ok wrapper →
        wrapper.Refines table generic cascade := by
  have own : Candidate.AllOwn generic candidates :=
    fun candidate inside => Candidate.mem_of_collect collects (fromThese candidate inside)
  have wellMade := Cascade.wellMade_of_emit own emitted
  refine ⟨Wrapper.ofCascade_answers wellMade.named hasDispatcher, fun wrapper wraps => ?_⟩
  obtain ⟨names, made⟩ := Wrapper.exists_made wellMade wraps
  have validated : Registry.Validated {} := by simp [Registry.Validated]
  have wellNamed : ParamList.WellNamed generic.params.names :=
    ParamList.validate_eq_ok.mp (validated.run valid generic declared)
  have areWords : ∀ name ∈ generic.params.names, Text.IsWord name := fun name isParam =>
    Text.isWord_of_isIdentifier (asciiParams name isParam) (wellNamed.identifiers name isParam)
  have start : Registry.Records [] ({} : Registry) := ⟨.nil, fun _ => rfl, rfl⟩
  have records := start.run calls
  have ordinals : (generic.methods.map (·.ordinal)).Nodup :=
    (records.ordinals_sublist declared).nodup List.nodup_range
  have requiredDistinct : generic.params.required.Nodup :=
    wellNamed.distinct.sublist generic.params.required_sublist
  have follow := made.follows wellMade ordinals
  have finalBound := made.final_eq wellMade ordinals
  have answers : ∀ later dispatch call, table.Extends later → wrapper.run later dispatch call =
      cascade.answer generic.params later dispatch call :=
    fun later dispatch call growth => Wrapper.run_eq made.params asciiParams requiredDistinct
      wellMade follow made.final finalBound growth dispatch call
  exact {
    params := made.params
    branches := follow
    final := ⟨made.final, finalBound⟩
    defaults := fun param isParam => made.default_eq wellNamed isParam
    closed := made.closed wellMade asciiName areWords
    apart := made.apart wellNamed
    compiles := made.compile_eq asciiName wellNamed asciiParams
    answers
    executes := fun later dispatch call growth keys => answers later dispatch call growth ▸
      made.execute_source wellMade asciiName wellNamed asciiParams follow finalBound growth
        dispatch keys }

namespace Measuring

/-- Numbers, and a type without a host class. -/
def measureTable : TypeTable :=
  { TypeTable.empty true with
    definitions := #[.top, .classType "Number" [1] (some Hierarchy.intClass),
      .classType "Shape" [1] none] }

def measureParams : ParamList where
  required := ["left", "right"]
  optional := [{ name := "scale", fallback := .int 2 }]

/-- A value that is asked for at both places, a host class, and a type without one. -/
def measureCalls : List Registry.Call :=
  [.declare "measure" measureParams none,
    .register "measure" [.specializer (.exactly (.int 1)), .specializer (.exactly (.int 1))]
      { label := "unit" } none none,
    .register "measure" [.specializer (.ofType 2), .specializer (.ofType 3)]
      { label := "mixed" } none none]

def measure : GenericFunction where
  name := "measure"
  params := measureParams
  precedence := ["left", "right"]
  methods :=
    [{ specializers := [.exactly (.int 1), .exactly (.int 1)]
       body := ⟨"unit", false⟩
       ordinal := 0 },
      { specializers := [.ofType 2, .ofType 3]
        body := ⟨"mixed", false⟩
        ordinal := 1 }]

def measureCandidates : List Candidate :=
  measure.methods.map fun method =>
    { method, specializers := method.specializers, classes := [.ambiguous, .ambiguous] }

def measureCascade : Cascade where
  generic := "measure"
  branches :=
    [{ guards := [{ argument := "left", index := 0, test := .exactly (.int 1) },
        { argument := "right", index := 1, test := .exactly (.int 1) }]
       method := measure.methods[0] },
      { guards := [{ argument := "left", index := 0, test := .ofType 2 },
          { argument := "right", index := 1, test := .ofType 3 }]
        method := measure.methods[1] }]
  final := .dispatch "measure"

/-- The value has one name at both places. -/
def measureWrapper : Wrapper where
  name := "inline_measure"
  params := measureParams
  branches :=
    [{ checks := [.equals "left" "_v0", .equals "right" "_v0"], target := "_m0" },
      { checks := [.isInstance "left" "_t2", .passes "right" "_is_t3"], target := "_m1" }]
  final := "_dispatch"
  space := [("_default_scale", .value (.int 2)), ("_v0", .value (.int 1)), ("_eql", .equalityTest),
    ("_m0", .body ⟨"unit", false⟩), ("_t2", .hostClass Hierarchy.intClass),
    ("_isinstance", .instanceTest), ("_is_t3", .typeTest 3), ("_m1", .body ⟨"mixed", false⟩),
    ("_dispatch", .dispatcher)]

theorem measure_wrapper_refines_cascade :
    Wrapper.ofCascade measure measureCascade measureTable true none = .ok measureWrapper ∧
      measureWrapper.Refines measureTable measure measureCascade := by
  have valid : ∀ call ∈ measureCalls, ∀ params, call.params? = some params →
      params.validate = .ok params := by
    intro call isCall params given
    simp only [measureCalls, List.mem_cons, List.not_mem_nil, or_false] at isCall
    rcases isCall with rfl | rfl | rfl <;> cases given
    exact ParamList.validate_eq_ok.mpr ⟨by decide, by decide, by decide, by decide⟩
  have declared : measure ∈ (Registry.run {} measureCalls).1.generics := by
    have ran : (Registry.run {} measureCalls).1.generics = [measure] := by with_unfolding_all rfl
    rw [ran]
    exact List.mem_singleton_self measure
  have collects : Candidate.collect measureTable measure [0, 1] [1, 1] =
      .ok measureCandidates := by with_unfolding_all rfl
  have emitted : Cascade.emit measure [0, 1] true measureCandidates =
      .ok (some measureCascade) := by with_unfolding_all rfl
  have wraps : Wrapper.ofCascade measure measureCascade measureTable true none =
      .ok measureWrapper := by with_unfolding_all rfl
  exact ⟨wraps, (wrapper_refines_cascade valid declared (by decide) (by decide) collects
    (fun _ inside => inside) emitted measureTable true).2 measureWrapper wraps⟩

end Measuring

end StaticDispatch
