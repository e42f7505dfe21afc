import StaticDispatch.Proofs.ParamList
import StaticDispatch.Proofs.TypeTable.Mirror
import StaticDispatch.Proofs.Value.Equality
import StaticDispatch.Wrapper.Basic

/-!
Contract: what the private names of a wrapper stand for.

Names are given and given again from guard to guard and from branch to branch. Each
private name has a label, which says what it may stand for, and no two labels have one
name. So a name that is given again keeps its meaning; only the name of a value may go
over to an equal value.

Owns: labels, the meaning of every private name, and the checks that guards become.
Does not own: the source of a wrapper, and what its checks answer.
-/

namespace StaticDispatch

/-- A guard on a value, or on a type that is defined. -/
def Guard.Defined (table : TypeTable) (guard : Guard) : Prop :=
  ∀ id, guard.test = .ofType id → table.Defines id

namespace Wrapper

/-! ## Binding -/

theorem Namespace.find?_cons (name : String) (meaning : Meaning) (rest : Namespace)
    (other : String) : Namespace.find? ((name, meaning) :: rest) other =
      if other = name then some meaning else Namespace.find? rest other := by
  unfold Namespace.find?
  rw [List.lookup_cons]
  by_cases same : other = name
  · simp [same]
  · simp [same, beq_false_of_ne same]

private theorem Namespace.find?_bind (space : Namespace) (name : String) (meaning : Meaning)
    (other : String) :
    (space.bind name meaning).find? other =
      if other = name then some meaning else space.find? other := by
  induction space with
  | nil => exact find?_cons name meaning [] other
  | cons entry rest inductionHypothesis =>
      obtain ⟨existing, old⟩ := entry
      rw [Namespace.bind, find?_cons]
      by_cases replaced : existing = name
      · rw [if_pos replaced, find?_cons, ← replaced]
        split <;> rfl
      · rw [if_neg replaced, find?_cons, inductionHypothesis]
        by_cases found : other = existing
        · rw [if_pos found, if_neg (found ▸ replaced), if_pos found]
        · rw [if_neg found, if_neg found]

/-! ## Labels -/

/-- Numbers are written in different ways if they differ. -/
theorem toString_int_inj {first second : Int}
    (same : (toString first).toList = (toString second).toList) : first = second := by
  have plain : ∀ number : Nat, (toString (Int.ofNat number)).toList = Nat.toDigits 10 number :=
    Text.toList_toString
  have negative : ∀ number : Nat, (toString (Int.negSucc number)).toList =
      '-' :: Nat.toDigits 10 (number + 1) := by
    intro number
    show ("-" ++ toString (number + 1)).toList = _
    rw [String.toList_append, Text.toList_toString]
    rfl
  have signless : ∀ number, '-' ∉ Nat.toDigits 10 number := fun number inside =>
    absurd (Text.isPlain_of_mem_digits inside) (by decide)
  cases first with
  | ofNat first =>
      cases second with
      | ofNat second =>
          rw [plain, plain] at same
          rw [Text.digits_inj same]
      | negSucc second =>
          rw [plain, negative] at same
          exact absurd (same ▸ List.mem_cons_self) (signless first)
  | negSucc first =>
      cases second with
      | ofNat second =>
          rw [plain, negative] at same
          exact absurd (same ▸ List.mem_cons_self) (signless second)
      | negSucc second =>
          rw [negative, negative, List.cons.injEq] at same
          rw [Nat.succ.inj (Text.digits_inj same.2)]

inductive Label where
  | fallback (param : String)
  | body (ordinal : Nat)
  | hostClass (id : TypeId)
  | typeTest (id : TypeId)
  | value (index : Nat)
  | instanceTest
  | equalityTest
  | dispatcher

namespace Label

def text : Label → String
  | .fallback param => ParamList.defaultName param
  | .body ordinal => bodyName ordinal
  | .hostClass id => hostName id
  | .typeTest id => typeTestName id
  | .value index => valueName index
  | .instanceTest => instanceTestName
  | .equalityTest => equalityTestName
  | .dispatcher => dispatcherName

def spelling : Label → List Char
  | .fallback param => ['d', 'e', 'f', 'a', 'u', 'l', 't', '_'] ++ param.toList
  | .body ordinal => 'm' :: Nat.toDigits 10 ordinal
  | .hostClass id => 't' :: (toString id).toList
  | .typeTest id => ['i', 's', '_', 't'] ++ (toString id).toList
  | .value index => 'v' :: Nat.toDigits 10 index
  | .instanceTest => ['i', 's', 'i', 'n', 's', 't', 'a', 'n', 'c', 'e']
  | .equalityTest => ['e', 'q', 'l']
  | .dispatcher => ['d', 'i', 's', 'p', 'a', 't', 'c', 'h']

theorem toList_text (label : Label) : label.text.toList = '_' :: label.spelling := by
  cases label with
  | fallback param => exact String.toList_append
  | body ordinal =>
      show ("_m" ++ toString ordinal).toList = _
      rw [String.toList_append, Text.toList_toString]
      rfl
  | hostClass id => exact String.toList_append
  | typeTest id => exact String.toList_append
  | value index =>
      show ("_v" ++ toString index).toList = _
      rw [String.toList_append, Text.toList_toString]
      rfl
  | instanceTest => rfl
  | equalityTest => rfl
  | dispatcher => rfl

/-- **No two labels have one name.** -/
theorem text_inj {first second : Label} (same : first.text = second.text) : first = second := by
  have spelled : first.spelling = second.spelling := by
    have characters := congrArg String.toList same
    rw [toList_text, toList_text] at characters
    exact (List.cons.inj characters).2
  cases first <;> cases second <;> simp [spelling] at spelled ⊢
  case fallback.fallback => exact String.toList_inj.mp spelled
  case body.body => exact Text.digits_inj spelled
  case hostClass.hostClass => exact toString_int_inj spelled
  case typeTest.typeTest => exact toString_int_inj spelled
  case value.value => exact Text.digits_inj spelled

/-- What the name for a label may stand for: a parameter's default, the body of the
function's method with an ordinal, the host class of a type, the test of a type without
one, and a value that is equal to the one with an index. -/
def Means (table : TypeTable) (generic : GenericFunction) (values : List Value) :
    Label → Meaning → Prop
  | .fallback name, meaning =>
      ∃ param ∈ generic.params.optional ++ generic.params.keywords,
        param.name = name ∧ meaning = .value param.fallback
  | .body ordinal, meaning =>
      ∃ method ∈ generic.methods, method.ordinal = ordinal ∧ meaning = .body method.body
  | .hostClass id, meaning =>
      ∃ host, table.host? id = .ok (some host) ∧ meaning = .hostClass host
  | .typeTest id, meaning => table.host? id = .ok none ∧ meaning = .typeTest id
  | .value index, meaning =>
      ∃ first bound, values[index]? = some first ∧ bound.eql first = true ∧
        meaning = .value bound
  | .instanceTest, meaning => meaning = .instanceTest
  | .equalityTest, meaning => meaning = .equalityTest
  | .dispatcher, meaning => meaning = .dispatcher

variable {table : TypeTable} {generic : GenericFunction} {values later : List Value}
  {label : Label} {meaning : Meaning}

private theorem getElem?_of_prefix {index : Nat} {value : Value}
    (found : values[index]? = some value)
    (more : values <+: later) : later[index]? = some value := by
  obtain ⟨added, rfl⟩ := more
  rwa [List.getElem?_append_left (List.getElem?_eq_some_iff.mp found).1]

/-- Further values change no meaning. -/
private theorem Means.more_values (means : label.Means table generic values meaning)
    (more : values <+: later) : label.Means table generic later meaning := by
  cases label with
  | value index =>
      obtain ⟨first, bound, isFirst, equal, isBound⟩ := means
      exact ⟨first, bound, getElem?_of_prefix isFirst more, equal, isBound⟩
  | fallback | body | hostClass | typeTest | instanceTest | equalityTest | dispatcher =>
      exact means

end Label

/-! ## Names given so far -/

namespace Names

variable {table : TypeTable} {generic : GenericFunction} {names next last : Names}
  {label : Label} {meaning : Meaning}

/-- Every bound name is that of a label and has a meaning of that label. -/
def Sound (table : TypeTable) (generic : GenericFunction) (names : Names) : Prop :=
  ∀ name meaning, names.space.find? name = some meaning →
    ∃ label : Label, label.text = name ∧ label.Means table generic names.values meaning

def IsBound (names : Names) (label : Label) : Prop :=
  (names.space.find? label.text).isSome = true

/-- Names stay bound, and values keep their indices. -/
structure Grows (names next : Names) : Prop where
  bound : ∀ label, names.IsBound label → next.IsBound label
  values : names.values <+: next.values

theorem Grows.refl (names : Names) : names.Grows names :=
  ⟨fun _ bound => bound, List.prefix_rfl⟩

theorem Grows.trans (before : names.Grows next) (after : next.Grows last) : names.Grows last :=
  ⟨fun label bound => after.bound label (before.bound label bound),
    before.values.trans after.values⟩

/-- **A bound name has the meaning of its label.** -/
theorem Sound.means (sound : names.Sound table generic)
    (found : names.space.find? label.text = some meaning) :
    label.Means table generic names.values meaning := by
  obtain ⟨own, sameText, means⟩ := sound _ _ found
  rw [Label.text_inj sameText] at means
  exact means

theorem Sound.exists_means (sound : names.Sound table generic) (bound : names.IsBound label) :
    ∃ meaning, names.space.find? label.text = some meaning ∧
      label.Means table generic names.values meaning := by
  obtain ⟨meaning, found⟩ := Option.isSome_iff_exists.mp bound
  exact ⟨meaning, found, sound.means found⟩

/-- **Giving a name once more loses nothing**: it keeps the names sound and bound. -/
theorem Sound.bind (sound : names.Sound table generic) (label : Label)
    (means : label.Means table generic names.values meaning) :
    (names.bind label.text meaning).Sound table generic ∧
      names.Grows (names.bind label.text meaning) ∧
      (names.bind label.text meaning).IsBound label := by
  refine ⟨fun name found isFound => ?_, ⟨fun other bound => ?_, List.prefix_rfl⟩, ?_⟩
  · rw [Names.bind, Namespace.find?_bind] at isFound
    split at isFound
    next isName =>
      cases isFound
      exact ⟨label, isName.symm, means⟩
    next => exact sound name found isFound
  · rw [IsBound, Names.bind, Namespace.find?_bind]
    split
    · rfl
    · exact bound
  · rw [IsBound, Names.bind, Namespace.find?_bind, if_pos rfl]
    rfl

/-- The check that a guard becomes, in names that are bound. -/
inductive Renders (table : TypeTable) (names : Names) (guard : Guard) : Check → Prop where
  | isInstance {id : TypeId} {host : ClassId} (isTest : guard.test = .ofType id)
      (isHost : table.host? id = .ok (some host)) (hostBound : names.IsBound (.hostClass id))
      (testBound : names.IsBound .instanceTest) :
      Renders table names guard (.isInstance guard.argument (hostName id))
  | passes {id : TypeId} (isTest : guard.test = .ofType id) (noHost : table.host? id = .ok none)
      (testBound : names.IsBound (.typeTest id)) :
      Renders table names guard (.passes guard.argument (typeTestName id))
  | equals {value first : Value} {index : Nat} (isTest : guard.test = .exactly value)
      (isFirst : names.values[index]? = some first) (equal : first.eql value = true)
      (valueBound : names.IsBound (.value index)) (testBound : names.IsBound .equalityTest) :
      Renders table names guard (.equals guard.argument (valueName index))

theorem Renders.grows {guard : Guard} {check : Check} (renders : names.Renders table guard check)
    (grows : names.Grows next) : next.Renders table guard check := by
  cases renders with
  | isInstance isTest isHost hostBound testBound =>
      exact .isInstance isTest isHost (grows.bound _ hostBound) (grows.bound _ testBound)
  | passes isTest noHost testBound => exact .passes isTest noHost (grows.bound _ testBound)
  | equals isTest isFirst equal valueBound testBound =>
      exact .equals isTest (Label.getElem?_of_prefix isFirst grows.values) equal
        (grows.bound _ valueBound) (grows.bound _ testBound)

/-- A value takes the name of the first value that it equals, its own if there is none. -/
theorem Sound.value_spec (sound : names.Sound table generic) {guard : Guard}
    {value first : Value} {values : List Value} {index : Nat}
    (isTest : guard.test = .exactly value) (more : names.values <+: values)
    (isFirst : values[index]? = some first) (equal : first.eql value = true) :
    let next := ({ names with values }.bind (valueName index) (.value value)).bind
      equalityTestName .equalityTest
    next.Sound table generic ∧ names.Grows next ∧
      next.Renders table guard (.equals guard.argument (valueName index)) := by
  have moreSound : { names with values }.Sound table generic := by
    intro name meaning found
    obtain ⟨label, isName, means⟩ := sound name meaning found
    exact ⟨label, isName, means.more_values more⟩
  obtain ⟨firstSound, firstGrows, valueBound⟩ := moreSound.bind (.value index)
    ⟨first, value, isFirst, Value.eql_comm first value ▸ equal, rfl⟩
  obtain ⟨lastSound, lastGrows, testBound⟩ := firstSound.bind .equalityTest rfl
  refine ⟨lastSound, ⟨fun label bound => ?_, more⟩,
    .equals isTest isFirst equal (lastGrows.bound _ valueBound) testBound⟩
  exact lastGrows.bound _ (firstGrows.bound _ bound)

/-- **What one guard does**: the names stay sound and bound, and its check is in bound
names. -/
theorem check_spec {guard : Guard} {check : Check} (sound : names.Sound table generic)
    (made : names.check table guard = .ok (check, next)) :
    next.Sound table generic ∧ names.Grows next ∧ next.Renders table guard check := by
  unfold Names.check at made
  split at made
  next id isTest =>
    obtain ⟨host, isHost, remaining⟩ := Traversal.bind_eq_ok.mp made
    cases host with
    | some host =>
        cases remaining
        obtain ⟨firstSound, firstGrows, hostBound⟩ :=
          sound.bind (.hostClass id) ⟨host, isHost, rfl⟩
        obtain ⟨lastSound, lastGrows, testBound⟩ := firstSound.bind .instanceTest rfl
        exact ⟨lastSound, firstGrows.trans lastGrows,
          .isInstance isTest isHost (lastGrows.bound _ hostBound) testBound⟩
    | none =>
        cases remaining
        obtain ⟨nextSound, grows, testBound⟩ := sound.bind (.typeTest id) ⟨isHost, rfl⟩
        exact ⟨nextSound, grows, .passes isTest isHost testBound⟩
  next value isTest =>
    cases found : names.values.findIdx? (·.eql value) with
    | some index =>
        rw [found] at made
        cases made
        obtain ⟨inside, equal, -⟩ := List.findIdx?_eq_some_iff_getElem.mp found
        exact sound.value_spec isTest List.prefix_rfl (List.getElem?_eq_getElem inside) equal
    | none =>
        rw [found] at made
        cases made
        exact sound.value_spec isTest (List.prefix_append ..) List.getElem?_concat_length
          value.eql_self

/-- **What the guards of a branch do.** -/
theorem checks_spec {guards : List Guard} {checks : List Check}
    (sound : names.Sound table generic) (made : names.checks table guards = .ok (checks, next)) :
    next.Sound table generic ∧ names.Grows next ∧
      List.Forall₂ (next.Renders table) guards checks := by
  induction guards generalizing names checks with
  | nil =>
      cases made
      exact ⟨sound, .refl _, .nil⟩
  | cons guard rest inductionHypothesis =>
      obtain ⟨⟨check, middle⟩, first, remaining⟩ := Traversal.bind_eq_ok.mp made
      obtain ⟨⟨others, last⟩, later, same⟩ := Traversal.bind_eq_ok.mp remaining
      cases same
      obtain ⟨middleSound, middleGrows, renders⟩ := check_spec sound first
      obtain ⟨nextSound, nextGrows, rendered⟩ := inductionHypothesis middleSound later
      exact ⟨nextSound, middleGrows.trans nextGrows, .cons (renders.grows nextGrows) rendered⟩

theorem method_spec {method : Method} (sound : names.Sound table generic)
    (isMethod : method ∈ generic.methods) :
    (names.method method).2.Sound table generic ∧ names.Grows (names.method method).2 ∧
      (names.method method).2.IsBound (.body method.ordinal) :=
  sound.bind (.body method.ordinal) ⟨method, isMethod, rfl, rfl⟩

structure RendersBranch (table : TypeTable) (names : Names) (branch : Cascade.Branch)
    (rendered : Branch) : Prop where
  checks : List.Forall₂ (names.Renders table) branch.guards rendered.checks
  target : rendered.target = bodyName branch.method.ordinal
  bound : names.IsBound (.body branch.method.ordinal)

theorem RendersBranch.grows {branch : Cascade.Branch} {rendered : Branch}
    (renders : names.RendersBranch table branch rendered) (grows : names.Grows next) :
    next.RendersBranch table branch rendered :=
  ⟨renders.checks.imp fun _ _ renders => renders.grows grows, renders.target,
    grows.bound _ renders.bound⟩

/-- **What the branches of a cascade do.** -/
theorem branches_spec {cascaded : List Cascade.Branch} {branches : List Branch}
    (sound : names.Sound table generic)
    (own : ∀ branch ∈ cascaded, branch.method ∈ generic.methods)
    (made : names.branches table cascaded = .ok (branches, next)) :
    next.Sound table generic ∧ names.Grows next ∧
      List.Forall₂ (next.RendersBranch table) cascaded branches := by
  induction cascaded generalizing names branches with
  | nil =>
      cases made
      exact ⟨sound, .refl _, .nil⟩
  | cons branch rest inductionHypothesis =>
      obtain ⟨⟨checks, tested⟩, guarded, remaining⟩ := Traversal.bind_eq_ok.mp made
      obtain ⟨⟨others, last⟩, later, same⟩ := Traversal.bind_eq_ok.mp remaining
      cases same
      obtain ⟨testedSound, testedGrows, rendered⟩ := checks_spec sound guarded
      obtain ⟨namedSound, namedGrows, bound⟩ :=
        method_spec testedSound (own branch (by simp))
      obtain ⟨nextSound, nextGrows, renderedRest⟩ := inductionHypothesis namedSound
        (fun other inside => own other (by simp [inside])) later
      refine ⟨nextSound, testedGrows.trans (namedGrows.trans nextGrows), .cons ?_ renderedRest⟩
      exact RendersBranch.grows
        ⟨rendered.imp fun _ _ renders => renders.grows namedGrows, rfl, bound⟩ nextGrows

/-- The names of defaults are there from the start. -/
theorem start_spec (table : TypeTable) (generic : GenericFunction) :
    (start generic.params).Sound table generic ∧
      ∀ param ∈ generic.params.optional ++ generic.params.keywords,
        (start generic.params).IsBound (.fallback param.name) := by
  have startAt : ∀ name, (start generic.params).space.find? name =
      ((generic.params.optional ++ generic.params.keywords).find?
        (ParamList.defaultName ·.name = name)).map (.value ·.fallback) := by
    intro name
    rw [start, ParamList.defaults, List.map_map]
    induction generic.params.optional ++ generic.params.keywords with
    | nil => rfl
    | cons param rest inductionHypothesis =>
        rw [List.map_cons, Function.comp_apply, Namespace.find?_cons, inductionHypothesis,
          List.find?_cons]
        by_cases isName : name = ParamList.defaultName param.name
        · simp [isName]
        · simp [isName, Ne.symm isName]
  constructor
  · intro name meaning found
    rw [startAt, Option.map_eq_some_iff] at found
    obtain ⟨param, isParam, rfl⟩ := found
    have isName := List.find?_some isParam
    rw [decide_eq_true_eq] at isName
    exact ⟨.fallback param.name, isName, param, List.mem_of_find?_eq_some isParam, rfl, rfl⟩
  · intro param inside
    rw [IsBound, startAt, Option.isSome_map, List.find?_isSome]
    exact ⟨param, inside, decide_eq_true rfl⟩

/-! ## Faults -/

/-- A guard has a check exactly if its type is defined. -/
theorem check_answers (names : Names) (guard : Guard) :
    (∃ result, names.check table guard = .ok result) ↔ guard.Defined table := by
  obtain ⟨argument, index, test⟩ := guard
  cases test with
  | exactly value =>
      refine iff_of_true ⟨_, rfl⟩ fun id isTest => ?_
      cases isTest
  | ofType id =>
      have hostAnswers : (∃ host, table.host? id = .ok host) ↔ table.Defines id := by
        unfold TypeTable.Defines TypeTable.host? TypeTable.get
        cases table.find? id <;> simp [Except.map]
      constructor
      · rintro ⟨result, made⟩ _ ⟨rfl⟩
        obtain ⟨host, isHost, -⟩ := Traversal.bind_eq_ok.mp made
        exact hostAnswers.mp ⟨host, isHost⟩
      · intro defined
        obtain ⟨host, isHost⟩ := hostAnswers.mpr (defined id rfl)
        rw [Names.check]
        dsimp only
        rw [isHost]
        cases host <;> exact ⟨_, rfl⟩

private theorem checks_answers (names : Names) (guards : List Guard) :
    (∃ result, names.checks table guards = .ok result) ↔
      ∀ guard ∈ guards, guard.Defined table := by
  induction guards generalizing names with
  | nil => exact iff_of_true ⟨_, rfl⟩ (by simp)
  | cons guard rest inductionHypothesis =>
      rw [List.forall_mem_cons]
      constructor
      · rintro ⟨result, made⟩
        obtain ⟨⟨check, middle⟩, first, remaining⟩ := Traversal.bind_eq_ok.mp made
        obtain ⟨later, isLater, -⟩ := Traversal.bind_eq_ok.mp remaining
        exact ⟨(check_answers names guard).mp ⟨_, first⟩,
          (inductionHypothesis middle).mp ⟨_, isLater⟩⟩
      · rintro ⟨defined, restDefined⟩
        obtain ⟨⟨check, middle⟩, first⟩ := (check_answers names guard).mpr defined
        obtain ⟨later, isLater⟩ := (inductionHypothesis middle).mpr restDefined
        exact ⟨_, Traversal.bind_eq_ok.mpr ⟨_, first, Traversal.bind_eq_ok.mpr ⟨_, isLater, rfl⟩⟩⟩

/-- **The branches of a cascade can be made exactly if the types of all guards are
defined.** -/
theorem branches_answers (names : Names) (cascaded : List Cascade.Branch) :
    (∃ result, names.branches table cascaded = .ok result) ↔
      ∀ branch ∈ cascaded, ∀ guard ∈ branch.guards, guard.Defined table := by
  induction cascaded generalizing names with
  | nil => exact iff_of_true ⟨_, rfl⟩ (by simp)
  | cons branch rest inductionHypothesis =>
      rw [List.forall_mem_cons]
      constructor
      · rintro ⟨result, made⟩
        obtain ⟨⟨checks, middle⟩, first, remaining⟩ := Traversal.bind_eq_ok.mp made
        obtain ⟨later, isLater, -⟩ := Traversal.bind_eq_ok.mp remaining
        exact ⟨(checks_answers names branch.guards).mp ⟨_, first⟩,
          (inductionHypothesis _).mp ⟨_, isLater⟩⟩
      · rintro ⟨defined, restDefined⟩
        obtain ⟨⟨checks, middle⟩, first⟩ := (checks_answers names branch.guards).mpr defined
        obtain ⟨later, isLater⟩ := (inductionHypothesis (middle.method branch.method).2).mpr
          restDefined
        exact ⟨_, Traversal.bind_eq_ok.mpr ⟨_, first, Traversal.bind_eq_ok.mpr ⟨_, isLater, rfl⟩⟩⟩

end Names

end Wrapper

end StaticDispatch
