import StaticDispatch.Proofs.RegistrationOrder

/-!
Contract: dynamic dispatch does not look at the order of registration.

Two specializers that one value meets are equally near to it only if they are equal: the
linearization of its class holds each class once, each class has one type, and two exact
values that are equal to a third are equal. Place by place this carries over to keys, so of
two methods that arguments satisfy one is nearer, and the ordinal never decides. The order
of the applicable methods is then the order of their distances, whichever was registered
first.

Owns: ties of distances, and the applicable methods under two orders of registration.
Does not own: static resolution under two orders.
-/

namespace StaticDispatch

open Precedence (toPrecedence?)

variable {table later : TypeTable} {generic first second : GenericFunction}
  {permutation : List Nat} {arguments required ordered : List Value}

namespace Dispatch

/-! ## Ties -/

/-- **Specializers that are met by one value and equally near to it are equal.** -/
theorem beq_of_compareDistance_eq (mirrors : later.Mirrors) {left right : Specializer}
    {value : Value} (leftNominal : left.Nominal later) (rightNominal : right.Nominal later)
    (leftMet : left.isMet later value = true) (rightMet : right.isMet later value = true)
    (tie : compareDistance (distanceOf later value left) (distanceOf later value right) = .eq) :
    (left == right) = true := by
  obtain ⟨sameKind, samePlace⟩ :
      (distanceOf later value left).1 = (distanceOf later value right).1 ∧
        (distanceOf later value left).2 = (distanceOf later value right).2 := by
    simpa [compareDistance, compareLex, compareOn, Ordering.then_eq_eq] using tie
  have sameRank : left.rank = right.rank := by
    rw [distanceOf_fst, distanceOf_fst] at sameKind
    have leftRank := left.rank_le_two
    have rightRank := right.rank_le_two
    omega
  rw [Specializer.beq_iff]
  cases left with
  | any => cases right <;> first | rfl | cases sameRank
  | exactly wanted =>
      cases right with
      | exactly other => exact Value.eql_of_common leftMet rightMet
      | any => cases sameRank
      | ofType id => cases sameRank
  | ofType id =>
      cases right with
      | ofType other =>
          -- Both classes stand in the linearization of the value's class, at one place.
          obtain ⟨cls, host⟩ := leftNominal
          obtain ⟨otherCls, otherHost⟩ := rightNominal
          simp only [distanceOf, host, otherHost] at samePlace
          have sameClass : cls = otherCls :=
            (List.idxOf_inj (mem_linearization_of_isMet host leftMet)).mp samePlace
          subst sameClass
          simpa [Specializer.eql] using mirrors.oneHost id other cls host otherHost
      | any => cases sameRank
      | exactly wanted => cases sameRank

/-- Keys that are met by the same values and equally near to them are the same. -/
private theorem sameKey_of_compareDistances_eq (mirrors : later.Mirrors)
    {lefts rights : List Specializer}
    (leftNominal : AllNominal later lefts) (rightNominal : AllNominal later rights)
    (leftCount : lefts.length = ordered.length) (rightCount : rights.length = ordered.length)
    (leftMet : (lefts.zip ordered).all (fun (specializer, value) => specializer.isMet later value) =
      true)
    (rightMet : (rights.zip ordered).all
      (fun (specializer, value) => specializer.isMet later value) = true)
    (tie : compareDistances (distancesOf later lefts ordered) (distancesOf later rights ordered) =
      .eq) : SameKey lefts rights := by
  induction ordered generalizing lefts rights with
  | nil =>
      rw [List.length_nil, List.length_eq_zero_iff] at leftCount rightCount
      subst leftCount rightCount
      exact .nil
  | cons value values inductionHypothesis =>
      obtain ⟨left, lefts, rfl⟩ := List.exists_cons_of_length_eq_add_one leftCount
      obtain ⟨right, rights, rfl⟩ := List.exists_cons_of_length_eq_add_one rightCount
      rw [List.zip_cons_cons, List.all_cons, Bool.and_eq_true] at leftMet rightMet
      simp only [compareDistances_eq, distancesOf, List.zip_cons_cons, List.map_cons,
        List.compareLex_cons_cons, Ordering.then_eq_eq] at tie
      refine .cons (beq_of_compareDistance_eq mirrors (leftNominal left (by simp))
        (rightNominal right (by simp)) leftMet.1 rightMet.1 tie.1) ?_
      exact inductionHypothesis (fun other inside => leftNominal other (by simp [inside]))
        (fun other inside => rightNominal other (by simp [inside])) (by simpa using leftCount)
        (by simpa using rightCount) leftMet.2 rightMet.2
        (by rw [compareDistances_eq]; exact tie.2)

/-! ## Methods by their distances -/

def meets (later : TypeTable) (required : List Value) (specializers : List Specializer) : Bool :=
  (specializers.zip required).all fun (specializer, value) => specializer.isMet later value

def measure (later : TypeTable) (permutation : List Nat) (required : List Value)
    (specializers : List Specializer) : List (Nat × Nat) :=
  distancesOf later ((toPrecedence? permutation specializers).getD [])
    ((toPrecedence? permutation required).getD [])

def Match.of (later : TypeTable) (permutation : List Nat) (required : List Value)
    (method : Method) : Match where
  distances := measure later permutation required method.specializers
  method := method

/-- A function that is called with as many arguments as it requires. -/
structure Called (later : TypeTable) (generic : GenericFunction) (permutation : List Nat)
    (required : List Value) : Prop where
  mirrors : later.Mirrors
  wellFormed : generic.WellFormed
  permuted : Precedence.permutation generic.params.required (some generic.precedence) =
    .ok permutation
  nominal : ∀ method ∈ generic.methods, AllNominal later method.specializers
  count : required.length = generic.arity
  known : ∀ value ∈ required, later.classes.Knows value.cls

namespace Called

variable {method other : Method} (called : Called later generic permutation required)

include called

/-- The arguments in precedence order. -/
theorem exists_ordered :
    ∃ ordered, toPrecedence? permutation required = some ordered ∧
      ordered.length = permutation.length := by
  have rearranges : permutation.Perm (List.range required.length) := by
    rw [called.count]
    exact Precedence.perm_range called.permuted
  obtain ⟨ordered, arranged⟩ := Precedence.toPrecedence?_of_perm rearranges
  exact ⟨ordered, arranged, Precedence.length_of_toPrecedence? arranged⟩

/-- The specializers of a method in precedence order. -/
theorem exists_arranged (isMethod : method ∈ generic.methods) :
    ∃ specializers, toPrecedence? permutation method.specializers = some specializers ∧
      specializers.length = permutation.length ∧ AllNominal later specializers := by
  have rearranges : permutation.Perm (List.range method.specializers.length) := by
    rw [called.wellFormed.lengths method isMethod]
    exact Precedence.perm_range called.permuted
  obtain ⟨specializers, arranged⟩ := Precedence.toPrecedence?_of_perm rearranges
  exact ⟨specializers, arranged, Precedence.length_of_toPrecedence? arranged,
    fun specializer inside => called.nominal method isMethod specializer
      (Precedence.mem_of_toPrecedence? arranged inside)⟩

private theorem match?_eq_of (isMethod : method ∈ generic.methods) :
    match? later permutation required method =
      .ok (if meets later required method.specializers then
        some (Match.of later permutation required method) else none) := by
  obtain ⟨ordered, orderedAre, -⟩ := called.exists_ordered
  obtain ⟨specializers, arranged, -, nominal⟩ := called.exists_arranged isMethod
  rw [match?_of_accepts (accepts_eq_all called.mirrors called.known fun specializer inside =>
      ((called.nominal method isMethod specializer inside).grounded called.mirrors).defined)
    arranged orderedAre fun specializer inside =>
      ((nominal specializer inside).grounded called.mirrors).defined]
  simp only [Match.of, measure, meets, arranged, orderedAre, Option.getD_some]

/-- **Of two satisfied methods with different keys, one is nearer.** -/
theorem sameKey_of_tie (isMethod : method ∈ generic.methods) (isOther : other ∈ generic.methods)
    (met : meets later required method.specializers = true)
    (otherMet : meets later required other.specializers = true)
    (tie : compareDistances (measure later permutation required method.specializers)
      (measure later permutation required other.specializers) = .eq) :
    SameKey method.specializers other.specializers := by
  obtain ⟨ordered, orderedAre, orderedCount⟩ := called.exists_ordered
  obtain ⟨specializers, arranged, count, nominal⟩ := called.exists_arranged isMethod
  obtain ⟨others, othersArranged, othersCount, othersNominal⟩ := called.exists_arranged isOther
  have length := called.wellFormed.lengths method isMethod
  have otherLength := called.wellFormed.lengths other isOther
  have rearranges : permutation.Perm (List.range method.specializers.length) := by
    rw [length]
    exact Precedence.perm_range called.permuted
  rw [← sameKey_iff_arranged rearranges (length.trans otherLength.symm) arranged othersArranged]
  rw [meets, Precedence.all_zip_eq rearranges (by rw [length, called.count]) arranged
    orderedAre] at met
  rw [meets, Precedence.all_zip_eq (by rwa [otherLength, ← length])
    (by rw [otherLength, called.count]) othersArranged orderedAre] at otherMet
  simp only [measure, arranged, othersArranged, orderedAre, Option.getD_some] at tie
  exact sameKey_of_compareDistances_eq called.mirrors nominal othersNominal
    (count.trans orderedCount.symm) (othersCount.trans orderedCount.symm) met otherMet tie

end Called

def matchesOf (later : TypeTable) (permutation : List Nat) (required : List Value)
    (methods : List Method) : List Match :=
  (methods.filter (meets later required ·.specializers)).map (Match.of later permutation required)

namespace Called

variable (called : Called later generic permutation required)

include called

/-- **Distances decide the order of all satisfied methods.** -/
theorem pairwise_lt :
    ((matchesOf later permutation required generic.methods).mergeSort Match.precedes).Pairwise
      fun first second => compareDistances first.distances second.distances = .lt := by
  have untied : (matchesOf later permutation required generic.methods).Pairwise
      fun first second => compareDistances first.distances second.distances ≠ .eq := by
    rw [matchesOf, List.pairwise_map]
    refine (called.wellFormed.distinct.filter _).imp_of_mem ?_
    intro method other inside otherInside different tie
    obtain ⟨isMethod, met⟩ := List.mem_filter.mp inside
    obtain ⟨isOther, otherMet⟩ := List.mem_filter.mp otherInside
    exact different (called.sameKey_of_tie isMethod isOther met otherMet tie)
  have symmetric : ∀ {first second : Match},
      compareDistances first.distances second.distances ≠ .eq →
        compareDistances second.distances first.distances ≠ .eq := by
    intro first second apart tie
    rw [compareDistances_eq] at apart tie
    exact apart (Std.OrientedCmp.eq_symm tie)
  have sortedUntied := ((List.mergeSort_perm _ Match.precedes).pairwise_iff symmetric).mpr untied
  refine ((Match.pairwise_mergeSort _).and sortedUntied).imp ?_
  rintro first second ⟨precedes, apart⟩
  rw [Match.precedes] at precedes
  cases compared : compareDistances first.distances second.distances with
  | lt => rfl
  | eq => exact absurd compared apart
  | gt =>
      rw [compared] at precedes
      cases precedes

private theorem pairwise_measure_lt :
    (((matchesOf later permutation required generic.methods).mergeSort
      Match.precedes).map (·.method)).Pairwise fun nearer further =>
        compareDistances (measure later permutation required nearer.specializers)
          (measure later permutation required further.specializers) = .lt := by
  have measured : ∀ matched ∈ (matchesOf later permutation required generic.methods).mergeSort
      Match.precedes, matched.distances =
        measure later permutation required matched.method.specializers := by
    intro matched inside
    obtain ⟨method, -, rfl⟩ := List.mem_map.mp ((List.mergeSort_perm _ _).mem_iff.mp inside)
    rfl
  rw [List.pairwise_map]
  refine called.pairwise_lt.imp_of_mem fun firstIn secondIn nearer => ?_
  rwa [measured _ firstIn, measured _ secondIn] at nearer

private theorem applicable_eq_of {arguments : List Value}
    (taken : arguments.take generic.arity = required) :
    applicable later generic arguments =
      .ok (((matchesOf later permutation required generic.methods).mergeSort
        Match.precedes).map (·.method)) := by
  have walked : generic.methods.filterMapM (match? later permutation required) =
      .ok (generic.methods.filterMap fun method =>
        if meets later required method.specializers then
          some (Match.of later permutation required method) else none) :=
    Traversal.filterMapM_ok fun method isMethod => called.match?_eq_of isMethod
  have same : (generic.methods.filterMap fun method =>
      if meets later required method.specializers then
        some (Match.of later permutation required method) else none) =
      matchesOf later permutation required generic.methods := by
    rw [matchesOf, ← List.filterMap_eq_map, List.filterMap_filter]
    rfl
  simp only [applicable, taken, called.count, ne_eq, not_true, if_false, called.permuted, walked,
    same, Traversal.ok_bind, Traversal.pure_eq_ok]

end Called

private theorem applicable_of_tooFew (tooFew : arguments.length < generic.arity) :
    applicable later generic arguments =
      .error (.argumentCount generic.name generic.arity arguments.length) := by
  have taken : arguments.take generic.arity = arguments := List.take_of_length_le tooFew.le
  rw [applicable, taken]
  exact if_pos tooFew.ne

/-- What a match shows of itself apart from its ordinal. -/
def Match.shown (matched : Match) : List (Nat × Nat) × List Specializer × Body :=
  (matched.distances, matched.method.content)

/-- **The same methods in two orders are applicable in one order.** -/
theorem content_mergeSort_eq (firstCalled : Called later first permutation required)
    (secondCalled : Called later second permutation required) (reorders : first.Reorders second) :
    ((matchesOf later permutation required first.methods).mergeSort
        Match.precedes).map Match.shown =
      ((matchesOf later permutation required second.methods).mergeSort
        Match.precedes).map Match.shown := by
  have byContent : ∀ methods : List Method,
      (matchesOf later permutation required methods).map Match.shown =
        ((methods.map Method.content).filter (meets later required ·.1)).map
          fun content => (measure later permutation required content.1, content) := by
    intro methods
    rw [matchesOf, List.map_map, List.filter_map, List.map_map]
    rfl
  have same : ((matchesOf later permutation required first.methods).map Match.shown).Perm
      ((matchesOf later permutation required second.methods).map Match.shown) := by
    rw [byContent, byContent]
    exact (reorders.methods.filter _).map _
  have asymmetric : ∀ left right : List (Nat × Nat) × List Specializer × Body,
      compareDistances left.1 right.1 = .lt → compareDistances right.1 left.1 = .lt →
        left = right := by
    intro left right before after
    rw [compareDistances_eq] at before after
    rw [Std.OrientedCmp.gt_of_lt before] at after
    cases after
  exact List.Perm.eq_of_pairwise (fun left right _ _ => asymmetric left right)
    (List.pairwise_map.mpr firstCalled.pairwise_lt) (List.pairwise_map.mpr secondCalled.pairwise_lt)
    (((List.mergeSort_perm _ _).map _).trans (same.trans ((List.mergeSort_perm _ _).map _).symm))

end Dispatch

/-! ## Registration -/

variable {start : Registry} {name : String} {entries others : List (List Specializer × Body)}

/-- **Dynamic dispatch ignores the order of registration.** Methods with different keys over
exact values, class types and no demand are registered in two orders. Called with too few
arguments, both functions refuse. Otherwise the same methods are applicable in the same
order, and of any two the first has the smaller distances, so that no ordinal decides. -/
theorem applicable_ignores_registration (evolves : table.Evolves later) (reached : start.Reached)
    (found : start.find? name = some generic) (empty : generic.methods = [])
    (same : entries.Perm others)
    (distinct : entries.Pairwise fun first second => ¬ SameKey first.1 second.1)
    (nominal : ∀ entry ∈ entries, AllNominal table entry.1)
    (known : ∀ value ∈ arguments, later.classes.Knows value.cls) :
    ∃ first second permutation,
      (start.registerAll name entries).find? name = some first ∧
      (start.registerAll name others).find? name = some second ∧
      Precedence.permutation generic.params.required (some generic.precedence) =
        .ok permutation ∧
      (arguments.length < generic.arity →
        Dispatch.applicable later first arguments =
            .error (.argumentCount generic.name generic.arity arguments.length) ∧
          Dispatch.applicable later second arguments =
            .error (.argumentCount generic.name generic.arity arguments.length)) ∧
      (generic.arity ≤ arguments.length →
        ∃ methods otherMethods, Dispatch.applicable later first arguments = .ok methods ∧
          Dispatch.applicable later second arguments = .ok otherMethods ∧
          methods.map Method.content = otherMethods.map Method.content ∧
          methods.Pairwise fun nearer further => Dispatch.compareDistances
            (Dispatch.measure later permutation (arguments.take generic.arity) nearer.specializers)
            (Dispatch.measure later permutation (arguments.take generic.arity)
              further.specializers) =
              .lt) := by
  obtain ⟨-, mirrors, growth⟩ := evolves.spec
  obtain ⟨permutation, permuted⟩ :=
    (reached.wellFormed generic (Registry.find?_eq_some found).1).permutation
  obtain ⟨methods, otherMethods, methodsFound, othersFound, reorders, areEntries,
    otherEntries⟩ := exists_reorders found empty same distinct
  refine ⟨_, _, permutation, methodsFound, othersFound, permuted, fun tooFew => ?_,
    fun enough => ?_⟩
  · exact ⟨Dispatch.applicable_of_tooFew tooFew, Dispatch.applicable_of_tooFew tooFew⟩
  · have called : ∀ {registry : Registry} {own : List Method}, registry.Reached →
        registry.find? name = some { generic with methods := own } →
        (∀ method ∈ own, method.content ∈ entries) →
        Dispatch.Called later { generic with methods := own } permutation
          (arguments.take generic.arity) := by
      intro registry own registryReached ownFound isEntry
      refine ⟨mirrors, registryReached.wellFormed _ (Registry.find?_eq_some ownFound).1, permuted,
        fun method isMethod specializer inside => ?_, ?_, fun value inside =>
          known value (List.mem_of_mem_take inside)⟩
      · exact (nominal _ (isEntry method isMethod) specializer inside).extend growth
      · exact (List.length_take ..).trans (Nat.min_eq_left enough)
    have firstCalled := called (reached.registerAll name entries) methodsFound areEntries
    have secondCalled := called (reached.registerAll name others) othersFound otherEntries
    refine ⟨_, _, firstCalled.applicable_eq_of rfl, secondCalled.applicable_eq_of rfl, ?_, ?_⟩
    · have shown := congrArg (List.map Prod.snd)
        (Dispatch.content_mergeSort_eq firstCalled secondCalled reorders)
      rw [List.map_map, List.map_map] at shown ⊢
      exact shown
    · exact firstCalled.pairwise_measure_lt

namespace Orders

/-- An object of a class that combines two others meets a method for each of them, and the
linearization of its class orders them, although neither is below the other. -/
theorem unforeseen_applicable_alike :
    (∀ entry ∈ [left, right], AllNominal apart.2.table entry.1) ∧
      [left, right].Perm [right, left] ∧
      ∃ first second methods otherMethods,
        (bare.registerAll "f" [left, right]).find? "f" = some first ∧
        (bare.registerAll "f" [right, left]).find? "f" = some second ∧
        Dispatch.applicable combined.table first [unforeseen] = .ok methods ∧
        Dispatch.applicable combined.table second [unforeseen] = .ok otherMethods ∧
        methods.map Method.content = otherMethods.map Method.content := by
  have nominal : ∀ entry ∈ [left, right], AllNominal apart.2.table entry.1 := by decide +kernel
  have distinct : [left, right].Pairwise fun first second => ¬ SameKey first.1 second.1 := by
    simp only [← beq_iff_sameKey]
    decide +kernel
  obtain ⟨first, second, permutation, firstFound, secondFound, -, -, alike⟩ :=
    applicable_ignores_registration apart_evolves bare_reached (rfl : bare.find? "f" = some fresh)
      rfl (.swap right left []) distinct nominal
      (by decide +kernel : ∀ value ∈ [unforeseen], combined.table.classes.Knows value.cls)
  obtain ⟨methods, otherMethods, isFirst, isSecond, same, -⟩ := alike (by decide)
  exact ⟨nominal, .swap right left [], first, second, methods, otherMethods, firstFound,
    secondFound, isFirst, isSecond, same⟩

end Orders

end StaticDispatch
