import StaticDispatch.Proofs.Agreement
import StaticDispatch.Proofs.Assembly
import StaticDispatch.Proofs.Candidate.LinearExtension
import StaticDispatch.Proofs.Candidate.Ranking

/-!
Contract: where nothing is unordered, sorting respects specificity.

The candidates of one function ask for values and class types. If no pair of them is
found to be unordered, being more specific than a competitor is part of a strict
order: sorting never has to break a circle, no candidate stands behind a competitor
it is more specific than, and of two competitors with different keys exactly one is
more specific. The table may be loaded from a text or built step by step, with
literal types over whatever base.

Owns: what blanking does to candidates, and the stages of sorting.
Does not own: what a single step of sorting does.
-/

namespace StaticDispatch

/-! ## Blanked tables and candidates -/

variable {table : TypeTable} {first : Specializer}

theorem Specializer.Nominal.blanked (nominal : first.Nominal table) :
    first.Nominal table.blanked := by
  cases first with
  | any => trivial
  | exactly wanted => exact nominal
  | ofType id =>
      obtain ⟨cls, host⟩ := nominal
      exact ⟨cls, (TypeTable.hostAt?_blanked table id).trans host⟩

private theorem Specializer.valueMayMatch_blanked {id : TypeId} {cls : ClassId}
    (host : table.hostAt? id = some cls) (wanted : Value) :
    valueMayMatch table.blanked wanted id = valueMayMatch table wanted id := by
  obtain ⟨_, _, got, blankGot⟩ := TypeTable.get_of_hostAt? host
  simp only [valueMayMatch, TypeTable.host?, got, blankGot, TypeTable.classes_blanked]

/-- Of values and class types a table speaks like the blanked one. -/
theorem TypeTable.MirrorsClasses.comparesAlike (mirrors : table.MirrorsClasses) :
    ComparesAlike (·.Nominal table) table table.blanked := by
  refine .of_types ?_ ?_ ?_
  · rintro lower upper ⟨lowerCls, lowerHost⟩ ⟨upperCls, upperHost⟩
    exact isSubtype_blanked mirrors lowerHost upperHost
  · rintro first second ⟨firstCls, firstHost⟩ ⟨secondCls, secondHost⟩
    exact isDisjoint_blanked mirrors firstHost secondHost
  · rintro wanted id _ ⟨cls, host⟩
    exact Specializer.valueMayMatch_blanked host wanted

namespace Candidate

variable {candidate left right : Candidate} {candidates remaining others sorted : List Candidate}
  {arity : Nat}

/-! ## Stages of sorting -/

inductive Stage (table : TypeTable) (candidates : List Candidate) : List Candidate → Prop where
  | start : Stage table candidates (byOrdinal candidates)
  | next {remaining others : List Candidate} {chosen : Candidate}
      (stage : Stage table candidates remaining)
      (isNext : next? table remaining = .ok (some (chosen, others))) :
      Stage table candidates others

theorem Stage.subset (stage : Stage table candidates remaining) : remaining ⊆ candidates := by
  induction stage with
  | start => exact (byOrdinal_perm candidates).subset
  | next _ isNext inductionHypothesis =>
      have same := perm_of_mem_selections (Picked.of_next? isNext).selected
      exact fun other inside => inductionHypothesis (same.mem_iff.mpr (by simp [inside]))

private theorem walks_self (table : TypeTable) (specializers : List Specializer) :
    isMoreSpecificAt table (specializers.zip specializers) = .ok false ∧
      meetsUndecided table (specializers.zip specializers) = .ok false := by
  induction specializers with
  | nil => exact ⟨rfl, rfl⟩
  | cons specializer rest inductionHypothesis =>
      have equal : Specializer.compareAt table specializer specializer = .ok .equal := by
        simp [Specializer.compareAt, Specializer.beq_self]
      simp only [List.zip_cons_cons, isMoreSpecificAt, meetsUndecided, equal, Traversal.ok_bind]
      exact inductionHypothesis

/-- Nothing in a settled list rests on registration, whichever way it is looked at. -/
theorem Settled.of_mem (mirrors : table.Mirrors)
    (suited : ∀ candidate ∈ candidates, Suited table arity candidate)
    (settled : Settled table candidates) :
    ∀ first ∈ candidates, ∀ second ∈ candidates,
      restsOnRegistration table first second = false := by
  have reflexive : ∀ candidate ∈ candidates,
      restsOnRegistration table candidate candidate = false := by
    intro candidate _
    simp [restsOnRegistration, isUndecided, (walks_self table candidate.specializers).2,
      Traversal.isYes]
  have flipped : candidates.Pairwise fun first second =>
      restsOnRegistration table second first = false := by
    refine List.Pairwise.imp_of_mem (fun firstIn secondIn holds => ?_) settled
    rw [restsOnRegistration_comm mirrors (suited _ secondIn) (suited _ firstIn)]
    exact holds
  intro first firstIn second secondIn
  exact List.Pairwise.forall_of_forall_of_flip reflexive settled flipped firstIn secondIn

/-- Candidates of one length that ask for values and for class types of a table whose
class types mirror their host classes. -/
structure Uniform (table : TypeTable) (arity : Nat) (candidates : List Candidate) : Prop where
  mirrors : table.MirrorsClasses
  nominal : ∀ candidate ∈ candidates, AllNominal table candidate.specializers
  lengths : ∀ candidate ∈ candidates, candidate.specializers.length = arity

namespace Uniform

theorem perm (uniform : Uniform table arity candidates) (same : others.Perm candidates) :
    Uniform table arity others :=
  ⟨uniform.mirrors, fun candidate inside => uniform.nominal candidate (same.mem_iff.mp inside),
    fun candidate inside => uniform.lengths candidate (same.mem_iff.mp inside)⟩

theorem suited (uniform : Uniform table arity candidates) :
    ∀ candidate ∈ candidates, Suited table.blanked arity candidate := by
  intro candidate inside
  refine ⟨uniform.lengths candidate inside, fun specializer isSpecializer => ?_⟩
  exact (uniform.nominal candidate inside specializer isSpecializer).blanked.grounded
    uniform.mirrors.mirrors

theorem isMoreSpecific_eq (uniform : Uniform table arity candidates) (leftIn : left ∈ candidates)
    (rightIn : right ∈ candidates) :
    isMoreSpecific table left right = .ok (isMore table.blanked left right) := by
  rw [← uniform.mirrors.comparesAlike.isMoreSpecific_eq (uniform.nominal left leftIn)
    (uniform.nominal right rightIn)]
  exact (walks_eq uniform.mirrors.mirrors (uniform.suited left leftIn)
    (uniform.suited right rightIn)).1

theorem isCoApplicable_eq (uniform : Uniform table arity candidates) (leftIn : left ∈ candidates)
    (rightIn : right ∈ candidates) :
    isCoApplicable table left right = .ok (areCoApplicable table.blanked left right) := by
  rw [← uniform.mirrors.comparesAlike.isCoApplicable_eq (uniform.nominal left leftIn)
    (uniform.nominal right rightIn)]
  exact Candidate.isCoApplicable_eq uniform.mirrors.mirrors (uniform.suited left leftIn)
    (uniform.suited right rightIn)

theorem comparable (uniform : Uniform table arity candidates) : Comparable table candidates :=
  fun _ firstIn _ secondIn => ⟨⟨_, uniform.isMoreSpecific_eq firstIn secondIn⟩,
    ⟨_, uniform.isCoApplicable_eq firstIn secondIn⟩⟩

theorem unorderedPairs_eq (uniform : Uniform table arity candidates) :
    ∃ pairs, unorderedPairs table candidates = .ok pairs ∧
      (pairs = [] ↔ Settled table.blanked candidates) := by
  rw [← uniform.mirrors.comparesAlike.unorderedPairs_eq uniform.nominal]
  exact unorderedPairs_eq_nil_iff uniform.mirrors.mirrors uniform.suited

/-- Where nothing is unordered, overtaking is outranking. -/
theorem outranks_of_overtakes (uniform : Uniform table arity candidates)
    (settled : Settled table.blanked candidates) (leftIn : left ∈ candidates)
    (rightIn : right ∈ candidates) (overtaken : Overtakes table left right) :
    Outranks table.blanked left.specializers right.specializers := by
  obtain ⟨competes, more⟩ := overtaken
  rw [uniform.isCoApplicable_eq leftIn rightIn] at competes
  rw [uniform.isMoreSpecific_eq leftIn rightIn] at more
  apply Candidate.outranks_of_overtakes uniform.mirrors.mirrors (uniform.suited left leftIn)
    (uniform.suited right rightIn)
  · exact settled.of_mem uniform.mirrors.mirrors uniform.suited left leftIn right rightIn
  · simp [overtakes, Except.ok.inj competes, Except.ok.inj more]

/-- **Where nothing is unordered, overtaking does not go round.** -/
theorem acyclic (uniform : Uniform table arity candidates)
    (settled : Settled table.blanked candidates) : Acyclic (Overtakes table) candidates := by
  intro candidate _ round
  have outranks : ∀ {first second : Candidate}, Relation.TransGen (fun first second =>
      first ∈ candidates ∧ second ∈ candidates ∧ Overtakes table first second) first second →
        first ∈ candidates ∧ Outranks table.blanked first.specializers second.specializers := by
    intro first second run
    induction run with
    | single step => exact ⟨step.1, uniform.outranks_of_overtakes settled step.1 step.2.1 step.2.2⟩
    | tail _ step inductionHypothesis =>
        obtain ⟨firstIn, before⟩ := inductionHypothesis
        exact ⟨firstIn, before.trans uniform.mirrors.mirrors (uniform.suited first firstIn).grounded
          (uniform.outranks_of_overtakes settled step.1 step.2.1 step.2.2)⟩
  exact Outranks.irrefl (outranks round).2

/-- At every stage some candidate is overtaken by none of the others. -/
private theorem exists_free_of_stage (uniform : Uniform table arity candidates)
    (settled : Settled table.blanked candidates) (stage : Stage table candidates remaining)
    (nonempty : remaining ≠ []) :
    ∃ choice ∈ selections remaining, isOvertaken table choice.1 choice.2 = .ok false := by
  obtain ⟨candidate, inside, free⟩ :=
    (uniform.acyclic settled).exists_source stage.subset nonempty
  obtain ⟨others, chosen⟩ := exists_mem_selections inside
  have same := perm_of_mem_selections chosen
  have comparable : Comparable table remaining := fun first firstIn second secondIn =>
    uniform.comparable first (stage.subset firstIn) second (stage.subset secondIn)
  obtain ⟨⟨overtaken, overtakenIs⟩, -⟩ := comparable.of_mem_selections chosen
  cases overtaken with
  | false => exact ⟨(candidate, others), chosen, overtakenIs⟩
  | true =>
      obtain ⟨other, isOther, overtakes⟩ := exists_of_isOvertaken overtakenIs
      exact absurd overtakes (free other (same.mem_iff.mpr (by simp [isOther])))

/-- Of two competitors with different keys exactly one is more specific. -/
private theorem one_way (uniform : Uniform table arity candidates)
    (settled : Settled table.blanked candidates) (leftIn : left ∈ candidates)
    (rightIn : right ∈ candidates) (competes : isCoApplicable table left right = .ok true)
    (different : ¬ SameKey left.specializers right.specializers) :
    isMoreSpecific table left right = .ok true ∧ isMoreSpecific table right left = .ok false ∨
      isMoreSpecific table left right = .ok false ∧ isMoreSpecific table right left = .ok true := by
  have mirrors := uniform.mirrors.mirrors
  have leftSuited := uniform.suited left leftIn
  have rightSuited := uniform.suited right rightIn
  have competesBlank : areCoApplicable table.blanked left right = true := by
    rw [uniform.isCoApplicable_eq leftIn rightIn] at competes
    exact Except.ok.inj competes
  have competesBack : isCoApplicable table right left = .ok true := by
    rw [uniform.isCoApplicable_eq rightIn leftIn,
      areCoApplicable_comm mirrors rightSuited leftSuited, competesBlank]
  -- Whoever outranks the other one is more specific, and the other one is not.
  have more : ∀ {first second : Candidate}, first ∈ candidates → second ∈ candidates →
      isCoApplicable table second first = .ok true →
      Outranks table.blanked first.specializers second.specializers →
      isMoreSpecific table first second = .ok true ∧
        isMoreSpecific table second first = .ok false := by
    intro first second firstIn secondIn back outranks
    have firstSuited := uniform.suited first firstIn
    have secondSuited := uniform.suited second secondIn
    refine ⟨?_, ?_⟩
    · rw [uniform.isMoreSpecific_eq firstIn secondIn,
        isMore_of_outranks mirrors firstSuited secondSuited outranks]
    · have answer := uniform.isMoreSpecific_eq secondIn firstIn
      cases less : isMore table.blanked second first with
      | false => rw [answer, less]
      | true =>
          rw [less] at answer
          exact absurd (uniform.outranks_of_overtakes settled secondIn firstIn ⟨back, answer⟩)
            (outranks.asymm mirrors firstSuited.grounded)
  rcases outranks_or_outranks mirrors leftSuited rightSuited competesBlank
    (settled.of_mem mirrors uniform.suited left leftIn right rightIn) different with
    before | after
  · exact Or.inl (more leftIn rightIn competesBack before)
  · exact Or.inr (more rightIn leftIn competes after).symm

end Uniform

/-- A candidate of a generic function: one of its methods, with its specializers in
precedence order. -/
structure StemsFrom (generic : GenericFunction) (permutation : List Nat)
    (candidate : Candidate) : Prop where
  isMethod : candidate.method ∈ generic.methods
  arranged : Precedence.toPrecedence? permutation candidate.method.specializers =
    some candidate.specializers

/-- What sorting comes to where nothing is unordered: at every stage some candidate is
overtaken by none, a candidate precedes all competitors it is more specific than, and of
two competitors with different keys exactly one is more specific. -/
structure Ordered (table : TypeTable) (candidates sorted : List Candidate) : Prop where
  free : ∀ remaining, Stage table candidates remaining → remaining ≠ [] →
    ∃ choice ∈ selections remaining, isOvertaken table choice.1 choice.2 = .ok false
  precedes : ∀ (place other : Nat) (first second : Candidate),
    sorted[place]? = some first → sorted[other]? = some second →
    isCoApplicable table first second = .ok true → isMoreSpecific table first second = .ok true →
      place < other
  oneWay : ∀ first ∈ candidates, ∀ second ∈ candidates,
    isCoApplicable table first second = .ok true →
    ¬ SameKey first.method.specializers second.method.specializers →
      isMoreSpecific table first second = .ok true ∧ isMoreSpecific table second first = .ok false ∨
        isMoreSpecific table first second = .ok false ∧ isMoreSpecific table second first = .ok true

end Candidate

/-! ## Settled candidates of one function -/

/-- **Sorting respects specificity whenever nothing is unordered.** Sorting the candidates
of one function and looking for unordered pairs always has an answer. If there is no such
pair, no circle is ever broken, a candidate precedes all competitors it is more specific
than, and two competitors with different keys are ordered in exactly one direction. -/
theorem settled_sort_respects_specificity {scenario : Scenario} (assembled : scenario.Assembled)
    {registry : Registry} (reached : registry.Reached) {generic : GenericFunction}
    (isGeneric : generic ∈ registry.generics) {permutation : List Nat}
    (permuted : Precedence.permutation generic.params.required (some generic.precedence) =
      .ok permutation)
    {candidates : List Candidate}
    (stem : ∀ candidate ∈ candidates, candidate.StemsFrom generic permutation)
    (nominal : ∀ candidate ∈ candidates, AllNominal scenario.table candidate.specializers) :
    ∃ sorted pairs, Candidate.sort scenario.table candidates = .ok sorted ∧
      Candidate.unorderedPairs scenario.table sorted = .ok pairs ∧
      (pairs = [] → Candidate.Ordered scenario.table candidates sorted) := by
  have wellFormed := reached.wellFormed generic isGeneric
  have rearranges := Precedence.perm_range permuted
  have length : ∀ candidate ∈ candidates,
      candidate.method.specializers.length = generic.arity := fun candidate inside =>
    wellFormed.lengths _ (stem candidate inside).isMethod
  have uniform : Candidate.Uniform scenario.table generic.arity candidates := by
    refine ⟨(Scenario.ClassesAligned.of_assembled assembled).mirrorsClasses, nominal, ?_⟩
    intro candidate inside
    rw [Precedence.length_of_toPrecedence? (stem candidate inside).arranged, rearranges.length_eq,
      List.length_range]
    rfl
  obtain ⟨sorted, run⟩ := Candidate.sort_answers uniform.comparable
  have same := Candidate.sort_perm run
  obtain ⟨pairs, pairsAre, nilIff⟩ := (uniform.perm same).unorderedPairs_eq
  refine ⟨sorted, pairs, run, pairsAre, fun noPairs => ?_⟩
  have settled : Candidate.Settled scenario.table.blanked candidates :=
    (nilIff.mp noPairs).perm uniform.mirrors.mirrors (uniform.perm same).suited same
  refine ⟨fun remaining stage nonempty => uniform.exists_free_of_stage settled stage nonempty,
    ?_, ?_⟩
  · intro place other first second firstAt secondAt competes more
    have respects := Candidate.sort_respects Candidate.Picked.not_overtaken
      (uniform.acyclic settled) run
    rw [List.pairwise_iff_getElem] at respects
    obtain ⟨placeIn, rfl⟩ := List.getElem?_eq_some_iff.mp firstAt
    obtain ⟨otherIn, rfl⟩ := List.getElem?_eq_some_iff.mp secondAt
    rcases Nat.lt_trichotomy place other with before | rfl | behind
    · exact before
    · rw [Candidate.isMoreSpecific, (Candidate.walks_self scenario.table _).1] at more
      cases more
    · exact absurd ⟨competes, more⟩ (respects other place otherIn placeIn behind)
  · intro first firstIn second secondIn competes different
    refine uniform.one_way settled firstIn secondIn competes fun sameArranged => different ?_
    exact (sameKey_iff_arranged (length first firstIn ▸ rearranges)
      ((length first firstIn).trans (length second secondIn).symm) (stem first firstIn).arranged
      (stem second secondIn).arranged).mp sameArranged

namespace Touching

/-- Shapes with circles below them, and a number that is said to be a circle. -/
def shapes : Scenario :=
  ((Scenario.empty false).declareAll [("Shape", []), ("Circle", ["Shape"])]).toOption.get
    (by decide +kernel)

def touchScenario : Scenario :=
  { shapes with table := (shapes.table.newLiteral (.int 5) (some 3)).2 }

def touchRegistry : Registry :=
  Registry.registerAll {} "touch" [([.any, .any], ⟨"any", false⟩),
    ([.ofType 2, .ofType 3], ⟨"shape", false⟩), ([.ofType 3, .any], ⟨"circle", false⟩),
    ([.ofType 3, .exactly (.int 5)], ⟨"five", false⟩)]

def touchFunction : GenericFunction :=
  (touchRegistry.find? "touch").get (by decide +kernel)

def touchCandidates : List Candidate :=
  touchFunction.methods.map fun method =>
    { method, specializers := method.specializers, classes := [] }

theorem touch_sort_respects_specificity :
    ∃ sorted, Candidate.sort touchScenario.table touchCandidates = .ok sorted ∧
      Candidate.unorderedPairs touchScenario.table sorted = .ok [] ∧
      Candidate.Ordered touchScenario.table touchCandidates sorted := by
  have assembled : touchScenario.Assembled :=
    .based (.declareAll (.empty false) (Traversal.eq_ok_get _)) (.int 5) 3
  have two : ∀ method ∈ touchFunction.methods, method.specializers.length = 2 := by
    decide +kernel
  have stem : ∀ candidate ∈ touchCandidates, candidate.StemsFrom touchFunction [0, 1] := by
    intro candidate inside
    obtain ⟨method, isMethod, rfl⟩ := List.mem_map.mp inside
    obtain ⟨left, right, both⟩ := List.length_eq_two.mp (two method isMethod)
    exact ⟨isMethod, by simp [both, Precedence.toPrecedence?]⟩
  have nominal : ∀ candidate ∈ touchCandidates,
      AllNominal touchScenario.table candidate.specializers := by decide +kernel
  obtain ⟨sorted, pairs, run, pairsAre, settled⟩ := settled_sort_respects_specificity assembled
    (Registry.Reached.empty.registerAll _ _) (List.mem_of_find?_eq_some (Option.some_get _).symm)
    (Traversal.toOption_eq_some.mp (by decide +kernel)) stem nominal
  have noPairs : ((Candidate.sort touchScenario.table touchCandidates).bind
      (Candidate.unorderedPairs touchScenario.table)).toOption.map List.isEmpty = some true := by
    simp only [Candidate.sort, Candidate.byOrdinal_eq_insertionSort]
    decide +kernel
  rw [run, Except.bind, pairsAre] at noPairs
  obtain rfl : pairs = [] := by simpa [Except.toOption] using noPairs
  exact ⟨sorted, run, pairsAre, settled rfl⟩

end Touching

end StaticDispatch
