import Mathlib.Data.List.Perm.Basic
import Mathlib.Data.List.Permutation
import StaticDispatch.Proofs.Candidate.Order
import StaticDispatch.Proofs.TypeTable.Rooted
import StaticDispatch.Proofs.TypeTable.Whole

/-!
Contract: sorting is a linear extension of being more specific wherever one exists.

Being more specific need not be transitive, so it may go round. Nothing is assumed
here about the host classes or about what the places of the candidates ask for.
As long as a relation does not go round, some candidate that remains has none of
the others before it, and the next one taken is such a candidate.

Owns: one step of sorting and whole runs for any table, relations that do not go
round, the faults of sorting, and that the order of the input does not matter.
Does not own: which relations do not go round.
-/

namespace StaticDispatch

/-! ## Relations that do not go round -/

/-- No run of members leads from a member back to itself. -/
def Acyclic {α : Type} (relation : α → α → Prop) (items : List α) : Prop :=
  ∀ item ∈ items, ¬ Relation.TransGen
    (fun first second => first ∈ items ∧ second ∈ items ∧ relation first second) item item

/-- Where a relation does not go round, some member has no other one before it. -/
theorem Acyclic.exists_source {α : Type} {relation : α → α → Prop} {items remaining : List α}
    (acyclic : Acyclic relation items) (inside : remaining ⊆ items) (nonempty : remaining ≠ []) :
    ∃ item ∈ remaining, ∀ other ∈ remaining, ¬ relation other item := by
  obtain ⟨item, isItem, unsurpassed⟩ := Candidate.exists_unsurpassed
    (Relation.TransGen fun first second => first ∈ items ∧ second ∈ items ∧ relation first second)
    remaining nonempty (fun item isItem => acyclic item (inside isItem))
    (fun _ _ _ _ _ _ before after => before.trans after)
  refine ⟨item, isItem, fun other isOther related => ?_⟩
  exact unsurpassed other isOther (.single ⟨inside isOther, inside isItem, related⟩)

/-- A relation that always goes down does not go round. -/
theorem Acyclic.of_measure {α : Type} {relation : α → α → Prop} {items : List α}
    (measure : α → Nat) (falls : ∀ first ∈ items, ∀ second ∈ items, relation first second →
      measure second < measure first) : Acyclic relation items := by
  intro item _ round
  have below : ∀ {first second : α}, Relation.TransGen (fun first second => first ∈ items ∧
      second ∈ items ∧ relation first second) first second → measure second < measure first := by
    intro first second run
    induction run with
    | single step => exact falls _ step.1 _ step.2.1 step.2.2
    | tail _ step inductionHypothesis =>
        exact Nat.lt_trans (falls _ step.1 _ step.2.1 step.2.2) inductionHypothesis
  exact Nat.lt_irrefl _ (below round)

namespace Candidate

open Traversal (Confined)

variable {table : TypeTable} {first second candidate : Candidate}
  {candidates remaining others sorted : List Candidate}

def IsMore (table : TypeTable) (first second : Candidate) : Prop :=
  isMoreSpecific table first second = .ok true

/-- The first candidate is found to compete with the second and to be more specific. -/
def Overtakes (table : TypeTable) (first second : Candidate) : Prop :=
  isCoApplicable table first second = .ok true ∧ isMoreSpecific table first second = .ok true

/-! ## One step of sorting -/

theorem exists_of_isOvertaken (overtaken : isOvertaken table candidate others = .ok true) :
    ∃ other ∈ others, Overtakes table other candidate := by
  obtain ⟨other, inside, asked⟩ := Traversal.exists_of_anyM overtaken
  obtain ⟨competes, competesIs, remaining⟩ := Traversal.bind_eq_ok.mp asked
  cases competes with
  | true => exact ⟨other, inside, competesIs, remaining⟩
  | false => cases remaining

private theorem not_overtakes_of_isOvertaken
    (free : isOvertaken table candidate others = .ok false) :
    ∀ other ∈ others, ¬ Overtakes table other candidate := by
  rintro other inside ⟨competes, more⟩
  have asked := Traversal.forall_of_anyM free other inside
  simp [competes, more] at asked

private theorem exists_of_isBeaten (beaten : isBeaten table candidate others = .ok true) :
    ∃ other ∈ others, IsMore table other candidate :=
  Traversal.exists_of_anyM beaten

private theorem not_isMore_of_isBeaten (unbeaten : isBeaten table candidate others = .ok false) :
    ∀ other ∈ others, ¬ IsMore table other candidate := by
  intro other inside more
  have asked := Traversal.forall_of_anyM unbeaten other inside
  rw [IsMore, asked] at more
  cases more

/-- What is known of the candidate that comes next: it was asked of every candidate
whether it is free, and of every free one whether it is unbeaten. -/
structure Picked (table : TypeTable) (remaining : List Candidate)
    (choice : Candidate × List Candidate) : Prop where
  selected : choice ∈ selections remaining
  asked : ∀ other ∈ selections remaining, ∃ answer, isOvertaken table other.1 other.2 = .ok answer
  askedFree : ∀ other ∈ selections remaining, isOvertaken table other.1 other.2 = .ok false →
    ∃ answer, isBeaten table other.1 other.2 = .ok answer
  free : (∃ other ∈ selections remaining, isOvertaken table other.1 other.2 = .ok false) →
    isOvertaken table choice.1 choice.2 = .ok false
  unbeaten : (∃ other ∈ selections remaining, isOvertaken table other.1 other.2 = .ok false ∧
    isBeaten table other.1 other.2 = .ok false) → isBeaten table choice.1 choice.2 = .ok false

private theorem negated_eq_ok {question : Except TypeTable.Fault Bool} {answer : Bool} :
    (do return !(← question)) = (.ok answer : Except TypeTable.Fault Bool) ↔
      question = .ok (!answer) := by
  cases question with
  | error fault => simp [bind, Except.bind]
  | ok own => cases own <;> cases answer <;> simp

/-- What may come next: the free candidates, or all if there are none. -/
theorem pool_eq_ok {choices : List (Candidate × List Candidate)}
    (pooled : pool table remaining = .ok choices) :
    (∀ other ∈ selections remaining, ∃ answer, isOvertaken table other.1 other.2 = .ok answer) ∧
      ((∃ other ∈ selections remaining, isOvertaken table other.1 other.2 = .ok false) →
        ∀ choice, choice ∈ choices ↔ choice ∈ selections remaining ∧
          isOvertaken table choice.1 choice.2 = .ok false) ∧
      ((¬ ∃ other ∈ selections remaining, isOvertaken table other.1 other.2 = .ok false) →
        choices = selections remaining) := by
  obtain ⟨free, walked, made⟩ := Traversal.bind_eq_ok.mp pooled
  obtain ⟨answers, mem_free⟩ := Traversal.filterM_eq_ok walked
  simp only [negated_eq_ok, Bool.not_true] at answers mem_free
  refine ⟨fun other inside => ?_, ?_, ?_⟩
  · obtain ⟨answer, answered⟩ := answers other inside
    exact ⟨!answer, answered⟩
  · rintro ⟨other, inside, otherFree⟩ choice
    have isKept : other ∈ free := (mem_free other).mpr ⟨inside, otherFree⟩
    rw [if_neg (by simpa using List.ne_nil_of_mem isKept)] at made
    cases made
    exact mem_free choice
  · intro noneFree
    have nothing : free = [] := by
      rw [List.eq_nil_iff_forall_not_mem]
      intro choice isKept
      exact noneFree ⟨choice, (mem_free choice).mp isKept⟩
    subst nothing
    cases made
    rfl

theorem mem_selections_of_pool {choices : List (Candidate × List Candidate)}
    (pooled : pool table remaining = .ok choices) {choice : Candidate × List Candidate}
    (isChoice : choice ∈ choices) : choice ∈ selections remaining := by
  obtain ⟨-, someFree, noneFree⟩ := pool_eq_ok pooled
  by_cases free : ∃ other ∈ selections remaining, isOvertaken table other.1 other.2 = .ok false
  · exact ((someFree free choice).mp isChoice).1
  · exact noneFree free ▸ isChoice

theorem Picked.of_next? {choice : Candidate × List Candidate}
    (isNext : next? table remaining = .ok (some choice)) : Picked table remaining choice := by
  obtain ⟨choices, pooled, remainder⟩ := Traversal.bind_eq_ok.mp isNext
  obtain ⟨unbeaten, walked, made⟩ := Traversal.bind_eq_ok.mp remainder
  obtain ⟨asked, someFree, -⟩ := pool_eq_ok pooled
  obtain ⟨answers, mem_unbeaten⟩ := Traversal.filterM_eq_ok walked
  simp only [negated_eq_ok, Bool.not_true] at answers mem_unbeaten
  have picked : unbeaten.head?.or choices.head? = some choice := Except.ok.inj made
  have isChoice : choice ∈ choices := by
    cases unbeaten with
    | nil => exact List.mem_of_head? picked
    | cons best rest =>
        cases picked
        exact ((mem_unbeaten choice).mp (by simp)).1
  have selected := mem_selections_of_pool pooled isChoice
  refine ⟨selected, asked, ?_, fun free => ((someFree free choice).mp isChoice).2, ?_⟩
  · intro other inside free
    have isPooled := (someFree ⟨other, inside, free⟩ other).mpr ⟨inside, free⟩
    obtain ⟨answer, answered⟩ := answers other isPooled
    exact ⟨!answer, answered⟩
  · rintro ⟨other, inside, free, notBeaten⟩
    have isPooled := (someFree ⟨other, inside, free⟩ other).mpr ⟨inside, free⟩
    have isKept : other ∈ unbeaten := (mem_unbeaten other).mpr ⟨isPooled, notBeaten⟩
    cases unbeaten with
    | nil => cases isKept
    | cons best rest =>
        cases picked
        exact ((mem_unbeaten choice).mp (by simp)).2

private theorem eq_nil_of_next? (isNext : next? table remaining = .ok none) : remaining = [] := by
  obtain ⟨choices, pooled, remainder⟩ := Traversal.bind_eq_ok.mp isNext
  obtain ⟨unbeaten, -, made⟩ := Traversal.bind_eq_ok.mp remainder
  obtain ⟨-, someFree, noneFree⟩ := pool_eq_ok pooled
  have nothing : choices = [] := by
    have none : unbeaten.head?.or choices.head? = none := Except.ok.inj made
    simpa using (Option.or_eq_none_iff.mp none).2
  subst nothing
  cases remaining with
  | nil => rfl
  | cons head tail =>
      by_cases free : ∃ other ∈ selections (head :: tail),
          isOvertaken table other.1 other.2 = .ok false
      · obtain ⟨other, inside, otherFree⟩ := free
        exact absurd ((someFree ⟨other, inside, otherFree⟩ other).mpr ⟨inside, otherFree⟩) (by simp)
      · exact absurd (noneFree free) (by simp [selections])

/-- If some candidate is overtaken by none, the next one is. -/
theorem Picked.not_overtaken {choice : Candidate × List Candidate}
    (picked : Picked table remaining choice)
    (source : ∃ candidate ∈ remaining, ∀ other ∈ remaining, ¬ Overtakes table other candidate) :
    ∀ other ∈ choice.2, ¬ Overtakes table other choice.1 := by
  obtain ⟨candidate, inside, first⟩ := source
  obtain ⟨others, chosen⟩ := exists_mem_selections inside
  have same := perm_of_mem_selections chosen
  obtain ⟨answer, answered⟩ := picked.asked _ chosen
  cases answer with
  | true =>
      obtain ⟨other, isOther, overtakes⟩ := exists_of_isOvertaken answered
      exact absurd overtakes (first other (same.mem_iff.mpr (by simp [isOther])))
  | false => exact not_overtakes_of_isOvertaken (picked.free ⟨_, chosen, answered⟩)

/-- If some candidate has none more specific, the next one is such a candidate. -/
private theorem Picked.not_beaten {choice : Candidate × List Candidate}
    (picked : Picked table remaining choice)
    (source : ∃ candidate ∈ remaining, ∀ other ∈ remaining, ¬ IsMore table other candidate) :
    ∀ other ∈ choice.2, ¬ IsMore table other choice.1 := by
  obtain ⟨candidate, inside, first⟩ := source
  obtain ⟨others, chosen⟩ := exists_mem_selections inside
  have same := perm_of_mem_selections chosen
  have firstOf : ∀ other ∈ others, ¬ IsMore table other candidate := fun other isOther =>
    first other (same.mem_iff.mpr (by simp [isOther]))
  obtain ⟨overtaken, overtakenIs⟩ := picked.asked _ chosen
  cases overtaken with
  | true =>
      obtain ⟨other, isOther, -, more⟩ := exists_of_isOvertaken overtakenIs
      exact absurd more (firstOf other isOther)
  | false =>
      obtain ⟨beaten, beatenIs⟩ := picked.askedFree _ chosen overtakenIs
      cases beaten with
      | true =>
          obtain ⟨other, isOther, more⟩ := exists_of_isBeaten beatenIs
          exact absurd more (firstOf other isOther)
      | false =>
          exact not_isMore_of_isBeaten (picked.unbeaten ⟨_, chosen, overtakenIs, beatenIs⟩)

/-! ## Whole runs -/

private theorem sortFrom_perm {fuel : Nat} (enough : remaining.length = fuel)
    (run : sortFrom table fuel remaining = .ok sorted) : sorted.Perm remaining := by
  induction fuel generalizing remaining sorted with
  | zero =>
      cases run
      rw [List.eq_nil_of_length_eq_zero enough]
  | succ fuel inductionHypothesis =>
      obtain ⟨choice?, isNext, made⟩ := Traversal.bind_eq_ok.mp run
      cases choice? with
      | none =>
          cases made
          rw [eq_nil_of_next? isNext]
      | some choice =>
          obtain ⟨rest, restIs, whole⟩ := Traversal.bind_eq_ok.mp made
          cases whole
          have same := perm_of_mem_selections (Picked.of_next? isNext).selected
          have restPerm := inductionHypothesis
            (Nat.succ.inj (same.length_eq.symm.trans enough)) restIs
          exact (restPerm.cons choice.1).trans same.symm

/-- **A run of sorting respects every relation that its steps respect** and that does not
go round. -/
theorem sortFrom_respects {relation : Candidate → Candidate → Prop}
    (respects : ∀ {remaining choice}, Picked table remaining choice →
      (∃ candidate ∈ remaining, ∀ other ∈ remaining, ¬ relation other candidate) →
        ∀ other ∈ choice.2, ¬ relation other choice.1)
    (acyclic : Acyclic relation candidates) {fuel : Nat} (inside : remaining ⊆ candidates)
    (enough : remaining.length = fuel) (run : sortFrom table fuel remaining = .ok sorted) :
    sorted.Pairwise fun earlier later => ¬ relation later earlier := by
  induction fuel generalizing remaining sorted with
  | zero =>
      cases run
      exact .nil
  | succ fuel inductionHypothesis =>
      obtain ⟨choice?, isNext, made⟩ := Traversal.bind_eq_ok.mp run
      cases choice? with
      | none =>
          cases made
          exact .nil
      | some choice =>
          obtain ⟨rest, restIs, whole⟩ := Traversal.bind_eq_ok.mp made
          cases whole
          have picked := Picked.of_next? isNext
          have same := perm_of_mem_selections picked.selected
          have restEnough : choice.2.length = fuel :=
            Nat.succ.inj (same.length_eq.symm.trans enough)
          have restInside : choice.2 ⊆ candidates := fun other isOther =>
            inside (same.mem_iff.mpr (by simp [isOther]))
          have nonempty : remaining ≠ [] := List.ne_nil_of_length_eq_add_one enough
          refine List.pairwise_cons.mpr
            ⟨fun other isOther => ?_, inductionHypothesis restInside restEnough restIs⟩
          exact respects picked (acyclic.exists_source inside nonempty) other
            ((sortFrom_perm restEnough restIs).mem_iff.mp isOther)

theorem byOrdinal_perm (candidates : List Candidate) : (byOrdinal candidates).Perm candidates :=
  List.mergeSort_perm _ _

theorem sort_perm (run : sort table candidates = .ok sorted) : sorted.Perm candidates :=
  (sortFrom_perm (byOrdinal_perm candidates).length_eq run).trans (byOrdinal_perm candidates)

theorem sort_respects {relation : Candidate → Candidate → Prop}
    (respects : ∀ {remaining choice}, Picked table remaining choice →
      (∃ candidate ∈ remaining, ∀ other ∈ remaining, ¬ relation other candidate) →
        ∀ other ∈ choice.2, ¬ relation other choice.1)
    (acyclic : Acyclic relation candidates) (run : sort table candidates = .ok sorted) :
    sorted.Pairwise fun earlier later => ¬ relation later earlier :=
  sortFrom_respects respects acyclic (byOrdinal_perm candidates).subset
    (byOrdinal_perm candidates).length_eq run

/-- Candidates with different ordinals have one order of registration. -/
private theorem byOrdinal_eq_of_perm (distinct : (candidates.map ordinal).Nodup)
    (same : others.Perm candidates) : byOrdinal others = byOrdinal candidates := by
  have ordered : ∀ listed : List Candidate, (byOrdinal listed).Pairwise
      fun first second => first.ordinal ≤ second.ordinal := by
    intro listed
    refine (List.pairwise_mergeSort ?_ ?_ listed).imp (fun holds => of_decide_eq_true holds)
    · simpa using fun _ _ _ => Nat.le_trans
    · simpa using fun _ _ => Nat.le_total _ _
  refine List.Perm.eq_of_pairwise ?_ (ordered others) (ordered candidates)
    ((byOrdinal_perm others).trans (same.trans (byOrdinal_perm candidates).symm))
  intro first second firstIn secondIn before after
  exact List.inj_on_of_nodup_map distinct
    (same.mem_iff.mp ((byOrdinal_perm others).mem_iff.mp firstIn))
    ((byOrdinal_perm candidates).mem_iff.mp secondIn) (Nat.le_antisymm before after)

private theorem sort_eq_of_perm (distinct : (candidates.map ordinal).Nodup)
    (same : others.Perm candidates) : sort table others = sort table candidates := by
  rw [sort, sort, byOrdinal_eq_of_perm distinct same, same.length_eq]

/-! ## Faults and answers -/

def Comparable (table : TypeTable) (candidates : List Candidate) : Prop :=
  ∀ first ∈ candidates, ∀ second ∈ candidates,
    (∃ more, isMoreSpecific table first second = .ok more) ∧
      ∃ competes, isCoApplicable table first second = .ok competes

/-- The faults of both questions about any two of the candidates have a property. -/
def Confines (property : TypeTable.Fault → Prop) (table : TypeTable)
    (candidates : List Candidate) : Prop :=
  ∀ first ∈ candidates, ∀ second ∈ candidates,
    Confined property (isMoreSpecific table first second) ∧
      Confined property (isCoApplicable table first second)

private theorem Comparable.confines (comparable : Comparable table candidates) :
    Confines (fun _ => False) table candidates := fun first firstIn second secondIn =>
  (comparable first firstIn second secondIn).imp .of_answers .of_answers

variable {property : TypeTable.Fault → Prop}

theorem Confines.of_mem_selections (confines : Confines property table remaining)
    (chosen : (candidate, others) ∈ selections remaining) :
    Confined property (isOvertaken table candidate others) ∧
      Confined property (isBeaten table candidate others) ∧ Confines property table others := by
  have same := perm_of_mem_selections chosen
  have isCandidate : candidate ∈ remaining := same.mem_iff.mpr (by simp)
  have isOther : ∀ other ∈ others, other ∈ remaining := fun other inside =>
    same.mem_iff.mpr (by simp [inside])
  refine ⟨.anyM fun other inside => ?_, .anyM fun other inside => ?_, ?_⟩
  · obtain ⟨more, competes⟩ := confines other (isOther other inside) candidate isCandidate
    refine competes.bind fun answer _ => ?_
    split
    · exact more
    · exact .ok false
  · exact (confines other (isOther other inside) candidate isCandidate).1
  · exact fun first firstIn second secondIn =>
      confines first (isOther first firstIn) second (isOther second secondIn)

theorem Comparable.of_mem_selections (comparable : Comparable table remaining)
    (chosen : (candidate, others) ∈ selections remaining) :
    (∃ answer, isOvertaken table candidate others = .ok answer) ∧
      ∃ answer, isBeaten table candidate others = .ok answer := by
  obtain ⟨overtaken, beaten, -⟩ := comparable.confines.of_mem_selections chosen
  exact ⟨overtaken.answers fun _ => id, beaten.answers fun _ => id⟩

private theorem next?_confined (confines : Confines property table remaining) :
    Confined property (next? table remaining) := by
  have pooled : Confined property (pool table remaining) := by
    refine (Confined.filterM fun choice inside => ?_).bind fun free _ => .ok _
    exact (confines.of_mem_selections inside).1.bind fun overtaken _ => .ok _
  refine pooled.bind fun choices isPool => ?_
  refine (Confined.filterM fun choice inside => ?_).bind fun unbeaten _ => .ok _
  have selected := mem_selections_of_pool isPool inside
  exact (confines.of_mem_selections selected).2.1.bind fun beaten _ => .ok _

private theorem sortFrom_confined (confines : Confines property table remaining) (fuel : Nat) :
    Confined property (sortFrom table fuel remaining) := by
  induction fuel generalizing remaining with
  | zero => exact .ok []
  | succ fuel inductionHypothesis =>
      refine (next?_confined confines).bind fun choice? isNext => ?_
      cases choice? with
      | none => exact .ok []
      | some choice =>
          have selected := (Picked.of_next? isNext).selected
          exact (inductionHypothesis (confines.of_mem_selections selected).2.2).bind
            fun rest _ => .ok _

/-- **Sorting fails only as the questions about two candidates do.** -/
theorem sort_confined (confines : Confines property table candidates) :
    Confined property (sort table candidates) := by
  refine sortFrom_confined (fun first firstIn second secondIn => ?_) candidates.length
  exact confines first ((byOrdinal_perm candidates).mem_iff.mp firstIn)
    second ((byOrdinal_perm candidates).mem_iff.mp secondIn)

theorem sort_answers (comparable : Comparable table candidates) :
    ∃ sorted, sort table candidates = .ok sorted :=
  (sort_confined comparable.confines).answers fun _ => id

def TypesDefined (table : TypeTable) (candidate : Candidate) : Prop :=
  ∀ id, .ofType id ∈ candidate.specializers → table.Defines id

theorem TypesDefined.registered (defined : candidate.TypesDefined table) {specializer : Specializer}
    (inside : specializer ∈ candidate.specializers) : specializer.Registered table := by
  cases specializer with
  | any => trivial
  | exactly wanted => trivial
  | ofType id => exact defined id inside

theorem compareAt_confined {left right : Specializer} (leftRegistered : left.Registered table)
    (rightRegistered : right.Registered table) :
    Confined table.Breaks (Specializer.compareAt table left right) := by
  unfold Specializer.compareAt
  split
  · exact .ok _
  split
  · exact .ok _
  split
  · have leftMentioned : table.Mentions _ := .inl leftRegistered
    have rightMentioned : table.Mentions _ := .inl rightRegistered
    refine (TypeTable.isSubtype_confined leftMentioned rightMentioned).bind fun below _ => ?_
    split
    · exact .ok _
    refine (TypeTable.isSubtype_confined rightMentioned leftMentioned).bind fun above _ => ?_
    split
    · exact .ok _
    · exact .ok _
  · exact .ok _

private theorem mayOverlap_confined {left right : Specializer}
    (leftRegistered : left.Registered table) (rightRegistered : right.Registered table) :
    Confined table.Breaks (Specializer.mayOverlap table left right) := by
  have valueConfined : ∀ {value : Value} {id : TypeId}, table.Defines id →
      Confined table.Breaks (Specializer.valueMayMatch table value id) :=
    fun ⟨_, found⟩ => .of_answers ⟨_, Specializer.valueMayMatch_eq found _⟩
  unfold Specializer.mayOverlap
  split
  · exact .ok true
  · exact .ok true
  · exact .ok _
  · exact (TypeTable.isDisjoint_confined (.inl leftRegistered) (.inl rightRegistered)).bind
      fun disjoint _ => .ok _
  · exact valueConfined rightRegistered
  · exact valueConfined leftRegistered

/-- What is asked at the places of two candidates is asked of registered types. -/
theorem TypesDefined.zip (firstDefined : first.TypesDefined table)
    (secondDefined : second.TypesDefined table) :
    ∀ place ∈ first.specializers.zip second.specializers,
      place.1.Registered table ∧ place.2.Registered table := by
  intro place inside
  obtain ⟨leftIn, rightIn⟩ := List.of_mem_zip inside
  exact ⟨firstDefined.registered leftIn, secondDefined.registered rightIn⟩

private theorem isMoreSpecificAt_confined (places : List (Specializer × Specializer))
    (registered : ∀ place ∈ places, place.1.Registered table ∧ place.2.Registered table) :
    Confined table.Breaks (isMoreSpecificAt table places) := by
  induction places with
  | nil => exact .ok false
  | cons place rest inductionHypothesis =>
      obtain ⟨left, right⟩ := registered place (by simp)
      have later := inductionHypothesis fun other inside => registered other (by simp [inside])
      refine (compareAt_confined left right).bind fun outcome _ => ?_
      cases outcome with
      | more => exact .ok true
      | less => exact .ok false
      | equal => exact later
      | incomparable => exact later

theorem isCoApplicable_confined (firstDefined : first.TypesDefined table)
    (secondDefined : second.TypesDefined table) :
    Confined table.Breaks (isCoApplicable table first second) := by
  refine Confined.allM fun place inside => ?_
  obtain ⟨left, right⟩ := firstDefined.zip secondDefined place inside
  exact mayOverlap_confined left right

theorem confines_of_typesDefined
    (defined : ∀ candidate ∈ candidates, candidate.TypesDefined table) :
    Confines table.Breaks table candidates := by
  intro first firstIn second secondIn
  have firstDefined := defined first firstIn
  have secondDefined := defined second secondIn
  exact ⟨isMoreSpecificAt_confined _ (firstDefined.zip secondDefined),
    isCoApplicable_confined firstDefined secondDefined⟩

/-! ## The linear extension -/

/-- **Sorting is a linear extension wherever one exists.** It gives the candidates in an
order that does not depend on the order they came in. If the table has the types of the
candidates, sorting fails only where the table is broken, so over a whole table it always
gives an order. If being more specific does not go round among them, no candidate stands
behind one it is more specific than; and if only being more specific than a competitor does
not, none stands behind a competitor it is more specific than. -/
theorem sort_is_linear_extension (table : TypeTable) (candidates : List Candidate)
    (distinct : (candidates.map ordinal).Nodup) :
    (∀ arranged : List Candidate, arranged.Perm candidates →
      sort table arranged = sort table candidates) ∧
    ((∀ candidate ∈ candidates, candidate.TypesDefined table) →
      (∀ fault, sort table candidates = .error fault → table.Breaks fault) ∧
      (table.Whole → ∃ sorted, sort table candidates = .ok sorted)) ∧
    ∀ sorted, sort table candidates = .ok sorted →
      sorted.Perm candidates ∧
      (Acyclic (IsMore table) candidates →
        sorted.Pairwise fun earlier later => ¬ IsMore table later earlier) ∧
      (Acyclic (Overtakes table) candidates →
        sorted.Pairwise fun earlier later => ¬ Overtakes table later earlier) := by
  refine ⟨fun arranged same => sort_eq_of_perm distinct same, fun defined => ?_,
    fun sorted run => ⟨sort_perm run, fun acyclic => ?_, fun acyclic => ?_⟩⟩
  · have confined := sort_confined (confines_of_typesDefined defined)
    exact ⟨confined, fun whole => confined.answers whole.not_breaks⟩
  · exact sort_respects Picked.not_beaten acyclic run
  · exact sort_respects Picked.not_overtaken acyclic run

namespace Drawing

def shapeTable : TypeTable :=
  { TypeTable.empty false with definitions := #[.top, .classType "Shape" [1] none] }

/-- Circles below shapes. -/
def drawTable : TypeTable :=
  (shapeTable.add (.classType "Circle" [2] none)).2

def drawCandidate (ordinal : Nat) (specializers : List Specializer) : Candidate :=
  { method := { specializers, body := ⟨"draw", false⟩, ordinal }, specializers, classes := [] }

/-- Registered with the most specific last. -/
def drawCandidates : List Candidate :=
  [drawCandidate 0 [.any, .ofType 3], drawCandidate 1 [.ofType 2, .any],
    drawCandidate 2 [.ofType 3, .any]]

theorem draw_sort_is_linear_extension :
    ∃ sorted, sort drawTable drawCandidates = .ok sorted ∧
      sort drawTable drawCandidates.reverse = .ok sorted ∧ sorted.Perm drawCandidates ∧
      (sorted.Pairwise fun earlier later => ¬ IsMore drawTable later earlier) ∧
      sorted.Pairwise fun earlier later => ¬ Overtakes drawTable later earlier := by
  obtain ⟨independent, answers, order⟩ :=
    sort_is_linear_extension drawTable drawCandidates (by decide)
  have shape : (TypeTable.empty false).ensureTop.2.newClass "Shape" [1] none =
      .ok (2, shapeTable) := by with_unfolding_all rfl
  have circle : shapeTable.newClass "Circle" [2] none = .ok (3, drawTable) := by
    with_unfolding_all rfl
  have requested : drawTable.Requested :=
    ⟨false, .tail (.tail (.single .top) (.newClass shape)) (.newClass circle)⟩
  have whole : drawTable.Whole := requested.rooted.whole
  have defined : ∀ candidate ∈ drawCandidates, candidate.TypesDefined drawTable := by
    intro candidate inside id isType
    simp only [drawCandidates, drawCandidate, List.mem_cons, List.not_mem_nil, or_false] at inside
    rcases inside with rfl | rfl | rfl
    all_goals
      obtain rfl : id = _ := by simpa using isType
      exact ⟨_, rfl⟩
  have moreFalls : ∀ first ∈ drawCandidates, ∀ second ∈ drawCandidates,
      IsMore drawTable first second → second.ordinal < first.ordinal := by
    unfold IsMore
    decide +kernel
  obtain ⟨sorted, run⟩ := (answers defined).2 whole
  obtain ⟨same, extendsMore, extendsOvertaking⟩ := order sorted run
  refine ⟨sorted, run, (independent _ drawCandidates.reverse_perm).trans run, same, ?_, ?_⟩
  · exact extendsMore (.of_measure ordinal moreFalls)
  · exact extendsOvertaking (.of_measure ordinal fun first firstIn second secondIn overtakes =>
      moreFalls first firstIn second secondIn overtakes.2)

end Drawing

namespace Straying

open TypeTable (stray winding)

def candidateFor (ordinal : Nat) (id : TypeId) : Candidate where
  method := { specializers := [.ofType id], body := ⟨"f", false⟩, ordinal }
  specializers := [.ofType id]
  classes := []

/-- **Sorting can fail.** The first two tables can be made and have the types of the
candidates, but a literal type leads out of the one and round in the other. The third
lacks the types. -/
theorem broken_tables_unsorted :
    ((TypeTable.empty false).ensureTop.2.newLiteral (.int 5) (some 99)).2.newClass "A" [1] none =
      .ok (3, stray) ∧
    (((TypeTable.empty false).ensureTop.2.newLiteral (.int 1) (some 3)).2.newLiteral
      (.int 1) (some 2)).2 = winding ∧
    (∀ table ∈ [stray, winding], table.Defines 2 ∧ table.Defines 3) ∧
    sort stray [candidateFor 0 2, candidateFor 1 3] = .error (.undefinedType 99) ∧
    sort winding [candidateFor 0 2, candidateFor 1 3] = .error (.endlessBases false) ∧
    sort (TypeTable.empty false) [candidateFor 0 2, candidateFor 1 3] =
      .error (.undefinedType 3) := by
  refine ⟨TypeTable.stray_made, TypeTable.winding_made, by decide +kernel, ?_, ?_, ?_⟩
  all_goals
    simp only [sort, byOrdinal_eq_insertionSort]
    rfl

end Straying

end Candidate

end StaticDispatch
