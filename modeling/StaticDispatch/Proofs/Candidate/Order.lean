import Mathlib.Data.List.Pairwise
import Mathlib.Data.List.Sort
import Mathlib.Data.List.Zip
import StaticDispatch.Proofs.Candidate.Specificity

/-!
Contract: sorting puts no candidate behind one that it overtakes.

A sorted list always has the candidates it was made from. If no pair is unordered,
overtaking is part of a strict order, so at each step some candidate is overtaken
by none that remain, and the sorted list respects every pair that may apply to the
same arguments.

Owns: the answers of sorting and of the search for unordered pairs.
Does not own: arguments.
-/

namespace StaticDispatch.Candidate

variable {table : TypeTable} {arity : Nat} {first second candidate : Candidate}
  {candidates remaining others : List Candidate}

/-- A candidate for a function of the given arity whose specializers are grounded. -/
structure Suited (table : TypeTable) (arity : Nat) (candidate : Candidate) : Prop where
  length : candidate.specializers.length = arity
  grounded : AllGrounded table candidate.specializers

/-! ## Relations between candidates -/

/-- Whether some arguments may satisfy both candidates, as far as the table knows. -/
def areCoApplicable (table : TypeTable) (first second : Candidate) : Bool :=
  (first.specializers.zip second.specializers).all fun (left, right) =>
    Specializer.overlaps table left right

theorem isCoApplicable_eq (mirrors : table.Mirrors) (firstSuited : Suited table arity first)
    (secondSuited : Suited table arity second) :
    isCoApplicable table first second = .ok (areCoApplicable table first second) := by
  apply Traversal.allM_ok
  rintro ⟨left, right⟩ inside
  obtain ⟨leftInside, rightInside⟩ := List.of_mem_zip inside
  exact Specializer.mayOverlap_eq mirrors (firstSuited.grounded left leftInside).defined
    (secondSuited.grounded right rightInside).defined

theorem areCoApplicable_comm (mirrors : table.Mirrors) (firstSuited : Suited table arity first)
    (secondSuited : Suited table arity second) :
    areCoApplicable table first second = areCoApplicable table second first := by
  unfold areCoApplicable
  rw [← List.zip_swap second.specializers first.specializers, List.all_map]
  rw [Bool.eq_iff_iff, List.all_eq_true, List.all_eq_true]
  refine forall₂_congr fun pair inside => ?_
  obtain ⟨rightInside, leftInside⟩ := List.of_mem_zip inside
  simp only [Function.comp_apply, Prod.fst_swap, Prod.snd_swap]
  rw [Specializer.overlaps_comm mirrors (firstSuited.grounded _ leftInside).defined
    (secondSuited.grounded _ rightInside).defined]

/-- Whether the first candidate is more specific, and whether an undecided place is
met before that shows. -/
def isMore (table : TypeTable) (first second : Candidate) : Bool :=
  Traversal.isYes (isMoreSpecific table first second)

def isUndecided (table : TypeTable) (first second : Candidate) : Bool :=
  Traversal.isYes (meetsUndecided table (first.specializers.zip second.specializers))

theorem walks_eq (mirrors : table.Mirrors) (firstSuited : Suited table arity first)
    (secondSuited : Suited table arity second) :
    isMoreSpecific table first second = .ok (isMore table first second) ∧
      meetsUndecided table (first.specializers.zip second.specializers) =
        .ok (isUndecided table first second) ∧
      Walked table first.specializers second.specializers (isMore table first second)
        (isUndecided table first second) := by
  obtain ⟨more, undecided, moreIs, undecidedIs, walked⟩ := walks_spec mirrors
    (firstSuited.length.trans secondSuited.length.symm) firstSuited.grounded secondSuited.grounded
  have isMoreIs : isMore table first second = more := by
    rw [isMore, isMoreSpecific, moreIs, Traversal.isYes]
  have isUndecidedIs : isUndecided table first second = undecided := by
    rw [isUndecided, undecidedIs, Traversal.isYes]
  rw [isMoreIs, isUndecidedIs]
  exact ⟨moreIs, undecidedIs, walked⟩

/-- Whether the order of two candidates rests on registration alone. -/
def restsOnRegistration (table : TypeTable) (first second : Candidate) : Bool :=
  areCoApplicable table first second && isUndecided table first second

theorem isUnordered_eq (mirrors : table.Mirrors) (firstSuited : Suited table arity first)
    (secondSuited : Suited table arity second) :
    isUnordered table first second = .ok (restsOnRegistration table first second) := by
  rw [isUnordered, isCoApplicable_eq mirrors firstSuited secondSuited, Traversal.ok_bind,
    (walks_eq mirrors firstSuited secondSuited).2.1, restsOnRegistration]
  cases areCoApplicable table first second <;> rfl

theorem restsOnRegistration_comm (mirrors : table.Mirrors)
    (firstSuited : Suited table arity first) (secondSuited : Suited table arity second) :
    restsOnRegistration table first second = restsOnRegistration table second first := by
  rw [restsOnRegistration, restsOnRegistration,
    areCoApplicable_comm mirrors firstSuited secondSuited, isUndecided, isUndecided,
    meetsUndecided_comm mirrors (firstSuited.length.trans secondSuited.length.symm)
      firstSuited.grounded secondSuited.grounded]

/-- Whether the first candidate may compete with the second and is more specific. -/
def overtakes (table : TypeTable) (first second : Candidate) : Bool :=
  areCoApplicable table first second && isMore table first second

/-- Where registration does not decide, overtaking is outranking. -/
theorem outranks_of_overtakes (mirrors : table.Mirrors) (firstSuited : Suited table arity first)
    (secondSuited : Suited table arity second)
    (settled : restsOnRegistration table first second = false)
    (overtaken : overtakes table first second = true) :
    Outranks table first.specializers second.specializers := by
  simp only [overtakes, Bool.and_eq_true] at overtaken
  have walked := (walks_eq mirrors firstSuited secondSuited).2.2
  rw [restsOnRegistration, overtaken.1, Bool.true_and] at settled
  rw [overtaken.2, settled] at walked
  cases walked with
  | more outranks => exact outranks

/-- Two competitors that registration does not order and that differ are ordered by
outranking. -/
theorem outranks_or_outranks (mirrors : table.Mirrors) (firstSuited : Suited table arity first)
    (secondSuited : Suited table arity second)
    (competes : areCoApplicable table first second = true)
    (settled : restsOnRegistration table first second = false)
    (different : ¬ SameKey first.specializers second.specializers) :
    Outranks table first.specializers second.specializers ∨
      Outranks table second.specializers first.specializers := by
  have walked := (walks_eq mirrors firstSuited secondSuited).2.2
  rw [restsOnRegistration, competes, Bool.true_and] at settled
  rw [settled] at walked
  generalize isMore table first second = more at walked
  cases walked with
  | more outranks => exact Or.inl outranks
  | less outranks => exact Or.inr outranks
  | same same => exact absurd same different

theorem isMore_of_outranks (mirrors : table.Mirrors) (firstSuited : Suited table arity first)
    (secondSuited : Suited table arity second)
    (outranks : Outranks table first.specializers second.specializers) :
    isMore table first second = true := by
  have walked := (walks_eq mirrors firstSuited secondSuited).2.2
  generalize isMore table first second = more at walked ⊢
  generalize isUndecided table first second = undecided at walked
  cases walked with
  | more _ => rfl
  | less other =>
      exact absurd other (outranks.asymm mirrors firstSuited.grounded)
  | same same => exact absurd same outranks.not_sameKey
  | undecided _ neither => exact absurd outranks neither

/-! ## One step of sorting -/

theorem perm_of_mem_selections {α : Type} {items rest : List α} {item : α}
    (chosen : (item, rest) ∈ selections items) : items.Perm (item :: rest) := by
  induction items generalizing rest with
  | nil => cases chosen
  | cons head tail inductionHypothesis =>
      rw [selections, List.mem_cons, List.mem_map] at chosen
      rcases chosen with isHead | ⟨⟨other, remaining⟩, inside, same⟩
      · cases isHead
        exact .refl _
      · cases same
        exact ((inductionHypothesis inside).cons head).trans (.swap item head remaining)

theorem exists_mem_selections {α : Type} {items : List α} {item : α} (inside : item ∈ items) :
    ∃ rest, (item, rest) ∈ selections items := by
  induction items with
  | nil => cases inside
  | cons head tail inductionHypothesis =>
      rw [selections]
      rcases List.mem_cons.mp inside with rfl | inTail
      · exact ⟨tail, by simp⟩
      · obtain ⟨rest, chosen⟩ := inductionHypothesis inTail
        exact ⟨head :: rest, List.mem_cons_of_mem _ (List.mem_map.mpr ⟨_, chosen, rfl⟩)⟩

def isFree (table : TypeTable) (candidate : Candidate) (others : List Candidate) : Bool :=
  !others.any (overtakes table · candidate)

private theorem isOvertaken_eq (mirrors : table.Mirrors) (suited : Suited table arity candidate)
    (othersSuited : ∀ other ∈ others, Suited table arity other) :
    isOvertaken table candidate others = .ok (!isFree table candidate others) := by
  rw [isFree, Bool.not_not]
  apply Traversal.anyM_ok
  intro other inside
  have otherSuited := othersSuited other inside
  rw [isCoApplicable_eq mirrors otherSuited suited, (walks_eq mirrors otherSuited suited).1,
    overtakes]
  cases areCoApplicable table other candidate <;> rfl

private theorem isBeaten_eq (mirrors : table.Mirrors) (suited : Suited table arity candidate)
    (othersSuited : ∀ other ∈ others, Suited table arity other) :
    isBeaten table candidate others = .ok (others.any (isMore table · candidate)) :=
  Traversal.anyM_ok fun other inside =>
    (walks_eq mirrors (othersSuited other inside) suited).1

private theorem suited_of_mem_selections
    (suited : ∀ candidate ∈ remaining, Suited table arity candidate)
    (chosen : (candidate, others) ∈ selections remaining) :
    Suited table arity candidate ∧ ∀ other ∈ others, Suited table arity other := by
  have same := perm_of_mem_selections chosen
  exact ⟨suited candidate (same.mem_iff.mpr (by simp)),
    fun other inside => suited other (same.mem_iff.mpr (by simp [inside]))⟩

def freeChoices (table : TypeTable) (remaining : List Candidate) :
    List (Candidate × List Candidate) :=
  (selections remaining).filter fun (candidate, others) => isFree table candidate others

/-- The free choices, or all if there is none. -/
def choices (table : TypeTable) (remaining : List Candidate) : List (Candidate × List Candidate) :=
  if (freeChoices table remaining).isEmpty then selections remaining
  else freeChoices table remaining

theorem pool_eq (mirrors : table.Mirrors)
    (suited : ∀ candidate ∈ remaining, Suited table arity candidate) :
    pool table remaining = .ok (choices table remaining) := by
  have kept : (selections remaining).filterM (fun (candidate, others) =>
      return !(← isOvertaken table candidate others)) = .ok (freeChoices table remaining) := by
    apply Traversal.filterM_ok
    rintro ⟨candidate, others⟩ chosen
    obtain ⟨candidateSuited, othersSuited⟩ := suited_of_mem_selections suited chosen
    simp [isOvertaken_eq mirrors candidateSuited othersSuited]
  rw [pool, kept]
  rfl

private theorem mem_choices {choice : Candidate × List Candidate}
    (inside : choice ∈ choices table remaining) :
    choice ∈ selections remaining ∧
      ((∃ other ∈ selections remaining, isFree table other.1 other.2 = true) →
        isFree table choice.1 choice.2 = true) := by
  unfold choices at inside
  split at inside
  · rename_i noneFree
    refine ⟨inside, fun ⟨other, otherInside, otherFree⟩ => ?_⟩
    have isKept : other ∈ freeChoices table remaining :=
      List.mem_filter.mpr ⟨otherInside, otherFree⟩
    rw [List.isEmpty_iff.mp noneFree] at isKept
    cases isKept
  · obtain ⟨selected, free⟩ := List.mem_filter.mp inside
    exact ⟨selected, fun _ => free⟩

private theorem choices_ne_nil (table : TypeTable) (nonempty : remaining ≠ []) :
    choices table remaining ≠ [] := by
  obtain ⟨head, tail, rfl⟩ := List.exists_cons_of_ne_nil nonempty
  unfold choices
  split
  · simp [selections]
  · rename_i someFree
    simpa using someFree

/-- The next candidate is one of those that remain, and is overtaken by none of the
others if any such candidate remains. -/
private theorem next?_spec (mirrors : table.Mirrors)
    (suited : ∀ candidate ∈ remaining, Suited table arity candidate) (nonempty : remaining ≠ []) :
    ∃ candidate others, next? table remaining = .ok (some (candidate, others)) ∧
      (candidate, others) ∈ choices table remaining := by
  have kept : (choices table remaining).filterM (fun (candidate, others) =>
      return !(← isBeaten table candidate others)) = .ok ((choices table remaining).filter
        fun (candidate, others) => !others.any (isMore table · candidate)) := by
    apply Traversal.filterM_ok
    rintro ⟨candidate, others⟩ chosen
    obtain ⟨candidateSuited, othersSuited⟩ := suited_of_mem_selections suited (mem_choices chosen).1
    simp [isBeaten_eq mirrors candidateSuited othersSuited]
  obtain ⟨head, tail, shape⟩ := List.exists_cons_of_ne_nil (choices_ne_nil table nonempty)
  rw [next?, pool_eq mirrors suited, Traversal.ok_bind, kept, Traversal.ok_bind]
  cases unbeaten : (choices table remaining).filter
      fun (candidate, others) => !others.any (isMore table · candidate) with
  | nil =>
      refine ⟨head.1, head.2, ?_, ?_⟩
      · simp [shape]
      · simp [shape]
  | cons best rest =>
      refine ⟨best.1, best.2, ?_, ?_⟩
      · simp
      · exact List.mem_of_mem_filter (unbeaten ▸ List.mem_cons_self)

/-! ## Sorting -/

/-- No two candidates of a list are ordered by registration alone. -/
def Settled (table : TypeTable) (candidates : List Candidate) : Prop :=
  candidates.Pairwise fun first second => restsOnRegistration table first second = false

/-- No candidate of a list overtakes an earlier one. -/
def Respectful (table : TypeTable) (candidates : List Candidate) : Prop :=
  candidates.Pairwise fun first second => overtakes table second first = false

/-- A strict order on the members of a list leaves one of them on top. -/
theorem exists_unsurpassed {α : Type} (relation : α → α → Prop) (items : List α)
    (nonempty : items ≠ []) (irrefl : ∀ item ∈ items, ¬ relation item item)
    (trans : ∀ first ∈ items, ∀ second ∈ items, ∀ third ∈ items,
      relation first second → relation second third → relation first third) :
    ∃ item ∈ items, ∀ other ∈ items, ¬ relation other item := by
  induction items with
  | nil => exact absurd rfl nonempty
  | cons head tail inductionHypothesis =>
      by_cases isLast : tail = []
      · subst isLast
        exact ⟨head, by simp, by simpa using irrefl head (by simp)⟩
      · obtain ⟨best, inside, unsurpassed⟩ := inductionHypothesis isLast
          (fun item member => irrefl item (by simp [member]))
          (fun first firstIn second secondIn third thirdIn => trans first (by simp [firstIn])
            second (by simp [secondIn]) third (by simp [thirdIn]))
        by_cases surpassed : relation head best
        · refine ⟨head, by simp, fun other member => ?_⟩
          rcases List.mem_cons.mp member with rfl | inTail
          · exact irrefl other (by simp)
          · intro surpasses
            exact unsurpassed other inTail (trans other (by simp [inTail]) head (by simp) best
              (by simp [inside]) surpasses surpassed)
        · refine ⟨best, by simp [inside], fun other member => ?_⟩
          rcases List.mem_cons.mp member with rfl | inTail
          · exact surpassed
          · exact unsurpassed other inTail

theorem Settled.perm (mirrors : table.Mirrors)
    (suited : ∀ candidate ∈ candidates, Suited table arity candidate)
    (settled : Settled table candidates) (same : candidates.Perm remaining) :
    Settled table remaining := by
  -- The relation is symmetric on suited candidates, which all of the list are.
  let apart : Candidate → Candidate → Prop := fun first second =>
    Suited table arity first → Suited table arity second →
      restsOnRegistration table first second = false
  have symmetric : ∀ {first second}, apart first second → apart second first := by
    intro first second holds secondSuited firstSuited
    rw [restsOnRegistration_comm mirrors secondSuited firstSuited]
    exact holds firstSuited secondSuited
  have moved : remaining.Pairwise apart :=
    (same.pairwise_iff symmetric).mp (settled.imp fun holds _ _ => holds)
  exact moved.imp_of_mem fun firstIn secondIn holds =>
    holds (suited _ (same.mem_iff.mpr firstIn)) (suited _ (same.mem_iff.mpr secondIn))

/-- In a settled list some candidate is overtaken by none of the others. -/
private theorem exists_free (mirrors : table.Mirrors)
    (suited : ∀ candidate ∈ remaining, Suited table arity candidate) (nonempty : remaining ≠ [])
    (settled : Settled table remaining) :
    ∃ choice ∈ selections remaining, isFree table choice.1 choice.2 = true := by
  obtain ⟨best, inside, unsurpassed⟩ := exists_unsurpassed
    (fun first second : Candidate => Outranks table first.specializers second.specializers)
    remaining nonempty (fun _ _ => Outranks.irrefl)
    (fun first firstIn second secondIn third _ before after =>
      before.trans mirrors (suited first firstIn).grounded after)
  obtain ⟨others, chosen⟩ := exists_mem_selections inside
  have same := perm_of_mem_selections chosen
  have apart := List.pairwise_cons.mp (settled.perm mirrors suited same)
  refine ⟨(best, others), chosen, ?_⟩
  simp only [isFree, Bool.not_eq_true', List.any_eq_false]
  intro other otherIn overtaken
  have otherInside : other ∈ remaining := same.mem_iff.mpr (by simp [otherIn])
  refine unsurpassed other otherInside (outranks_of_overtakes mirrors (suited other otherInside)
    (suited best inside) ?_ overtaken)
  rw [restsOnRegistration_comm mirrors (suited other otherInside) (suited best inside)]
  exact apart.1 other otherIn

/-- **Sorting always ends with the same candidates**, and respects overtaking where
registration decides nothing. -/
theorem sortFrom_spec (mirrors : table.Mirrors) (fuel : Nat)
    (suited : ∀ candidate ∈ remaining, Suited table arity candidate)
    (enough : remaining.length = fuel) :
    ∃ sorted, sortFrom table fuel remaining = .ok sorted ∧ sorted.Perm remaining ∧
      (Settled table remaining → Respectful table sorted) := by
  induction fuel generalizing remaining with
  | zero =>
      have nothing := List.eq_nil_of_length_eq_zero enough
      subst nothing
      exact ⟨[], rfl, .refl _, fun _ => .nil⟩
  | succ fuel inductionHypothesis =>
      have nonempty : remaining ≠ [] := List.ne_nil_of_length_eq_add_one enough
      obtain ⟨candidate, others, nextIs, chosen⟩ := next?_spec mirrors suited nonempty
      obtain ⟨selected, freeIfAny⟩ := mem_choices chosen
      have same := perm_of_mem_selections selected
      obtain ⟨-, othersSuited⟩ := suited_of_mem_selections suited selected
      obtain ⟨sorted, sortedIs, sortedPerm, respectful⟩ := inductionHypothesis othersSuited
        (Nat.succ.inj (same.length_eq.symm.trans enough))
      refine ⟨candidate :: sorted, ?_, (sortedPerm.cons candidate).trans same.symm,
        fun settled => ?_⟩
      · simp [sortFrom, nextIs, sortedIs]
      · -- Among settled candidates one is free, so the chosen one is, and none after it is
        -- more specific.
        have free := freeIfAny (exists_free mirrors suited nonempty settled)
        have restSettled := (List.pairwise_cons.mp (settled.perm mirrors suited same)).2
        refine List.pairwise_cons.mpr ⟨fun other inside => ?_, respectful restSettled⟩
        simp only [isFree, Bool.not_eq_true', List.any_eq_false] at free
        simpa using free other (sortedPerm.mem_iff.mp inside)

theorem sort_spec (mirrors : table.Mirrors)
    (suited : ∀ candidate ∈ candidates, Suited table arity candidate) :
    ∃ sorted, sort table candidates = .ok sorted ∧ sorted.Perm candidates ∧
      (Settled table candidates → Respectful table sorted) := by
  have byRegistration : (byOrdinal candidates).Perm candidates := List.mergeSort_perm _ _
  obtain ⟨sorted, sortedIs, sortedPerm, respectful⟩ := sortFrom_spec mirrors candidates.length
    (fun candidate inside => suited candidate (byRegistration.mem_iff.mp inside))
    byRegistration.length_eq
  exact ⟨sorted, sortedIs, sortedPerm.trans byRegistration,
    fun settled => respectful (settled.perm mirrors suited byRegistration.symm)⟩

/-- An item is inserted behind what it must follow and before what it may precede. -/
private theorem orderedInsert_append {α : Type} {relation : α → α → Prop} [DecidableRel relation]
    {item : α} {before after : List α} (follows : ∀ other ∈ before, ¬ relation item other)
    (precedes : ∀ other ∈ after, relation item other) :
    (before ++ after).orderedInsert relation item = before ++ item :: after := by
  induction before with
  | nil =>
      cases after with
      | nil => rfl
      | cons other others => simp [precedes other (by simp)]
  | cons other others inductionHypothesis =>
      have rest := inductionHypothesis fun another inside => follows another (by simp [inside])
      simp [follows other (by simp), rest]

/-- Sorting by registration is insertion by registration. -/
theorem byOrdinal_eq_insertionSort (candidates : List Candidate) :
    byOrdinal candidates =
      candidates.insertionSort fun first second => first.ordinal ≤ second.ordinal := by
  have trans : ∀ first second third : Candidate, decide (first.ordinal ≤ second.ordinal) = true →
      decide (second.ordinal ≤ third.ordinal) = true →
      decide (first.ordinal ≤ third.ordinal) = true := by
    simpa using fun _ _ _ => Nat.le_trans
  have total : ∀ first second : Candidate, (decide (first.ordinal ≤ second.ordinal) ||
      decide (second.ordinal ≤ first.ordinal)) = true := by
    simpa using fun _ _ => Nat.le_total _ _
  induction candidates with
  | nil => simp [byOrdinal]
  | cons candidate rest inductionHypothesis =>
      obtain ⟨before, after, whole, parts, follows⟩ :=
        List.mergeSort_cons trans total candidate rest
      have sorted := List.pairwise_mergeSort trans total (candidate :: rest)
      rw [whole, List.pairwise_append, List.pairwise_cons] at sorted
      rw [List.insertionSort_cons, ← inductionHypothesis, byOrdinal, byOrdinal, whole, parts,
        orderedInsert_append]
      · intro other inside
        simpa using follows other inside
      · intro other inside
        simpa using sorted.2.1.1 other inside

/-- The search for unordered pairs finds none exactly in a settled list. -/
theorem unorderedPairs_eq_nil_iff (mirrors : table.Mirrors)
    (suited : ∀ candidate ∈ candidates, Suited table arity candidate) :
    ∃ pairs, unorderedPairs table candidates = .ok pairs ∧
      (pairs = [] ↔ Settled table candidates) := by
  induction candidates with
  | nil => exact ⟨[], rfl, by simp [Settled]⟩
  | cons candidate rest inductionHypothesis =>
      obtain ⟨pairs, pairsAre, pairsIff⟩ := inductionHypothesis
        fun other inside => suited other (by simp [inside])
      have found : rest.filterM (isUnordered table candidate) =
          .ok (rest.filter (restsOnRegistration table candidate)) :=
        Traversal.filterM_ok fun other inside =>
          isUnordered_eq mirrors (suited candidate (by simp)) (suited other (by simp [inside]))
      refine ⟨(rest.filter (restsOnRegistration table candidate)).map (candidate, ·) ++ pairs,
        by simp [unorderedPairs, found, pairsAre], ?_⟩
      rw [List.append_eq_nil_iff, List.map_eq_nil_iff, List.filter_eq_nil_iff, pairsIff, Settled,
        Settled, List.pairwise_cons]
      simp

/-- Unordered pairs are pairs of the candidates. -/
theorem unorderedPairs_subset {pairs : List (Candidate × Candidate)}
    (found : unorderedPairs table candidates = .ok pairs) :
    ∀ pair ∈ pairs, pair.1 ∈ candidates ∧ pair.2 ∈ candidates := by
  induction candidates generalizing pairs with
  | nil =>
      cases found
      simp
  | cons candidate rest inductionHypothesis =>
      obtain ⟨unordered, unorderedIs, remainder⟩ := Traversal.bind_eq_ok.mp found
      obtain ⟨others, othersAre, made⟩ := Traversal.bind_eq_ok.mp remainder
      cases made
      intro pair inside
      rcases List.mem_append.mp inside with own | other
      · obtain ⟨second, isSecond, rfl⟩ := List.mem_map.mp own
        exact ⟨by simp, by simp [((Traversal.filterM_eq_ok unorderedIs).2 second).mp isSecond]⟩
      · obtain ⟨first, second⟩ := inductionHypothesis othersAre pair other
        exact ⟨by simp [first], by simp [second]⟩

end StaticDispatch.Candidate
