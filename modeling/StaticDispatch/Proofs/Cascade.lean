import StaticDispatch.Cascade.Basic
import StaticDispatch.Proofs.Candidate.Collection

/-!
Contract: a cascade calls the first candidate that the arguments satisfy.

Guards test only the open places of a candidate, and each guard looks at the
argument that stands at its place in precedence order. So a branch is taken exactly
if the arguments satisfy its candidate, and without any such candidate the cascade
goes on to dynamic dispatch.

Owns: what guards test, that guards can always be made, and the choice of a cascade.
Does not own: the order of candidates.
-/

namespace StaticDispatch

open Candidate (Classified)

variable {table later : TypeTable} {generic : GenericFunction} {permutation : List Nat}
  {types : List TypeId} {arguments ordered : List Value} {candidate : Candidate}
  {candidates : List Candidate}

/-- What a list of sorted candidates makes of arguments: the method of the first one
that they satisfy, or dynamic dispatch. -/
def Candidate.choose (later : TypeTable) (ordered : List Value) (name : String)
    (candidates : List Candidate) : Cascade.Final :=
  match candidates.find? (Candidate.isMet later ordered) with
  | some best => .method best.method
  | none => .dispatch name

structure Candidate.Belongs (table : TypeTable) (generic : GenericFunction)
    (permutation : List Nat) (types : List TypeId) (candidate : Candidate) : Prop where
  isMethod : candidate.method ∈ generic.methods
  classified : Classified table permutation types candidate
  noneInapplicable : .inapplicable ∉ candidate.classes

namespace Cascade

/-- The test of a guard is that of the specializer at its place. -/
def Tests (test : Guard.Test) : Specializer → Prop
  | .any => False
  | .ofType id => test = .ofType id
  | .exactly value => test = .exactly value

private theorem guardAt_eq_ok {place : Nat} {guard : Guard}
    (made : guardAt generic permutation candidate place = .ok guard) :
    ∃ specializer, permutation[place]? = some guard.index ∧
      candidate.specializers[place]? = some specializer ∧ Tests guard.test specializer := by
  unfold guardAt at made
  split at made
  · cases made
  · rename_i index isIndex
    split at made
    · rename_i argument id _ isSpecializer
      cases made
      exact ⟨_, isIndex, isSpecializer, rfl⟩
    · rename_i argument value _ isSpecializer
      cases made
      exact ⟨_, isIndex, isSpecializer, rfl⟩
    · cases made
    · cases made

/-- An open place of a candidate always has a guard. -/
private theorem guardAt_answers (posed : Posed table generic permutation types)
    (belongs : candidate.Belongs table generic permutation types) {place : Nat}
    (isOpen : place ∈ candidate.ambiguousPlaces) :
    ∃ guard, guardAt generic permutation candidate place = .ok guard := by
  have classAt := Candidate.mem_ambiguousPlaces_iff.mp isOpen
  obtain ⟨⟨specializer, type⟩, pairAt, isClass⟩ :=
    forall₂_getElem? (Traversal.mapM_eq_ok_iff.mp belongs.classified.classified).flip classAt
  have specializerAt := (List.getElem?_zip_eq_some.mp pairAt).1
  have bound : place < permutation.length := by
    rw [← Precedence.length_of_toPrecedence? belongs.classified.arranged]
    exact (List.getElem?_eq_some_iff.mp specializerAt).1
  have indexInside : permutation[place] < generic.params.required.length :=
    List.mem_range.mp (posed.perm_range.mem_iff.mp (List.getElem_mem bound))
  simp only [guardAt, List.getElem?_eq_getElem bound, List.getElem?_eq_getElem indexInside,
    specializerAt]
  cases specializer with
  | any => cases isClass
  | ofType id => exact ⟨_, rfl⟩
  | exactly value => exact ⟨_, rfl⟩

end Cascade

section Situated

variable (situation : Situation table later generic permutation types arguments ordered)

include situation

/-- A guard holds exactly if the specializer at its place is satisfied. -/
theorem Cascade.holds_eq {place : Nat} {guard : Guard} {specializer : Specializer}
    (isIndex : permutation[place]? = some guard.index)
    (tests : Tests guard.test specializer) (grounded : specializer.Grounded table) :
    ∃ value, ordered[place]? = some value ∧
      guard.holds later arguments = .ok (specializer.isMet later value) := by
  obtain ⟨value, valueAt, argumentAt⟩ := forall₂_getElem?
    (Precedence.toPrecedence?_eq_some_iff.mp situation.consistent.arranged) isIndex
  refine ⟨value, valueAt, ?_⟩
  have matched := Specializer.isMatch_eq situation.mirrors
    (situation.consistent.known value (List.mem_of_getElem? valueAt))
    (grounded.defined.extend situation.growth)
  rw [← matched, Guard.holds, argumentAt]
  cases specializer with
  | any => exact absurd tests id
  | ofType id =>
      have isTest : guard.test = .ofType id := tests
      simp [isTest, Guard.Test.holds, Specializer.isMatch]
  | exactly wanted =>
      have isTest : guard.test = .exactly wanted := tests
      simp [isTest, Guard.Test.holds, Specializer.isMatch]

/-- **The guards of a branch hold exactly if the arguments satisfy its candidate.** -/
theorem Cascade.guards_hold_eq (belongs : candidate.Belongs table generic permutation types)
    {guards : List Guard}
    (made : candidate.ambiguousPlaces.mapM (guardAt generic permutation candidate) = .ok guards) :
    guards.allM (·.holds later arguments) = .ok (candidate.isMet later ordered) := by
  have places := Traversal.mapM_eq_ok_iff.mp made
  have suited := belongs.classified.suited situation.site belongs.isMethod
  have holdsAt : ∀ {place : Nat} {guard : Guard},
      guardAt generic permutation candidate place = .ok guard →
      ∃ specializer value, candidate.specializers[place]? = some specializer ∧
        ordered[place]? = some value ∧
        guard.holds later arguments = .ok (specializer.isMet later value) := by
    intro place guard guardIs
    obtain ⟨specializer, isIndex, specializerAt, tests⟩ := guardAt_eq_ok guardIs
    obtain ⟨value, valueAt, holds⟩ := holds_eq situation isIndex tests
      (suited.grounded specializer (List.mem_of_getElem? specializerAt))
    exact ⟨specializer, value, specializerAt, valueAt, holds⟩
  have answers : ∀ guard ∈ guards,
      guard.holds later arguments = .ok (Traversal.isYes (guard.holds later arguments)) := by
    intro guard inside
    obtain ⟨place, -, guardIs⟩ := Traversal.exists_of_mem_right places inside
    obtain ⟨_, _, -, -, holds⟩ := holdsAt guardIs
    exact Traversal.eq_ok_isYes ⟨_, holds⟩
  rw [Traversal.allM_ok answers]
  congr 1
  -- The places that the static types leave open are the ones with a guard.
  rw [Bool.eq_iff_iff, List.all_eq_true,
    belongs.classified.isMet_iff_open situation belongs.isMethod belongs.noneInapplicable]
  constructor
  · intro all place isOpen specializer value specializerAt valueAt
    obtain ⟨guard, inside, guardIs⟩ := Traversal.exists_of_mem_left places isOpen
    obtain ⟨own, ownValue, ownAt, ownValueAt, holds⟩ := holdsAt guardIs
    rw [specializerAt] at ownAt
    rw [valueAt] at ownValueAt
    cases ownAt
    cases ownValueAt
    simpa [holds, Traversal.isYes] using all guard inside
  · intro all guard inside
    obtain ⟨place, isOpen, guardIs⟩ := Traversal.exists_of_mem_right places inside
    obtain ⟨specializer, value, specializerAt, valueAt, holds⟩ := holdsAt guardIs
    rw [holds, Traversal.isYes]
    exact all place isOpen specializer value specializerAt valueAt

private theorem Cascade.guarded_select
    (belong : ∀ candidate ∈ candidates, candidate.Belongs table generic permutation types)
    {cascade : Cascade} (made : guarded generic permutation candidates = .ok cascade) :
    cascade.select later arguments =
      .ok (Candidate.choose later ordered generic.name candidates) := by
  induction candidates generalizing cascade with
  | nil =>
      cases made
      rfl
  | cons candidate rest inductionHypothesis =>
      have belongs := belong candidate (by simp)
      unfold guarded at made
      split at made
      · rename_i definite
        cases made
        have met := belongs.classified.isMet_of_isDefinite situation belongs.isMethod definite
        simp [select, selectFrom, Candidate.choose, met]
      · obtain ⟨guards, guardsAre, remaining⟩ := Traversal.bind_eq_ok.mp made
        obtain ⟨others, othersAre, built⟩ := Traversal.bind_eq_ok.mp remaining
        cases built
        have chosen := inductionHypothesis
          (fun other inside => belong other (by simp [inside])) othersAre
        rw [select] at chosen
        simp only [select, selectFrom, guards_hold_eq situation belongs guardsAre,
          Traversal.ok_bind, Traversal.pure_eq_ok, Candidate.choose, List.find?_cons]
        cases candidate.isMet later ordered with
        | true => rfl
        | false => simpa [Candidate.choose] using chosen

/-- **A cascade calls the first candidate that the arguments satisfy**, with and
without checks. -/
theorem Cascade.emit_select
    (belong : ∀ candidate ∈ candidates, candidate.Belongs table generic permutation types)
    {checks : Bool} {cascade : Cascade}
    (emitted : emit generic permutation checks candidates = .ok (some cascade)) :
    cascade.select later arguments =
      .ok (Candidate.choose later ordered generic.name candidates) := by
  unfold emit at emitted
  split at emitted
  · cases emitted
  · rename_i top rest
    split at emitted
    · obtain ⟨own, made, same⟩ := Traversal.map_eq_ok.mp emitted
      cases same
      exact guarded_select situation belong made
    · split at emitted
      · rename_i definite
        cases emitted
        have belongs := belong top (by simp)
        have met := belongs.classified.isMet_of_isDefinite situation belongs.isMethod definite
        simp [select, selectFrom, Candidate.choose, met]
      · cases emitted

end Situated

/-- With checks there is always a cascade for some candidates. -/
theorem Cascade.guarded_answers (posed : Posed table generic permutation types)
    (belong : ∀ candidate ∈ candidates, candidate.Belongs table generic permutation types) :
    ∃ cascade, guarded generic permutation candidates = .ok cascade := by
  induction candidates with
  | nil => exact ⟨_, rfl⟩
  | cons candidate rest inductionHypothesis =>
      obtain ⟨others, othersAre⟩ :=
        inductionHypothesis fun other inside => belong other (by simp [inside])
      obtain ⟨guards, guardsAre⟩ := Traversal.mapM_answers fun place isOpen =>
        guardAt_answers posed (belong candidate (by simp)) isOpen
      unfold guarded
      split
      · exact ⟨_, rfl⟩
      · exact ⟨_, by rw [guardsAre, othersAre]; rfl⟩

end StaticDispatch
