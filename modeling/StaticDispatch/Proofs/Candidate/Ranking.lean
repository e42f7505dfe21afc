import StaticDispatch.Proofs.Cascade
import StaticDispatch.Proofs.Dispatch

/-!
Contract: the sorted candidates of a call site agree with dynamic dispatch.

Sorting keeps every candidate of a call site. If no two of them rest on their
registration, the first one that arguments satisfy outranks all others that they
satisfy, so it is what dynamic dispatch finds first.

Owns: the sorted candidates of a call site, and the most specific one.
Does not own: resolution, which may abstain.
-/

namespace StaticDispatch

open Candidate (Classified Settled Respectful)

variable {table later : TypeTable} {generic : GenericFunction} {permutation : List Nat}
  {types : List TypeId} {arguments ordered : List Value} {sorted : List Candidate}

/-- Equal keys stay equal in precedence order, and only they become equal. -/
theorem sameKey_iff_arranged {firsts seconds first second : List Specializer}
    (rearranges : permutation.Perm (List.range firsts.length))
    (sameLength : firsts.length = seconds.length)
    (firstArranged : Precedence.toPrecedence? permutation firsts = some first)
    (secondArranged : Precedence.toPrecedence? permutation seconds = some second) :
    SameKey first second ↔ SameKey firsts seconds := by
  have asZip : ∀ {lefts rights : List Specializer}, lefts.length = rights.length →
      (SameKey lefts rights ↔ (lefts.zip rights).all (fun pair => pair.1 == pair.2) = true) := by
    intro lefts rights lengths
    rw [SameKey, List.forall₂_iff_zip, List.all_eq_true]
    exact ⟨fun same pair inside => same.2 inside, fun all => ⟨lengths, fun inside => all _ inside⟩⟩
  rw [asZip sameLength, asZip ?_, Precedence.all_zip_eq rearranges (Nat.le_of_eq sameLength)
    firstArranged secondArranged]
  rw [Precedence.length_of_toPrecedence? firstArranged,
    Precedence.length_of_toPrecedence? secondArranged]

/-- The candidates of a call site in the order in which they are tried. -/
structure Ranking (table : TypeTable) (generic : GenericFunction) (permutation : List Nat)
    (types : List TypeId) (sorted : List Candidate) : Prop where
  belong : ∀ candidate ∈ sorted, candidate.Belongs table generic permutation types
  complete : ∀ candidate : Candidate, candidate.Belongs table generic permutation types →
    candidate ∈ sorted
  distinct : sorted.Pairwise fun first second => ¬ SameKey first.specializers second.specializers
  respectful : Settled table sorted → Respectful table sorted

namespace Ranking

/-- A method has one candidate. -/
private theorem ofMethod_of_belongs (site : Site table generic permutation types)
    {candidate : Candidate} (belongs : candidate.Belongs table generic permutation types) :
    Candidate.ofMethod table permutation types candidate.method = some candidate := by
  obtain ⟨-, own, sameMethod, classified, isMade⟩ :=
    Candidate.ofMethod?_spec site belongs.isMethod
  have sameSpecializers : own.specializers = candidate.specializers := by
    have arranged := classified.arranged
    rw [sameMethod, belongs.classified.arranged] at arranged
    exact (Option.some.inj arranged).symm
  have sameClasses : own.classes = candidate.classes := by
    have classes := classified.classified
    rw [sameSpecializers, belongs.classified.classified] at classes
    exact (Except.ok.inj classes).symm
  have same : own = candidate := by
    cases own
    cases candidate
    simp_all
  rw [isMade, same, if_neg]
  simpa using belongs.noneInapplicable

private theorem belongs_of_ofMethod (site : Site table generic permutation types) {method : Method}
    (isMethod : method ∈ generic.methods) {candidate : Candidate}
    (made : Candidate.ofMethod table permutation types method = some candidate) :
    candidate.method = method ∧ candidate.Belongs table generic permutation types := by
  obtain ⟨sameMethod, classified, noneInapplicable⟩ := Candidate.ofMethod_eq_some site isMethod made
  exact ⟨sameMethod, sameMethod ▸ isMethod, classified, noneInapplicable⟩

theorem suited_of_belongs (site : Site table generic permutation types) {candidate : Candidate}
    (belongs : candidate.Belongs table generic permutation types) :
    Candidate.Suited table generic.arity candidate :=
  belongs.classified.suited site belongs.isMethod

/-- Candidates of different methods have different keys. -/
private theorem distinct_filterMap (site : Site table generic permutation types) :
    (generic.methods.filterMap (Candidate.ofMethod table permutation types)).Pairwise
      fun first second => ¬ SameKey first.specializers second.specializers := by
  rw [List.pairwise_filterMap]
  refine site.wellFormed.distinct.imp_of_mem ?_
  intro left right leftMethod rightMethod different first firstMade second secondMade same
  obtain ⟨rfl, firstBelongs⟩ := belongs_of_ofMethod site leftMethod firstMade
  obtain ⟨rfl, secondBelongs⟩ := belongs_of_ofMethod site rightMethod secondMade
  have firstLength := site.wellFormed.lengths _ leftMethod
  have secondLength := site.wellFormed.lengths _ rightMethod
  exact different ((sameKey_iff_arranged (firstLength ▸ site.perm_range)
    (firstLength.trans secondLength.symm) firstBelongs.classified.arranged
    secondBelongs.classified.arranged).mp same)

/-- Sorting the candidates of a call site has an answer, which ranks them. -/
theorem of_sort (site : Site table generic permutation types) :
    ∃ sorted, Candidate.sort table
        (generic.methods.filterMap (Candidate.ofMethod table permutation types)) = .ok sorted ∧
      Ranking table generic permutation types sorted := by
  have belong : ∀ candidate ∈
      generic.methods.filterMap (Candidate.ofMethod table permutation types),
      candidate.Belongs table generic permutation types := by
    intro candidate inside
    obtain ⟨method, isMethod, made⟩ := List.mem_filterMap.mp inside
    exact (belongs_of_ofMethod site isMethod made).2
  obtain ⟨sorted, sortedIs, same, respectful⟩ := Candidate.sort_spec site.mirrors
    fun candidate inside => suited_of_belongs site (belong candidate inside)
  have belongSorted : ∀ candidate ∈ sorted, candidate.Belongs table generic permutation types :=
    fun candidate inside => belong candidate (same.mem_iff.mp inside)
  refine ⟨sorted, sortedIs, belongSorted, fun candidate belongs => ?_, ?_, fun settled => ?_⟩
  · exact same.mem_iff.mpr (List.mem_filterMap.mpr
      ⟨candidate.method, belongs.isMethod, ofMethod_of_belongs site belongs⟩)
  · exact (same.pairwise_iff fun different equal => different equal.symm).mpr
      (distinct_filterMap site)
  · exact respectful (settled.perm site.mirrors
      (fun candidate inside => suited_of_belongs site (belongSorted candidate inside)) same)

/-- Ranked candidates are settled if no two with different keys rest on registration. -/
theorem settled_iff (site : Site table generic permutation types)
    (ranking : Ranking table generic permutation types sorted) :
    Settled table sorted ↔ ∀ first ∈ sorted, ∀ second ∈ sorted,
      ¬ SameKey first.specializers second.specializers →
      Candidate.restsOnRegistration table first second = false := by
  have suited : ∀ candidate ∈ sorted, Candidate.Suited table generic.arity candidate :=
    fun candidate inside => suited_of_belongs site (ranking.belong candidate inside)
  constructor
  · intro settled
    apply List.Pairwise.forall_of_forall_of_flip
    · intro candidate _ different
      exact absurd (SameKey.refl candidate.specializers) different
    · refine settled.imp ?_
      intro first second apart _
      exact apart
    · refine settled.imp_of_mem ?_
      intro first second firstIn secondIn apart _
      rw [Candidate.restsOnRegistration_comm site.mirrors (suited _ secondIn) (suited _ firstIn)]
      exact apart
  · intro apart
    exact ranking.distinct.imp_of_mem fun firstIn secondIn different =>
      apart _ firstIn _ secondIn different

section Situated

variable (situation : Situation table later generic permutation types arguments ordered)
  (ranking : Ranking table generic permutation types sorted)

include situation ranking

/-- Every method that the arguments satisfy is among the candidates. -/
theorem mem_of_isMet {candidate : Candidate} (isMethod : candidate.method ∈ generic.methods)
    (classified : Classified table permutation types candidate)
    (met : candidate.isMet later ordered = true) : candidate ∈ sorted := by
  refine ranking.complete candidate ⟨isMethod, classified, fun inapplicable => ?_⟩
  rw [classified.not_isMet situation isMethod inapplicable] at met
  cases met

/-- Arguments that satisfy no candidate satisfy no method. -/
theorem not_isMet_of_find? (noneMet : sorted.find? (Candidate.isMet later ordered) = none)
    {candidate : Candidate} (isMethod : candidate.method ∈ generic.methods)
    (classified : Classified table permutation types candidate) :
    candidate.isMet later ordered = false := by
  rw [Bool.eq_false_iff]
  intro met
  exact List.find?_eq_none.mp noneMet candidate
    (ranking.mem_of_isMet situation isMethod classified met) met

/-- **The first candidate that the arguments satisfy outranks all others that they
satisfy.** -/
theorem outranks_of_find? (settled : Settled table sorted) {best other : Candidate}
    (isBest : sorted.find? (Candidate.isMet later ordered) = some best)
    (inside : other ∈ sorted) (otherMet : other.isMet later ordered = true) :
    other = best ∨ Outranks table best.specializers other.specializers := by
  obtain ⟨bestMet, before, after, cut, unmet⟩ := List.find?_eq_some_iff_append.mp isBest
  have site := situation.site
  have bestBelongs := ranking.belong best (List.mem_of_find?_eq_some isBest)
  have otherBelongs := ranking.belong other inside
  have bestSuited := suited_of_belongs site bestBelongs
  have otherSuited := suited_of_belongs site otherBelongs
  have place : other ∈ before ∨ other = best ∨ other ∈ after := by
    rw [cut] at inside
    simpa using inside
  rcases place with isBefore | isBest | isAfter
  · have notMet := unmet other isBefore
    simp [otherMet] at notMet
  · exact Or.inl isBest
  · have behind : ∀ {relation : Candidate → Candidate → Prop},
        sorted.Pairwise relation → relation best other := by
      intro relation pairwise
      rw [cut] at pairwise
      exact (List.pairwise_cons.mp (List.pairwise_append.mp pairwise).2.1).1 other isAfter
    have competes := Candidate.areCoApplicable_of_isMet situation bestBelongs.classified
      otherBelongs.classified bestBelongs.isMethod otherBelongs.isMethod bestMet otherMet
    refine Or.inr ((Candidate.outranks_or_outranks site.mirrors bestSuited otherSuited competes
      (behind settled) (behind ranking.distinct)).resolve_right fun outranked => ?_)
    -- A candidate that outranks an earlier one would have overtaken it.
    have notOvertaken := behind (ranking.respectful settled)
    rw [Candidate.overtakes, Candidate.areCoApplicable_comm site.mirrors otherSuited bestSuited,
      competes, Candidate.isMore_of_outranks site.mirrors otherSuited bestSuited outranked]
      at notOvertaken
    cases notOvertaken

/-- **The first candidate that the arguments satisfy is what dynamic dispatch finds
first.** -/
theorem applicable_head?_eq (settled : Settled table sorted)
    (nominal : ∀ method ∈ generic.methods, AllNominal table method.specializers) :
    ∃ methods, Dispatch.applicable later generic arguments = .ok methods ∧
      methods.head? = (sorted.find? (Candidate.isMet later ordered)).map (·.method) := by
  cases isBest : sorted.find? (Candidate.isMet later ordered) with
  | none =>
      exact ⟨[], Dispatch.applicable_eq_nil situation fun candidate =>
        ranking.not_isMet_of_find? situation isBest, rfl⟩
  | some best =>
      have belongs := ranking.belong best (List.mem_of_find?_eq_some isBest)
      refine Dispatch.applicable_head? situation nominal belongs.isMethod belongs.classified
        (List.find?_some isBest) ?_
      intro other isMethod classified met
      refine (ranking.outranks_of_find? situation settled isBest
        (ranking.mem_of_isMet situation isMethod classified met) met).imp_left fun same => ?_
      rw [same]

end Situated

end Ranking

end StaticDispatch
