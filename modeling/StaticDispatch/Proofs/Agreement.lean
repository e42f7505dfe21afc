import StaticDispatch.Proofs.Candidate.LinearExtension
import StaticDispatch.Resolution

/-!
Contract: tables that answer alike resolve call sites alike.

Resolution asks a table only a few questions about specializers and static types. Two
tables that give the same answers about those of a registry and of a call site give
the same candidates, the same order, the same doubts and the same resolution. A static
type may have another number in the other table: then it has a twin there.

Owns: agreement of two tables, and what it means for candidates and resolutions.
Does not own: which tables agree.
-/

namespace StaticDispatch

/-- Two tables compare and overlap the specializers with some property alike. -/
structure ComparesAlike (property : Specializer → Prop) (table later : TypeTable) : Prop where
  compareAt : ∀ {first second : Specializer}, property first → property second →
    first.compareAt later second = first.compareAt table second
  mayOverlap : ∀ {first second : Specializer}, property first → property second →
    first.mayOverlap later second = first.mayOverlap table second

/-- Two tables answer every question of resolution alike: about specializers with some
property and static types with another one. -/
structure AnswersAlike (property : Specializer → Prop) (typed : TypeId → Prop)
    (table later : TypeTable) : Prop extends ComparesAlike property table later where
  classify : ∀ {specializer : Specializer} {static : TypeId}, property specializer →
    typed static → specializer.classify later static = specializer.classify table static
  isTop : ∀ {static : TypeId}, typed static → later.isTop static = table.isTop static
  label : ∀ {specializer : Specializer}, property specializer →
    specializer.label later = specializer.label table

/-- Two tables answer every question of resolution alike: about specializers with some
property, and about static types of the one table that have a twin in the other. -/
structure AnswersAcross (property : Specializer → Prop) (twins : TypeId → TypeId → Prop)
    (table later : TypeTable) : Prop extends ComparesAlike property table later where
  classify : ∀ {specializer : Specializer} {static other : TypeId}, property specializer →
    twins static other → specializer.classify later other = specializer.classify table static
  isTop : ∀ {static other : TypeId}, twins static other → later.isTop other = table.isTop static
  label : ∀ {specializer : Specializer}, property specializer →
    specializer.label later = specializer.label table

namespace Candidate

def Speaks (property : Specializer → Prop) (candidate : Candidate) : Prop :=
  ∀ specializer ∈ candidate.specializers, property specializer

end Candidate

open Candidate

namespace ComparesAlike

variable {property : Specializer → Prop} {table later : TypeTable}
  {candidate left right : Candidate} {candidates remaining others : List Candidate}

/-- Tables that agree about types, and about values and types, compare alike. -/
theorem of_types
    (subtypes : ∀ {lower upper : TypeId}, property (.ofType lower) → property (.ofType upper) →
      later.isSubtype lower upper = table.isSubtype lower upper)
    (disjoint : ∀ {first second : TypeId}, property (.ofType first) → property (.ofType second) →
      later.isDisjoint first second = table.isDisjoint first second)
    (values : ∀ {wanted : Value} {id : TypeId}, property (.exactly wanted) →
      property (.ofType id) → Specializer.valueMayMatch later wanted id =
        Specializer.valueMayMatch table wanted id) :
    ComparesAlike property table later where
  compareAt := by
    intro first second isFirst isSecond
    cases first with
    | any => cases second <;> rfl
    | exactly wanted => cases second <;> rfl
    | ofType left =>
        cases second with
        | any => rfl
        | exactly wanted => rfl
        | ofType right =>
            simp only [Specializer.compareAt, subtypes isFirst isSecond, subtypes isSecond isFirst]
  mayOverlap := by
    intro first second isFirst isSecond
    cases first with
    | any => cases second <;> rfl
    | exactly wanted =>
        cases second with
        | any => rfl
        | exactly other => rfl
        | ofType id => exact values isFirst isSecond
    | ofType left =>
        cases second with
        | any => rfl
        | exactly wanted => exact values isSecond isFirst
        | ofType right => simp only [Specializer.mayOverlap, disjoint isFirst isSecond]

/-! ## Two candidates -/

/-- Both walks over places go the same way. -/
theorem walks_eq (alike : ComparesAlike property table later)
    {places : List (Specializer × Specializer)}
    (speak : ∀ place ∈ places, property place.1 ∧ property place.2) :
    isMoreSpecificAt later places = isMoreSpecificAt table places ∧
      meetsUndecided later places = meetsUndecided table places := by
  induction places with
  | nil => exact ⟨rfl, rfl⟩
  | cons place rest inductionHypothesis =>
      obtain ⟨first, second⟩ := speak place (by simp)
      obtain ⟨restMore, restUndecided⟩ := inductionHypothesis fun other inside =>
        speak other (by simp [inside])
      simp only [isMoreSpecificAt, meetsUndecided, restMore, restUndecided,
        alike.compareAt first second, and_self]

private theorem speak_zip (leftSpeaks : left.Speaks property)
    (rightSpeaks : right.Speaks property) :
    ∀ place ∈ left.specializers.zip right.specializers, property place.1 ∧ property place.2 := by
  intro place inside
  obtain ⟨leftIn, rightIn⟩ := List.of_mem_zip inside
  exact ⟨leftSpeaks _ leftIn, rightSpeaks _ rightIn⟩

theorem isMoreSpecific_eq (alike : ComparesAlike property table later)
    (leftSpeaks : left.Speaks property) (rightSpeaks : right.Speaks property) :
    isMoreSpecific later left right = isMoreSpecific table left right :=
  (alike.walks_eq (speak_zip leftSpeaks rightSpeaks)).1

theorem isCoApplicable_eq (alike : ComparesAlike property table later)
    (leftSpeaks : left.Speaks property) (rightSpeaks : right.Speaks property) :
    isCoApplicable later left right = isCoApplicable table left right := by
  apply Traversal.allM_congr
  intro place inside
  obtain ⟨first, second⟩ := speak_zip leftSpeaks rightSpeaks place inside
  exact alike.mayOverlap first second

theorem isUnordered_eq (alike : ComparesAlike property table later)
    (leftSpeaks : left.Speaks property) (rightSpeaks : right.Speaks property) :
    isUnordered later left right = isUnordered table left right := by
  rw [isUnordered, isUnordered, alike.isCoApplicable_eq leftSpeaks rightSpeaks,
    (alike.walks_eq (speak_zip leftSpeaks rightSpeaks)).2]

theorem unorderedPairs_eq (alike : ComparesAlike property table later)
    (speak : ∀ candidate ∈ candidates, candidate.Speaks property) :
    unorderedPairs later candidates = unorderedPairs table candidates := by
  induction candidates with
  | nil => rfl
  | cons candidate rest inductionHypothesis =>
      have others := inductionHypothesis fun other inside => speak other (by simp [inside])
      have found : rest.filterM (isUnordered later candidate) =
          rest.filterM (isUnordered table candidate) := by
        apply Traversal.filterM_congr
        intro other inside
        exact alike.isUnordered_eq (speak candidate (by simp)) (speak other (by simp [inside]))
      rw [unorderedPairs, unorderedPairs, found, others]

/-! ## Sorting -/

/-- A candidate stands alike against the others that remain. -/
theorem of_mem_selections (alike : ComparesAlike property table later)
    (speak : ∀ candidate ∈ remaining, candidate.Speaks property)
    (chosen : (candidate, others) ∈ selections remaining) :
    isOvertaken later candidate others = isOvertaken table candidate others ∧
      isBeaten later candidate others = isBeaten table candidate others ∧
      ∀ other ∈ others, other.Speaks property := by
  have same := perm_of_mem_selections chosen
  have own : candidate.Speaks property := speak candidate (same.mem_iff.mpr (by simp))
  have speakOthers : ∀ other ∈ others, other.Speaks property := fun other inside =>
    speak other (same.mem_iff.mpr (by simp [inside]))
  refine ⟨Traversal.anyM_congr ?_, Traversal.anyM_congr ?_, speakOthers⟩
  · intro other inside
    rw [alike.isCoApplicable_eq (speakOthers other inside) own,
      alike.isMoreSpecific_eq (speakOthers other inside) own]
  · intro other inside
    exact alike.isMoreSpecific_eq (speakOthers other inside) own

theorem pool_eq (alike : ComparesAlike property table later)
    (speak : ∀ candidate ∈ remaining, candidate.Speaks property) :
    pool later remaining = pool table remaining := by
  simp only [pool]
  congr 1
  apply Traversal.filterM_congr
  rintro ⟨candidate, others⟩ chosen
  simp only [(alike.of_mem_selections speak chosen).1]

/-- **One step of sorting** takes the same candidate. -/
theorem next?_eq (alike : ComparesAlike property table later)
    (speak : ∀ candidate ∈ remaining, candidate.Speaks property) :
    next? later remaining = next? table remaining := by
  unfold next?
  rw [alike.pool_eq speak]
  apply Traversal.bind_congr_ok
  intro free pooled
  congr 1
  apply Traversal.filterM_congr
  rintro ⟨candidate, others⟩ inside
  simp only [(alike.of_mem_selections speak (mem_selections_of_pool pooled inside)).2.1]

private theorem sortFrom_eq (alike : ComparesAlike property table later) (fuel : Nat)
    (speak : ∀ candidate ∈ remaining, candidate.Speaks property) :
    sortFrom later fuel remaining = sortFrom table fuel remaining := by
  induction fuel generalizing remaining with
  | zero => rfl
  | succ fuel inductionHypothesis =>
      rw [sortFrom, sortFrom, alike.next?_eq speak]
      apply Traversal.bind_congr_ok
      intro choice? isNext
      cases choice? with
      | none => rfl
      | some choice =>
          have selected := (Picked.of_next? isNext).selected
          simp only [inductionHypothesis (alike.of_mem_selections speak selected).2.2]

/-- **A whole run of sorting** gives the same order. -/
theorem sort_eq (alike : ComparesAlike property table later)
    (speak : ∀ candidate ∈ candidates, candidate.Speaks property) :
    sort later candidates = sort table candidates := by
  apply alike.sortFrom_eq
  intro candidate inside
  exact speak candidate ((byOrdinal_perm candidates).mem_iff.mp inside)

end ComparesAlike

namespace AnswersAcross

variable {property : Specializer → Prop} {twins : TypeId → TypeId → Prop} {table later : TypeTable}
  {generic : GenericFunction} {method : Method} {permutation : List Nat}
  {types others : List TypeId} {candidate : Candidate} {candidates : List Candidate}

/-! ## Candidates -/

private theorem ofMethod?_eq (alike : AnswersAcross property twins table later)
    (speaks : ∀ specializer ∈ method.specializers, property specializer)
    (paired : List.Forall₂ twins types others) :
    ofMethod? later permutation others method = ofMethod? table permutation types method := by
  unfold ofMethod?
  split
  · rfl
  · rename_i specializers arranged
    congr 1
    have spoken : ∀ specializer ∈ specializers, property specializer := fun specializer inside =>
      speaks specializer (Precedence.mem_of_toPrecedence? arranged inside)
    apply Traversal.mapM_eq_of_forall₂
    clear arranged
    induction paired generalizing specializers with
    | nil => simp
    | cons same _ inductionHypothesis =>
        cases specializers with
        | nil => exact .nil
        | cons specializer rest =>
            exact .cons (alike.classify (spoken specializer (by simp)) same)
              (inductionHypothesis rest fun other inside => spoken other (by simp [inside]))

/-- A candidate speaks of nothing but what its method does. -/
private theorem speaks_of_ofMethod?
    (speaks : ∀ specializer ∈ method.specializers, property specializer)
    (made : ofMethod? table permutation types method = .ok (some candidate)) :
    candidate.Speaks property ∧ candidate.method = method := by
  unfold ofMethod? at made
  split at made
  · cases made
  · rename_i specializers arranged
    split at made
    · cases made
    · split at made
      · cases made
      · cases made
        refine ⟨fun specializer inside => ?_, rfl⟩
        exact speaks specializer (Precedence.mem_of_toPrecedence? arranged inside)

private theorem speaks_of_collect
    (speak : ∀ method ∈ generic.methods, ∀ specializer ∈ method.specializers, property specializer)
    (collected : collect table generic permutation types = .ok candidates) :
    ∀ candidate ∈ candidates, candidate.Speaks property ∧
      ∀ specializer ∈ candidate.method.specializers, property specializer := by
  intro candidate inside
  unfold collect at collected
  split at collected
  · cases collected
  · obtain ⟨method, isMethod, made⟩ := Traversal.exists_of_mem_filterMapM collected inside
    obtain ⟨speaks, rfl⟩ := speaks_of_ofMethod? (speak method isMethod) made
    exact ⟨speaks, speak _ isMethod⟩

theorem collect_eq (alike : AnswersAcross property twins table later)
    (speak : ∀ method ∈ generic.methods, ∀ specializer ∈ method.specializers, property specializer)
    (paired : List.Forall₂ twins types others) :
    collect later generic permutation others = collect table generic permutation types := by
  unfold collect
  rw [paired.length_eq]
  split
  · rfl
  · apply Traversal.filterMapM_congr
    intro method isMethod
    exact alike.ofMethod?_eq (speak method isMethod) paired

/-! ## Resolutions -/

theorem label_eq (alike : AnswersAcross property twins table later)
    (speaks : ∀ specializer ∈ method.specializers, property specializer) (name : String) :
    method.label (.named later) name = method.label (.named table) name := by
  unfold Method.label
  congr 1
  apply Traversal.mapM_congr
  intro specializer inside
  exact alike.label (speaks specializer inside)

private theorem carriesInformation_eq (alike : AnswersAcross property twins table later)
    (paired : List.Forall₂ twins types others) (specializers : List Specializer) :
    carriesInformation later specializers others = carriesInformation table specializers types := by
  have untyped : others.allM later.isTop = types.allM table.isTop :=
    Traversal.allM_eq_of_forall₂ (paired.flip.imp fun _ _ same => alike.isTop same)
  rw [carriesInformation, carriesInformation, untyped]

private theorem orderDoubt?_eq (alike : AnswersAcross property twins table later)
    (speak : ∀ candidate ∈ candidates, candidate.Speaks property ∧
      ∀ specializer ∈ candidate.method.specializers, property specializer) (config : Config) :
    Resolution.orderDoubt? later config generic candidates =
      Resolution.orderDoubt? table config generic candidates := by
  unfold Resolution.orderDoubt?
  split
  · rw [alike.unorderedPairs_eq fun candidate inside => (speak candidate inside).1]
    apply Traversal.bind_congr_ok
    intro pairs found
    cases pairs with
    | nil => rfl
    | cons pair rest =>
        obtain ⟨first, second⟩ := unorderedPairs_subset found pair (by simp)
        simp only [alike.label_eq (speak _ first).2, alike.label_eq (speak _ second).2]
  · rfl

theorem ofCandidatesWith_eq (alike : AnswersAcross property twins table later)
    (speak : ∀ candidate ∈ candidates, candidate.Speaks property ∧
      ∀ specializer ∈ candidate.method.specializers, property specializer) {σ : Type}
    (hook : σ → σ) (state : σ) (config : Config) (checks : Bool) :
    Resolution.ofCandidatesWith hook state later config generic permutation checks candidates =
      Resolution.ofCandidatesWith hook state table config generic permutation checks
        candidates := by
  unfold Resolution.ofCandidatesWith
  cases candidates with
  | nil => rfl
  | cons top rest =>
      simp only [alike.orderDoubt?_eq speak, alike.label_eq (speak top (by simp)).2]

theorem ofGenericWith_eq (alike : AnswersAcross property twins table later)
    (speak : ∀ method ∈ generic.methods, ∀ specializer ∈ method.specializers, property specializer)
    (paired : List.Forall₂ twins types others) {σ : Type} (hook : σ → σ) (state : σ)
    (config : Config) (checks : Option Bool) :
    Resolution.ofGenericWith hook state later config generic permutation others checks =
      Resolution.ofGenericWith hook state table config generic permutation types checks := by
  unfold Resolution.ofGenericWith
  rw [alike.collect_eq speak paired]
  apply Traversal.bind_congr_ok
  intro candidates collected
  have speaks := speaks_of_collect speak (Traversal.mapError_eq_ok.mp collected)
  rw [alike.sort_eq fun candidate inside => (speaks candidate inside).1]
  apply Traversal.bind_congr_ok
  intro sorted run
  have same := sort_perm (Traversal.mapError_eq_ok.mp run)
  apply alike.ofCandidatesWith_eq
  intro candidate inside
  exact speaks candidate (same.mem_iff.mp inside)

/-- **Tables that answer alike resolve alike**, down to the candidates, the texts and the
cache. -/
theorem resolve_eq (alike : AnswersAcross property twins table later) {registry : Registry}
    (speaks : registry.Speaks property) (paired : List.Forall₂ twins types others)
    (config : Config) (cache : Precedence.Cache) (name : String) (checks : Option Bool) :
    Resolution.resolve registry later config cache name others checks =
      Resolution.resolve registry table config cache name types checks := by
  unfold Resolution.resolve Resolution.resolveWith
  simp only [alike.carriesInformation_eq paired, paired.length_eq]
  split
  · rfl
  · split
    · rename_i generic found
      have isGeneric := List.mem_of_find?_eq_some found
      simp only [alike.ofGenericWith_eq (speaks generic isGeneric) paired]
    · rfl

end AnswersAcross

namespace AnswersAlike

variable {property : Specializer → Prop} {typed : TypeId → Prop} {table later : TypeTable}
  {types : List TypeId}

/-- Here every static type is its own twin. -/
theorem across (alike : AnswersAlike property typed table later) :
    AnswersAcross property (fun static other => static = other ∧ typed static) table later where
  toComparesAlike := alike.toComparesAlike
  classify := by
    rintro specializer static other isSpecializer ⟨rfl, isTyped⟩
    exact alike.classify isSpecializer isTyped
  isTop := by
    rintro static other ⟨rfl, isTyped⟩
    exact alike.isTop isTyped
  label := alike.label

theorem resolve_eq (alike : AnswersAlike property typed table later) {registry : Registry}
    (speaks : registry.Speaks property) (areTyped : ∀ type ∈ types, typed type) (config : Config)
    (cache : Precedence.Cache) (name : String) (checks : Option Bool) :
    Resolution.resolve registry later config cache name types checks =
      Resolution.resolve registry table config cache name types checks :=
  alike.across.resolve_eq speaks
    (List.forall₂_same.mpr fun type inside => ⟨rfl, areTyped type inside⟩) config cache name checks

end AnswersAlike

end StaticDispatch
