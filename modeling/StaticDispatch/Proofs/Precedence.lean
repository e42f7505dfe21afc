import Mathlib.Data.List.Nodup
import Mathlib.Data.List.Perm.Subperm
import StaticDispatch.Precedence
import StaticDispatch.Proofs.Traversal

/-!
Contract: rearranging by precedence loses nothing.

An accepted order gives a permutation of all places, so what is asked of every
item, or of every pair of items at one place, is the same in both orders. A cache
that was only ever asked for permutations hands out those that were asked for.

Owns: permutations of places, rearranged lists, and faithful caches.
Does not own: generic functions.
-/

namespace StaticDispatch.Precedence

variable {required declared : List String} {permutation : List Nat}

/-! ## Permutations of places -/

private theorem isDistinct_iff {names : List String} : isDistinct names = true ↔ names.Nodup := by
  induction names with
  | nil => simp [isDistinct]
  | cons name rest inductionHypothesis => simp [isDistinct, inductionHypothesis]

theorem isRearrangement_iff :
    isRearrangement required declared = true ↔ declared.Nodup ∧ declared.Perm required := by
  simp only [isRearrangement, Bool.and_eq_true, decide_eq_true_eq, List.all_eq_true,
    List.contains_iff_mem, isDistinct_iff]
  constructor
  · rintro ⟨⟨⟨sameLength, inside⟩, -⟩, distinct⟩
    exact ⟨distinct, (distinct.subperm inside).perm_of_length_le (Nat.le_of_eq sameLength.symm)⟩
  · rintro ⟨distinct, rearranged⟩
    exact ⟨⟨⟨rearranged.length_eq, fun _ => rearranged.mem_iff.mp⟩,
      fun _ => rearranged.mem_iff.mpr⟩, distinct⟩

private theorem map_idxOf_self {names : List String} (distinct : names.Nodup) :
    names.map names.idxOf = List.range names.length := by
  apply List.ext_getElem
  · simp
  · intro position before after
    simp [distinct.idxOf_getElem]

/-- An accepted order permutes the places of the parameters. -/
theorem perm_range (accepted : Precedence.permutation required (some declared) = .ok permutation) :
    permutation.Perm (List.range required.length) := by
  simp only [Precedence.permutation] at accepted
  split at accepted
  · rename_i rearranges
    obtain ⟨distinct, rearranged⟩ := isRearrangement_iff.mp rearranges
    cases accepted
    rw [← map_idxOf_self (rearranged.nodup_iff.mp distinct)]
    exact rearranged.map required.idxOf
  · cases accepted

/-! ## Rearranged lists -/

variable {α β : Type} {items ordered : List α} {others otherOrdered : List β}

theorem toPrecedence?_eq_some_iff :
    toPrecedence? permutation items = some ordered ↔
      List.Forall₂ (fun place item => items[place]? = some item) permutation ordered :=
  Traversal.mapM_eq_some_iff

theorem toPrecedence?_of_perm (rearranges : permutation.Perm (List.range items.length)) :
    ∃ ordered, toPrecedence? permutation items = some ordered := by
  apply Traversal.mapM_some_answers
  intro place isPlace
  have bound : place < items.length := List.mem_range.mp (rearranges.mem_iff.mp isPlace)
  exact ⟨items[place], List.getElem?_eq_getElem bound⟩

theorem length_of_toPrecedence? (arranged : toPrecedence? permutation items = some ordered) :
    ordered.length = permutation.length :=
  (toPrecedence?_eq_some_iff.mp arranged).length_eq.symm

theorem mem_of_toPrecedence? (arranged : toPrecedence? permutation items = some ordered)
    {item : α} (inside : item ∈ ordered) : item ∈ items := by
  obtain ⟨place, -, found⟩ :=
    Traversal.exists_of_mem_right (toPrecedence?_eq_some_iff.mp arranged) inside
  exact List.mem_of_getElem? found

/-- Items beyond the places are not looked at. -/
theorem toPrecedence?_take {count : Nat} (inside : ∀ place ∈ permutation, place < count) :
    toPrecedence? permutation (items.take count) = toPrecedence? permutation items := by
  unfold toPrecedence?
  induction permutation with
  | nil => rfl
  | cons place rest inductionHypothesis =>
      rw [List.mapM_cons, List.mapM_cons, List.getElem?_take_of_lt (inside place (by simp)),
        inductionHypothesis fun other isOther => inside other (by simp [isOther])]

/-- Every place of a rearranged list is one of the list. -/
theorem le_length_of_toPrecedence? {count : Nat} (rearranges : permutation.Perm (List.range count))
    (arranged : toPrecedence? permutation items = some ordered) : count ≤ items.length := by
  cases count with
  | zero => exact Nat.zero_le _
  | succ last =>
      have isPlace : last ∈ permutation := rearranges.mem_iff.mpr (by simp)
      obtain ⟨item, -, found⟩ :=
        Traversal.exists_of_mem_left (toPrecedence?_eq_some_iff.mp arranged) isPlace
      exact (List.getElem?_eq_some_iff.mp found).1

/-- Pairs are rearranged as their parts are. -/
private theorem toPrecedence?_zip (arranged : toPrecedence? permutation items = some ordered)
    (otherArranged : toPrecedence? permutation others = some otherOrdered) :
    toPrecedence? permutation (items.zip others) = some (ordered.zip otherOrdered) := by
  rw [toPrecedence?_eq_some_iff] at arranged otherArranged ⊢
  induction arranged generalizing otherOrdered with
  | nil =>
      cases otherArranged
      exact .nil
  | cons found _ inductionHypothesis =>
      cases otherArranged with
      | cons otherFound otherRest =>
          exact .cons (List.getElem?_zip_eq_some.mpr ⟨found, otherFound⟩)
            (inductionHypothesis otherRest)

/-- Rearranging by a permutation of all places keeps every item. -/
theorem perm_of_toPrecedence? (rearranges : permutation.Perm (List.range items.length))
    (arranged : toPrecedence? permutation items = some ordered) : ordered.Perm items := by
  have looked : permutation.map (items[·]?) = ordered.map some := by
    have places := toPrecedence?_eq_some_iff.mp arranged
    clear arranged rearranges
    induction places with
    | nil => rfl
    | cons found _ inductionHypothesis =>
        rw [List.map_cons, List.map_cons, found, inductionHypothesis]
  have all : (List.range items.length).map (items[·]?) = items.map some := by
    apply List.ext_getElem
    · simp
    · intro position before after
      simp
  have moved : (ordered.map some).Perm (items.map some) := by
    rw [← looked, ← all]
    exact rearranges.map _
  simpa using moved.filterMap id

/-- What is asked of every pair at one place does not depend on the order of the
places. Items beyond the places are not asked. -/
theorem all_zip_eq (rearranges : permutation.Perm (List.range items.length))
    (enough : items.length ≤ others.length)
    (arranged : toPrecedence? permutation items = some ordered)
    (otherArranged : toPrecedence? permutation others = some otherOrdered)
    (question : α × β → Bool) :
    (items.zip others).all question = (ordered.zip otherOrdered).all question := by
  have sameLength : (items.zip others).length = items.length := by
    rw [List.length_zip, Nat.min_eq_left enough]
  have moved := perm_of_toPrecedence? (sameLength ▸ rearranges)
    (toPrecedence?_zip arranged otherArranged)
  exact (moved.all_eq).symm

/-! ## The cache -/

namespace Cache

/-- A cache that was only ever asked for permutations. -/
inductive Reached : Cache → Prop where
  | empty : Reached {}
  | asked {cache next : Cache} {name : String} {required order : List String}
      {permutation : List Nat} (reached : Reached cache)
      (answer : cache.permutation name required order = .ok (permutation, next)) : Reached next

/-- Every entry of a cache is what its names and its order ask for. -/
def Faithful (cache : Cache) : Prop :=
  ∀ name entry, cache.find? name = some entry →
    Precedence.permutation entry.required (some entry.order) = .ok entry.permutation

private theorem find?_insert {cache : Cache} {name other : String} {entry : Entry} :
    (cache.insert name entry).find? other =
      if other = name then some entry else cache.find? other := by
  by_cases same : other = name
  · simp [find?, insert, same]
  · have untouched : (cache.entries.filter (·.1 != name)).find? (·.1 = other) =
        cache.entries.find? (·.1 = other) := by
      rw [List.find?_filter]
      congr 1
      funext item
      by_cases isOther : item.1 = other <;> simp [isOther, same]
    simp [find?, insert, Ne.symm same, same, untouched]

/-- **A faithful cache answers with the permutation asked for**, and stays faithful. -/
theorem permutation_spec {cache next : Cache} {name : String} {required order : List String}
    {permutation : List Nat} (faithful : cache.Faithful)
    (answer : cache.permutation name required order = .ok (permutation, next)) :
    Precedence.permutation required (some order) = .ok permutation ∧ next.Faithful := by
  unfold Cache.permutation at answer
  split at answer
  · rename_i entry found
    obtain ⟨present, fits⟩ := Option.filter_eq_some_iff.mp found
    cases answer
    simp only [Bool.and_eq_true, decide_eq_true_eq] at fits
    obtain ⟨rfl, rfl⟩ := fits
    exact ⟨faithful name entry present, faithful⟩
  · obtain ⟨made, madeIs, result⟩ := Traversal.bind_eq_ok.mp answer
    cases result
    refine ⟨madeIs, fun other entry found => ?_⟩
    rw [find?_insert] at found
    split at found
    · cases found
      exact madeIs
    · exact faithful other entry found

/-- A faithful cache has an answer wherever there is a permutation. -/
theorem permutation_answers {cache : Cache} (name : String) {required order : List String}
    {permutation : List Nat} (faithful : cache.Faithful)
    (permuted : Precedence.permutation required (some order) = .ok permutation) :
    ∃ next, cache.permutation name required order = .ok (permutation, next) := by
  cases asked : cache.permutation name required order with
  | ok answer =>
      obtain ⟨own, next⟩ := answer
      have same := (permutation_spec faithful asked).1
      rw [permuted] at same
      cases same
      exact ⟨next, rfl⟩
  | error fault =>
      unfold Cache.permutation at asked
      split at asked
      · cases asked
      · rw [permuted] at asked
        cases asked

/-- What one question leaves of a cache, and no question. -/
def Follows (cache next : Cache) : Prop :=
  next = cache ∨ ∃ name required order permutation,
    cache.permutation name required order = .ok (permutation, next)

theorem Follows.reached {cache next : Cache} (follows : cache.Follows next)
    (reached : cache.Reached) : next.Reached := by
  rcases follows with rfl | ⟨name, required, order, permutation, answer⟩
  · exact reached
  · exact reached.asked answer

theorem Follows.faithful {cache next : Cache} (follows : cache.Follows next)
    (faithful : cache.Faithful) : next.Faithful := by
  rcases follows with rfl | ⟨name, required, order, permutation, answer⟩
  · exact faithful
  · exact (permutation_spec faithful answer).2

theorem Reached.faithful {cache : Cache} (reached : Reached cache) : cache.Faithful := by
  induction reached with
  | empty =>
      intro name entry found
      cases found
  | asked _ answer inductionHypothesis => exact (permutation_spec inductionHypothesis answer).2

end Cache

end StaticDispatch.Precedence
