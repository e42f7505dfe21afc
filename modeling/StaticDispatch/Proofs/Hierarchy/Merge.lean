import Mathlib.Data.List.Basic
import StaticDispatch.Hierarchy.Linearization
import StaticDispatch.Proofs.Traversal

/-!
Contract: what the merge of linearizations keeps, and when it succeeds.

A merge that succeeds keeps every list in its order, holds exactly the classes
of the lists, and holds each once. It succeeds whenever some order without
repetition keeps all the lists: the class that this order has first can always be
taken.

Owns: soundness and completeness of the merge.
Does not own: the linearizations that are merged.
-/

namespace StaticDispatch.Linearization

variable {lists : List (List ClassId)} {taken : ClassId}

private theorem isFree_iff {candidate : ClassId} :
    isFree lists candidate = true ↔ ∀ list ∈ lists, candidate ∉ list.tail := by
  simp [isFree]

private theorem mem_heads_iff {head : ClassId} :
    head ∈ lists.filterMap List.head? ↔ ∃ rest, head :: rest ∈ lists := by
  rw [List.mem_filterMap]
  constructor
  · rintro ⟨list, member, isHead⟩
    obtain ⟨rest, rfl⟩ := List.head?_eq_some_iff.mp isHead
    exact ⟨rest, member⟩
  · rintro ⟨rest, member⟩
    exact ⟨head :: rest, member, rfl⟩

private theorem heads_eq_nil_iff : heads lists = [] ↔ ∀ list ∈ lists, list = [] := by
  have noHead : heads lists = [] ↔ lists.filterMap List.head? = [] := by
    cases found : lists.filterMap List.head? <;> simp [heads, found, List.eraseDups_cons]
  rw [noHead, List.filterMap_eq_nil_iff]
  simp

private theorem freeHead?_mem (free : freeHead? lists = some taken) :
    (∃ rest, taken :: rest ∈ lists) ∧ ∀ list ∈ lists, taken ∉ list.tail :=
  ⟨mem_heads_iff.mp (List.mem_of_find?_eq_some free), isFree_iff.mp (List.find?_some free)⟩

private theorem dropHead_sublist (taken : ClassId) (list : List ClassId) :
    (dropHead taken list).Sublist list := by
  cases list with
  | nil => exact List.Sublist.refl _
  | cons head tail =>
      simp only [dropHead]
      split
      · exact List.sublist_cons_self head tail
      · exact List.Sublist.refl _

/-- A list is kept when the class it starts with is put back in front. -/
private theorem sublist_cons_of_dropHead {list merged : List ClassId}
    (kept : (dropHead taken list).Sublist merged) : list.Sublist (taken :: merged) := by
  cases list with
  | nil => exact List.nil_sublist _
  | cons head tail =>
      by_cases isTaken : head = taken
      · subst head
        rw [dropHead, if_pos rfl] at kept
        exact kept.cons_cons taken
      · rw [dropHead, if_neg isTaken] at kept
        exact kept.cons taken

/-- A class behind no head is gone once it is dropped. -/
private theorem not_mem_dropHead {list : List ClassId} (free : taken ∉ list.tail) :
    taken ∉ dropHead taken list := by
  cases list with
  | nil => simp [dropHead]
  | cons head tail =>
      simp only [dropHead]
      split
      · exact free
      · rename_i different
        simp only [List.mem_cons, not_or]
        exact ⟨fun same => different same.symm, free⟩

/-- The run of a merge that succeeds: free heads are taken until no class is left. -/
inductive Merges : List (List ClassId) → List ClassId → Prop where
  | done {lists : List (List ClassId)} (exhausted : ∀ list ∈ lists, list = []) : Merges lists []
  | take {lists : List (List ClassId)} {head : ClassId} {rest : List ClassId}
      (free : freeHead? lists = some head)
      (remaining : Merges (lists.map (dropHead head)) rest) : Merges lists (head :: rest)

private theorem Merges.of_mergeSteps {steps : Nat} {merged : List ClassId}
    (succeeds : mergeSteps steps lists = .ok merged) : Merges lists merged := by
  induction steps generalizing lists merged with
  | zero =>
      simp only [mergeSteps] at succeeds
      split at succeeds
      · rename_i exhausted
        cases succeeds
        exact .done (heads_eq_nil_iff.mp exhausted)
      · cases succeeds
  | succ steps inductionHypothesis =>
      simp only [mergeSteps] at succeeds
      split at succeeds
      · rename_i exhausted
        cases succeeds
        exact .done (heads_eq_nil_iff.mp exhausted)
      · split at succeeds
        · cases succeeds
        · rename_i head free
          obtain ⟨rest, remaining, rfl⟩ := Traversal.map_eq_ok.mp succeeds
          exact .take free (inductionHypothesis remaining)

theorem Merges.of_merge {merged : List ClassId} (succeeds : merge lists = .ok merged) :
    Merges lists merged :=
  .of_mergeSteps succeeds

namespace Merges

variable {merged : List ClassId}

theorem sublist (merges : Merges lists merged) : ∀ list ∈ lists, list.Sublist merged := by
  induction merges with
  | done exhausted =>
      intro list member
      rw [exhausted list member]
  | take free remaining inductionHypothesis =>
      intro list member
      exact sublist_cons_of_dropHead (inductionHypothesis _ (List.mem_map_of_mem member))

theorem exists_mem (merges : Merges lists merged) {member : ClassId} (inside : member ∈ merged) :
    ∃ list ∈ lists, member ∈ list := by
  induction merges with
  | done exhausted => cases inside
  | @take lists head rest free remaining inductionHypothesis =>
      rcases List.mem_cons.mp inside with isHead | inRest
      · obtain ⟨tail, listed⟩ := (freeHead?_mem free).1
        exact ⟨head :: tail, listed, by simp [isHead]⟩
      · obtain ⟨shorter, shorterListed, found⟩ := inductionHypothesis inRest
        obtain ⟨list, listed, rfl⟩ := List.mem_map.mp shorterListed
        exact ⟨list, listed, (dropHead_sublist head list).subset found⟩

theorem nodup (merges : Merges lists merged) : merged.Nodup := by
  induction merges with
  | done exhausted => exact List.nodup_nil
  | take free remaining inductionHypothesis =>
      refine List.nodup_cons.mpr ⟨fun repeated => ?_, inductionHypothesis⟩
      -- Once taken, a free head is left in no list, so it cannot be taken again.
      obtain ⟨shorter, shorterListed, found⟩ := remaining.exists_mem repeated
      obtain ⟨list, listed, rfl⟩ := List.mem_map.mp shorterListed
      exact not_mem_dropHead ((freeHead?_mem free).2 list listed) found

end Merges

/-! ## Success -/

/-- Of the classes in the lists, the one that a common order has first is a head
and behind no other. -/
private theorem exists_free_head {order : List ClassId} (distinct : order.Nodup)
    (kept : ∀ list ∈ lists, list.Sublist order) {list : List ClassId}
    (listed : list ∈ lists) (nonempty : list ≠ []) :
    ∃ head ∈ lists.filterMap List.head?, isFree lists head = true := by
  induction order with
  | nil => exact absurd (List.sublist_nil.mp (kept list listed)) nonempty
  | cons first rest inductionHypothesis =>
      have restDistinct := (List.nodup_cons.mp distinct).2
      have firstFresh := (List.nodup_cons.mp distinct).1
      by_cases occurs : ∃ list ∈ lists, first ∈ list
      · obtain ⟨list, member, inside⟩ := occurs
        refine ⟨first, ?_, isFree_iff.mpr fun other otherMember behind => ?_⟩
        · cases list with
          | nil => cases inside
          | cons head tail =>
              rcases List.mem_cons.mp inside with isHead | inTail
              · exact mem_heads_iff.mpr ⟨tail, isHead ▸ member⟩
              · -- The head would stand before `first` in the order.
                exact absurd ((List.Sublist.of_cons_cons (kept _ member)).subset inTail)
                  firstFresh
        · cases other with
          | nil => cases behind
          | cons head tail =>
              exact firstFresh ((List.Sublist.of_cons_cons (kept _ otherMember)).subset behind)
      · apply inductionHypothesis restDistinct
        intro list member
        rcases List.sublist_cons_iff.mp (kept list member) with inRest | ⟨tail, rfl, -⟩
        · exact inRest
        · exact absurd ⟨first :: tail, member, by simp⟩ occurs

private theorem length_flatten_dropHead_le (taken : ClassId) (lists : List (List ClassId)) :
    (lists.map (dropHead taken)).flatten.length ≤ lists.flatten.length := by
  induction lists with
  | nil => exact Nat.le_refl _
  | cons list rest inductionHypothesis =>
      have shorter := (dropHead_sublist taken list).length_le
      simp only [List.map_cons, List.flatten_cons, List.length_append]
      omega

private theorem length_flatten_dropHead_lt {rest : List ClassId} (listed : taken :: rest ∈ lists) :
    (lists.map (dropHead taken)).flatten.length < lists.flatten.length := by
  induction lists with
  | nil => cases listed
  | cons list others inductionHypothesis =>
      simp only [List.map_cons, List.flatten_cons, List.length_append]
      rcases List.mem_cons.mp listed with isFirst | inOthers
      · have othersShorter := length_flatten_dropHead_le taken others
        rw [← isFirst, dropHead, if_pos rfl, List.length_cons]
        omega
      · have shorter := (dropHead_sublist taken list).length_le
        have othersShorter := inductionHypothesis inOthers
        omega

private theorem mergeSteps_succeeds {steps : Nat} {order : List ClassId} (distinct : order.Nodup)
    (enough : lists.flatten.length ≤ steps)
    (kept : ∀ list ∈ lists, list.Sublist order) :
    ∃ merged, mergeSteps steps lists = .ok merged := by
  induction steps generalizing lists with
  | zero =>
      have exhausted : ∀ list ∈ lists, list = [] :=
        List.flatten_eq_nil_iff.mp (List.length_eq_zero_iff.mp (Nat.le_zero.mp enough))
      exact ⟨[], by rw [mergeSteps, if_pos (heads_eq_nil_iff.mpr exhausted)]⟩
  | succ steps inductionHypothesis =>
      by_cases exhausted : heads lists = []
      · exact ⟨[], by rw [mergeSteps, if_pos exhausted]⟩
      · obtain ⟨list, listed, nonempty⟩ : ∃ list ∈ lists, list ≠ [] := by
          simpa [heads_eq_nil_iff] using exhausted
        obtain ⟨head, isHead, free⟩ := exists_free_head distinct kept listed nonempty
        obtain ⟨taken, found⟩ : ∃ taken, freeHead? lists = some taken :=
          Option.isSome_iff_exists.mp (List.find?_isSome.mpr ⟨head, isHead, free⟩)
        obtain ⟨rest, takenListed⟩ := (freeHead?_mem found).1
        -- Any free head will do: the lists it leaves are shorter and the order still keeps them.
        have shorter := length_flatten_dropHead_lt takenListed
        have stillKept : ∀ list ∈ lists.map (dropHead taken), list.Sublist order := by
          intro shorterList member
          obtain ⟨original, originalListed, rfl⟩ := List.mem_map.mp member
          exact (dropHead_sublist taken original).trans (kept original originalListed)
        obtain ⟨merged, remaining⟩ := inductionHypothesis (by omega) stillKept
        exact ⟨taken :: merged, by
          rw [mergeSteps, if_neg exhausted, found]
          exact congrArg (Except.map (taken :: ·)) remaining⟩

/-- The merge succeeds if one order without repetition keeps all the lists. -/
theorem merge_succeeds {order : List ClassId} (distinct : order.Nodup)
    (kept : ∀ list ∈ lists, list.Sublist order) : ∃ merged, merge lists = .ok merged :=
  mergeSteps_succeeds distinct (Nat.le_refl _) kept

end StaticDispatch.Linearization
