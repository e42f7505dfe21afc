import Mathlib.Logic.Relation
import StaticDispatch.Proofs.Hierarchy.Creation

/-!
Contract: when two classes can have a common subclass.

Two unrelated classes have a common subclass in some hierarchy that making classes
leads to exactly if a class can be derived from the two of them now, so one attempt
speaks for all classes that may ever be made. Neither the order of the two nor
classes that are made meanwhile matter to the attempt.

Owns: the hierarchies that may come about, and common subclasses of unrelated
classes.
Does not own: the static types that are disjoint for want of one.
-/

namespace StaticDispatch.Hierarchy

variable {hierarchy later : Hierarchy} {first second cls : ClassId}

/-! ## Making classes -/

inductive Makes (hierarchy : Hierarchy) : Hierarchy → Prop where
  | made {name home : String} {bases : List ClassId} {cls : ClassId} {next : Hierarchy}
      (known : ∀ base ∈ bases, hierarchy.Knows base)
      (created : hierarchy.create name home bases = .ok (cls, next)) : Makes hierarchy next

/-- What a hierarchy may become by making classes, one after another. -/
def MayBecome : Hierarchy → Hierarchy → Prop :=
  Relation.ReflTransGen Makes

theorem Makes.spec (makes : hierarchy.Makes later) (wellFormed : hierarchy.WellFormed) :
    later.WellFormed ∧ hierarchy.Extends later := by
  cases makes with
  | made known created =>
      exact ⟨(created_spec wellFormed known created).1, create_extends created⟩

/-- **Making classes keeps a hierarchy well formed** and leaves the old ones as they were. -/
theorem MayBecome.spec (run : hierarchy.MayBecome later) (wellFormed : hierarchy.WellFormed) :
    later.WellFormed ∧ hierarchy.Extends later := by
  induction run with
  | refl => exact ⟨wellFormed, .refl hierarchy⟩
  | tail _ makes inductionHypothesis =>
      obtain ⟨middleWellFormed, growth⟩ := inductionHypothesis
      obtain ⟨nextWellFormed, grown⟩ := makes.spec middleWellFormed
      exact ⟨nextWellFormed, growth.trans grown⟩

/-! ## Attempts to derive a class -/

private theorem canDerive_iff {bases : List ClassId} :
    hierarchy.canDerive bases = true ↔
      ∃ layout ancestors, hierarchy.inherit bases = .ok (layout, ancestors) := by
  unfold canDerive
  cases hierarchy.inherit bases with
  | error fault => simp [Except.isOk, Except.toBool]
  | ok inherited => exact ⟨fun _ => ⟨inherited.1, inherited.2, rfl⟩, fun _ => rfl⟩

private theorem combineLayouts_pair (wellFormed : hierarchy.WellFormed)
    (firstKnown : hierarchy.Knows first) (firstOpen : hierarchy.isSealed first = false)
    (secondOpen : hierarchy.isSealed second = false)
    (related : hierarchy.layout second ∈ hierarchy.linearization (hierarchy.layout first) ∨
      hierarchy.layout first ∈ hierarchy.linearization (hierarchy.layout second)) :
    ∃ layout, hierarchy.combineLayouts objectClass [first, second] = .ok layout := by
  have layoutKnown := wellFormed.knows_of_mem (wellFormed.layout_mem firstKnown)
  have rootAbove := isSubclass_iff.mpr (wellFormed.root_mem layoutKnown)
  -- Whichever way the first base goes, its layout is the winner so far.
  have firstWins : hierarchy.combineLayouts objectClass [first, second] =
      hierarchy.combineLayouts (hierarchy.layout first) [second] := by
    rw [combineLayouts]
    simp only [firstOpen, rootAbove, Bool.false_eq_true, if_false, if_true]
    split
    · rename_i isRoot
      rw [wellFormed.eq_root_of_mem (isSubclass_iff.mp isRoot)]
    · rfl
  rw [firstWins]
  simp only [combineLayouts, secondOpen, Bool.false_eq_true, if_false]
  rcases related with below | above
  · exact ⟨_, by rw [if_pos (isSubclass_iff.mpr below)]⟩
  · split
    · exact ⟨_, rfl⟩
    · exact ⟨_, by rw [if_pos (isSubclass_iff.mpr above)]⟩

/-- Unrelated classes with a common subclass have linearizations that can be
merged: the order of the subclass keeps both, with the two classes moved to the
front. -/
private theorem merge_pair (wellFormed : hierarchy.WellFormed) (firstKnown : hierarchy.Knows first)
    (secondKnown : hierarchy.Knows second) {order : List ClassId} (distinct : order.Nodup)
    (firstKept : (hierarchy.linearization first).Sublist order)
    (secondKept : (hierarchy.linearization second).Sublist order)
    (notBelow : second ∉ hierarchy.linearization first)
    (notAbove : first ∉ hierarchy.linearization second) :
    ∃ merged, Linearization.merge
      ([first, second].map hierarchy.linearization ++ [[first, second]]) = .ok merged := by
  obtain ⟨firstTail, firstShape⟩ := wellFormed.linearization_eq firstKnown
  obtain ⟨secondTail, secondShape⟩ := wellFormed.linearization_eq secondKnown
  have firstDistinct := wellFormed.nodup first
  have secondDistinct := wellFormed.nodup second
  rw [firstShape] at firstKept notBelow firstDistinct
  rw [secondShape] at secondKept notAbove secondDistinct
  let isOther : ClassId → Bool := fun cls => cls ≠ first ∧ cls ≠ second
  have tailKept : ∀ {tail : List ClassId}, tail.Sublist order → first ∉ tail → second ∉ tail →
      tail.Sublist (order.filter isOther) := by
    intro tail kept noFirst noSecond
    have untouched : tail.filter isOther = tail := by
      apply List.filter_eq_self.mpr
      intro cls inside
      simp only [isOther, decide_eq_true_eq]
      exact ⟨fun same => noFirst (same ▸ inside), fun same => noSecond (same ▸ inside)⟩
    exact untouched ▸ kept.filter isOther
  have firstTailKept := tailKept ((List.sublist_cons_self first firstTail).trans firstKept)
    (List.nodup_cons.mp firstDistinct).1 fun inside => notBelow (List.mem_cons_of_mem first inside)
  have secondTailKept := tailKept ((List.sublist_cons_self second secondTail).trans secondKept)
    (fun inside => notAbove (List.mem_cons_of_mem second inside))
    (List.nodup_cons.mp secondDistinct).1
  have orderDistinct : (first :: second :: order.filter isOther).Nodup := by
    have different : first ≠ second := fun same => notBelow (by simp [same])
    simp only [List.nodup_cons, List.mem_cons, List.mem_filter, isOther]
    exact ⟨by simp [different], by simp, distinct.filter _⟩
  apply Linearization.merge_succeeds orderDistinct
  simp only [List.map_cons, List.map_nil, firstShape, secondShape, List.cons_append,
    List.nil_append, List.mem_cons, List.not_mem_nil, or_false, forall_eq_or_imp, forall_eq]
  refine ⟨?_, ?_, ?_⟩
  · exact (firstTailKept.cons second).cons_cons first
  · exact (secondTailKept.cons_cons second).cons first
  · exact ((List.nil_sublist _).cons_cons second).cons_cons first

/-- **One attempt speaks for all.** If any later class is below two unrelated
classes, a class can be derived from the two now. -/
theorem canDerive_of_common_subclass (wellFormed : hierarchy.WellFormed)
    (laterWellFormed : later.WellFormed) (growth : hierarchy.Extends later)
    (firstKnown : hierarchy.Knows first) (secondKnown : hierarchy.Knows second)
    (belowFirst : first ∈ later.linearization cls)
    (belowSecond : second ∈ later.linearization cls)
    (notBelow : second ∉ hierarchy.linearization first)
    (notAbove : first ∉ hierarchy.linearization second) :
    hierarchy.canDerive [first, second] = true := by
  -- A sealed class has no proper subclass, so `cls` would be that class itself.
  have firstProper : first ≠ cls := by
    rintro rfl
    exact notBelow (by rwa [growth.linearization_eq firstKnown] at belowSecond)
  have secondProper : second ≠ cls := by
    rintro rfl
    exact notAbove (by rwa [growth.linearization_eq secondKnown] at belowFirst)
  have firstOpen := laterWellFormed.isSealed_eq_false belowFirst firstProper
  have secondOpen := laterWellFormed.isSealed_eq_false belowSecond secondProper
  have related := laterWellFormed.layout_chain belowFirst belowSecond
  have firstKept := laterWellFormed.sublist_of_mem belowFirst
  have secondKept := laterWellFormed.sublist_of_mem belowSecond
  rw [growth.isSealed_eq firstKnown] at firstOpen
  rw [growth.isSealed_eq secondKnown] at secondOpen
  rw [growth.layout_eq firstKnown, growth.layout_eq secondKnown,
    growth.linearization_eq (wellFormed.knows_of_mem (wellFormed.layout_mem firstKnown)),
    growth.linearization_eq (wellFormed.knows_of_mem (wellFormed.layout_mem secondKnown))]
    at related
  rw [growth.linearization_eq firstKnown] at firstKept
  rw [growth.linearization_eq secondKnown] at secondKept
  obtain ⟨layout, combined⟩ :=
    combineLayouts_pair wellFormed firstKnown firstOpen secondOpen related
  obtain ⟨ancestors, merged⟩ := merge_pair wellFormed firstKnown secondKnown
    (laterWellFormed.nodup cls) firstKept secondKept notBelow notAbove
  have noRepetition : repeatedBase? [first, second] = none := by
    have different : first ≠ second := by
      rintro rfl
      exact notBelow (wellFormed.self_mem firstKnown)
    simp [repeatedBase?, different]
  exact canDerive_iff.mpr ⟨layout, ancestors, inherit_eq_ok.mpr ⟨combined, noRepetition, merged⟩⟩

/-- A class that can be derived from others can be made, and is below them. -/
theorem exists_common_subclass (wellFormed : hierarchy.WellFormed)
    (firstKnown : hierarchy.Knows first) (secondKnown : hierarchy.Knows second)
    (derivable : hierarchy.canDerive [first, second] = true) :
    ∃ made cls, hierarchy.MayBecome made ∧
      first ∈ made.linearization cls ∧ second ∈ made.linearization cls := by
  obtain ⟨layout, ancestors, inherited⟩ := canDerive_iff.mp derivable
  obtain ⟨made, created⟩ := create_of_inherit (by simp) inherited
  have known : ∀ base ∈ [first, second], hierarchy.Knows base := by
    simp [firstKnown, secondKnown]
  have growth := create_extends created
  obtain ⟨madeWellFormed, -, bases⟩ := created_spec wellFormed known created
  have below : ∀ base ∈ [first, second], base ∈ made.linearization hierarchy.classes.size := by
    intro base isBase
    have isMadeBase : base ∈ made.bases hierarchy.classes.size := by
      rw [bases]
      exact isBase
    exact (madeWellFormed.sublist_of_base isMadeBase).2.2.subset
      (madeWellFormed.self_mem (growth.knows (known base isBase)))
  exact ⟨made, hierarchy.classes.size, .single (.made known created), below first (by simp),
    below second (by simp)⟩

/-- **Unrelated classes can have a common subclass** exactly if a class can be derived
from the two now. -/
theorem canDerive_iff_common_subclass (wellFormed : hierarchy.WellFormed)
    (firstKnown : hierarchy.Knows first) (secondKnown : hierarchy.Knows second)
    (notBelow : second ∉ hierarchy.linearization first)
    (notAbove : first ∉ hierarchy.linearization second) :
    hierarchy.canDerive [first, second] = true ↔
      ∃ later cls, hierarchy.MayBecome later ∧
        first ∈ later.linearization cls ∧ second ∈ later.linearization cls := by
  constructor
  · exact exists_common_subclass wellFormed firstKnown secondKnown
  · rintro ⟨later, cls, run, belowFirst, belowSecond⟩
    obtain ⟨laterWellFormed, growth⟩ := run.spec wellFormed
    exact canDerive_of_common_subclass wellFormed laterWellFormed growth firstKnown secondKnown
      belowFirst belowSecond notBelow notAbove

/-- The order in which two unrelated classes are tried does not matter. -/
theorem canDerive_swap (wellFormed : hierarchy.WellFormed)
    (firstKnown : hierarchy.Knows first) (secondKnown : hierarchy.Knows second)
    (notBelow : second ∉ hierarchy.linearization first)
    (notAbove : first ∉ hierarchy.linearization second) :
    hierarchy.canDerive [first, second] = hierarchy.canDerive [second, first] := by
  rw [Bool.eq_iff_iff,
    canDerive_iff_common_subclass wellFormed firstKnown secondKnown notBelow notAbove,
    canDerive_iff_common_subclass wellFormed secondKnown firstKnown notAbove notBelow]
  simp only [and_comm]

/-! ## Attempts after classes were made -/

private theorem Extends.combineLayouts_eq (growth : hierarchy.Extends later)
    (wellFormed : hierarchy.WellFormed) {bases : List ClassId}
    (known : ∀ base ∈ bases, hierarchy.Knows base) {winner : ClassId}
    (winnerKnown : hierarchy.Knows winner) :
    later.combineLayouts winner bases = hierarchy.combineLayouts winner bases := by
  induction bases generalizing winner with
  | nil => rfl
  | cons base rest inductionHypothesis =>
      have baseKnown := known base (by simp)
      have layoutKnown := wellFormed.knows_of_mem (wellFormed.layout_mem baseKnown)
      have restKnown : ∀ other ∈ rest, hierarchy.Knows other :=
        fun other inside => known other (by simp [inside])
      simp only [combineLayouts, growth.layout_eq baseKnown, growth.isSealed_eq baseKnown,
        growth.className_eq baseKnown, growth.isSubclass_eq winnerKnown,
        growth.isSubclass_eq layoutKnown, inductionHypothesis restKnown winnerKnown,
        inductionHypothesis restKnown layoutKnown]

/-- An attempt ends the same way after other classes were made. -/
theorem Extends.canDerive_eq (growth : hierarchy.Extends later) (wellFormed : hierarchy.WellFormed)
    {bases : List ClassId} (known : ∀ base ∈ bases, hierarchy.Knows base) :
    later.canDerive bases = hierarchy.canDerive bases := by
  have sameOrders : bases.map later.linearization = bases.map hierarchy.linearization :=
    List.map_congr_left fun base isBase => growth.linearization_eq (known base isBase)
  rw [Bool.eq_iff_iff, canDerive_iff, canDerive_iff]
  simp only [inherit_eq_ok, sameOrders, growth.combineLayouts_eq wellFormed known wellFormed.root]

end StaticDispatch.Hierarchy
