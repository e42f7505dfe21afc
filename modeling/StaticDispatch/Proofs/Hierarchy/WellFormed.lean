import Mathlib.Data.List.Basic
import StaticDispatch.Hierarchy.Basic
import StaticDispatch.Proofs.Hierarchy.Merge

/-!
Contract: hierarchies in which every class fits the classes made before it.

A class fits if its linearization starts with itself, has nothing twice and keeps
the linearizations of its bases, if no base is sealed, and if the layouts of its
ancestors form a chain with its own at the lower end. The built-in classes fit,
and so does every class that is made out of known bases.

Owns: the invariant of hierarchies, the order of subclasses that follows from it,
and what stays when classes are added.
Does not own: the types that stand for classes.
-/

namespace StaticDispatch.Hierarchy

/-- What holds of a class when it is made, and stays so. -/
structure Fits (hierarchy : Hierarchy) (id : ClassId) (found : HostClass) : Prop where
  starts : found.linearization.head? = some id
  distinct : found.linearization.Nodup
  older : ∀ base ∈ found.bases, base < id
  covered : ∀ ancestor ∈ found.linearization.tail,
    ∃ base ∈ found.bases, ancestor ∈ hierarchy.linearization base
  kept : ∀ base ∈ found.bases,
    (hierarchy.linearization base).Sublist found.linearization.tail
  rooted : objectClass ∈ found.linearization
  unsealed : ∀ base ∈ found.bases, hierarchy.isSealed base = false
  layoutAbove : found.layout ∈ found.linearization
  layoutSettled : hierarchy.layout found.layout = found.layout
  layoutBelow : ∀ ancestor ∈ found.linearization,
    hierarchy.layout ancestor ∈ hierarchy.linearization found.layout
  layoutChain : ∀ first ∈ found.linearization, ∀ second ∈ found.linearization,
    hierarchy.layout second ∈ hierarchy.linearization (hierarchy.layout first) ∨
      hierarchy.layout first ∈ hierarchy.linearization (hierarchy.layout second)

instance (hierarchy : Hierarchy) (id : ClassId) (found : HostClass) :
    Decidable (Fits hierarchy id found) :=
  decidable_of_iff
    (((found.linearization.head? = some id ∧ found.linearization.Nodup ∧
      ∀ base ∈ found.bases, base < id) ∧
      (∀ ancestor ∈ found.linearization.tail,
        ∃ base ∈ found.bases, ancestor ∈ hierarchy.linearization base) ∧
      (∀ base ∈ found.bases,
        (hierarchy.linearization base).Sublist found.linearization.tail)) ∧
      (objectClass ∈ found.linearization ∧
        ∀ base ∈ found.bases, hierarchy.isSealed base = false) ∧
      (found.layout ∈ found.linearization ∧ hierarchy.layout found.layout = found.layout ∧
        (∀ ancestor ∈ found.linearization,
          hierarchy.layout ancestor ∈ hierarchy.linearization found.layout) ∧
        ∀ first ∈ found.linearization, ∀ second ∈ found.linearization,
          hierarchy.layout second ∈ hierarchy.linearization (hierarchy.layout first) ∨
            hierarchy.layout first ∈ hierarchy.linearization (hierarchy.layout second)))
    ⟨fun ⟨⟨⟨starts, distinct, older⟩, covered, kept⟩, ⟨rooted, unsealed⟩, above, settled,
        below, chain⟩ =>
      ⟨starts, distinct, older, covered, kept, rooted, unsealed, above, settled, below, chain⟩,
    fun fits =>
      ⟨⟨⟨fits.starts, fits.distinct, fits.older⟩, fits.covered, fits.kept⟩,
        ⟨fits.rooted, fits.unsealed⟩, fits.layoutAbove, fits.layoutSettled, fits.layoutBelow,
        fits.layoutChain⟩⟩

def Knows (hierarchy : Hierarchy) (id : ClassId) : Prop :=
  id < hierarchy.classes.size

instance (hierarchy : Hierarchy) (id : ClassId) : Decidable (hierarchy.Knows id) :=
  inferInstanceAs (Decidable (id < hierarchy.classes.size))

structure WellFormed (hierarchy : Hierarchy) : Prop where
  root : hierarchy.Knows objectClass
  fits : ∀ id found, hierarchy.find? id = some found → hierarchy.Fits id found

theorem find?_of_knows {hierarchy : Hierarchy} {id : ClassId} (known : hierarchy.Knows id) :
    ∃ found, hierarchy.find? id = some found := by
  have bound : id < hierarchy.classes.size := known
  exact ⟨hierarchy.classes[id], Array.getElem?_eq_getElem bound⟩

theorem knows_of_find? {hierarchy : Hierarchy} {id : ClassId} {found : HostClass}
    (present : hierarchy.find? id = some found) : hierarchy.Knows id :=
  (Array.getElem?_eq_some_iff.mp present).1

theorem linearization_of_find? {hierarchy : Hierarchy} {id : ClassId} {found : HostClass}
    (present : hierarchy.find? id = some found) :
    hierarchy.linearization id = found.linearization := by
  simp [linearization, present]

theorem layout_of_find? {hierarchy : Hierarchy} {id : ClassId} {found : HostClass}
    (present : hierarchy.find? id = some found) : hierarchy.layout id = found.layout := by
  simp [layout, present]

theorem bases_of_find? {hierarchy : Hierarchy} {id : ClassId} {found : HostClass}
    (present : hierarchy.find? id = some found) : hierarchy.bases id = found.bases := by
  simp [bases, present]

/-- A class that has ancestors at all is known. -/
theorem find?_of_mem {hierarchy : Hierarchy} {id ancestor : ClassId}
    (above : ancestor ∈ hierarchy.linearization id) :
    ∃ found, hierarchy.find? id = some found ∧ ancestor ∈ found.linearization := by
  cases present : hierarchy.find? id with
  | none => simp [linearization, present] at above
  | some found => exact ⟨found, rfl, linearization_of_find? present ▸ above⟩

theorem isSubclass_iff {hierarchy : Hierarchy} {lower upper : ClassId} :
    hierarchy.isSubclass lower upper = true ↔ upper ∈ hierarchy.linearization lower := by
  simp [isSubclass]

theorem builtin_wellFormed : builtin.WellFormed := by
  refine ⟨by decide, fun id found present => ?_⟩
  have checked : ∀ id : Fin builtin.classes.size, builtin.Fits id (builtin.classes[id]) := by
    decide +kernel
  obtain ⟨known, rfl⟩ := Array.getElem?_eq_some_iff.mp present
  exact checked ⟨id, known⟩

/-! ## The order of subclasses -/

namespace WellFormed

variable {hierarchy : Hierarchy} {id ancestor : ClassId}

theorem linearization_eq (wellFormed : hierarchy.WellFormed) (known : hierarchy.Knows id) :
    ∃ tail, hierarchy.linearization id = id :: tail := by
  obtain ⟨found, present⟩ := find?_of_knows known
  obtain ⟨tail, shape⟩ := List.head?_eq_some_iff.mp (wellFormed.fits id found present).starts
  exact ⟨tail, (linearization_of_find? present).trans shape⟩

theorem self_mem (wellFormed : hierarchy.WellFormed) (known : hierarchy.Knows id) :
    id ∈ hierarchy.linearization id := by
  obtain ⟨tail, shape⟩ := wellFormed.linearization_eq known
  simp [shape]

theorem nodup (wellFormed : hierarchy.WellFormed) (id : ClassId) :
    (hierarchy.linearization id).Nodup := by
  cases present : hierarchy.find? id with
  | none => simp [linearization, present]
  | some found =>
      rw [linearization_of_find? present]
      exact (wellFormed.fits id found present).distinct

/-- An ancestor other than the class itself is an ancestor of a base. -/
theorem mem_cases (wellFormed : hierarchy.WellFormed)
    (above : ancestor ∈ hierarchy.linearization id) :
    ancestor = id ∨ ∃ base ∈ hierarchy.bases id, ancestor ∈ hierarchy.linearization base := by
  obtain ⟨found, present, inside⟩ := find?_of_mem above
  have fits := wellFormed.fits id found present
  obtain ⟨tail, shape⟩ := List.head?_eq_some_iff.mp fits.starts
  rw [shape] at inside
  rcases List.mem_cons.mp inside with isSelf | inTail
  · exact Or.inl isSelf
  · rw [bases_of_find? present]
    exact Or.inr (fits.covered ancestor (by rwa [shape]))

theorem sublist_of_base (wellFormed : hierarchy.WellFormed) {base : ClassId}
    (isBase : base ∈ hierarchy.bases id) :
    base < id ∧ hierarchy.Knows base ∧
      (hierarchy.linearization base).Sublist (hierarchy.linearization id) := by
  cases present : hierarchy.find? id with
  | none => simp [bases, present] at isBase
  | some found =>
      rw [bases_of_find? present] at isBase
      have fits := wellFormed.fits id found present
      have older := fits.older base isBase
      refine ⟨older, Nat.lt_trans older (knows_of_find? present), ?_⟩
      rw [linearization_of_find? present]
      exact (fits.kept base isBase).trans (List.tail_sublist _)

private theorem le_of_mem (wellFormed : hierarchy.WellFormed)
    (above : ancestor ∈ hierarchy.linearization id) : ancestor ≤ id := by
  induction id using Nat.strongRecOn with
  | ind id inductionHypothesis =>
      rcases wellFormed.mem_cases above with isSelf | ⟨base, isBase, aboveBase⟩
      · exact Nat.le_of_eq isSelf
      · have older := (wellFormed.sublist_of_base isBase).1
        exact Nat.le_of_lt (Nat.lt_of_le_of_lt (inductionHypothesis base older aboveBase) older)

theorem knows_of_mem (wellFormed : hierarchy.WellFormed)
    (above : ancestor ∈ hierarchy.linearization id) : hierarchy.Knows ancestor := by
  obtain ⟨found, present, -⟩ := find?_of_mem above
  exact Nat.lt_of_le_of_lt (wellFormed.le_of_mem above) (knows_of_find? present)

/-- The linearization of an ancestor is kept in its order. -/
theorem sublist_of_mem (wellFormed : hierarchy.WellFormed)
    (above : ancestor ∈ hierarchy.linearization id) :
    (hierarchy.linearization ancestor).Sublist (hierarchy.linearization id) := by
  induction id using Nat.strongRecOn with
  | ind id inductionHypothesis =>
      rcases wellFormed.mem_cases above with isSelf | ⟨base, isBase, aboveBase⟩
      · rw [isSelf]
      · obtain ⟨older, -, kept⟩ := wellFormed.sublist_of_base isBase
        exact (inductionHypothesis base older aboveBase).trans kept

theorem mem_trans (wellFormed : hierarchy.WellFormed) {lower middle upper : ClassId}
    (first : middle ∈ hierarchy.linearization lower)
    (second : upper ∈ hierarchy.linearization middle) :
    upper ∈ hierarchy.linearization lower :=
  (wellFormed.sublist_of_mem first).subset second

theorem mem_antisymm (wellFormed : hierarchy.WellFormed) {first second : ClassId}
    (above : second ∈ hierarchy.linearization first)
    (below : first ∈ hierarchy.linearization second) : first = second :=
  Nat.le_antisymm (wellFormed.le_of_mem below) (wellFormed.le_of_mem above)

theorem root_mem (wellFormed : hierarchy.WellFormed) (known : hierarchy.Knows id) :
    objectClass ∈ hierarchy.linearization id := by
  obtain ⟨found, present⟩ := find?_of_knows known
  rw [linearization_of_find? present]
  exact (wellFormed.fits id found present).rooted

/-- In the linearization of any class below both, a proper subclass stands before
the class it is below. -/
theorem idxOf_lt (wellFormed : hierarchy.WellFormed) {lower upper : ClassId}
    (inside : lower ∈ hierarchy.linearization id)
    (below : upper ∈ hierarchy.linearization lower) (proper : upper ≠ lower) :
    (hierarchy.linearization id).idxOf lower < (hierarchy.linearization id).idxOf upper := by
  obtain ⟨tail, shape⟩ := wellFormed.linearization_eq (wellFormed.knows_of_mem inside)
  have kept := wellFormed.sublist_of_mem inside
  rw [shape] at kept below
  have upperInTail : upper ∈ tail := (List.mem_cons.mp below).resolve_left proper
  obtain ⟨before, after, split, lowerBefore, tailKept⟩ := List.cons_sublist_iff.mp kept
  have distinct := wellFormed.nodup id
  rw [split] at distinct ⊢
  have upperNotBefore : upper ∉ before := fun upperBefore =>
    (List.nodup_append.mp distinct).2.2 upper upperBefore upper (tailKept.subset upperInTail) rfl
  rw [List.idxOf_append_of_mem lowerBefore, List.idxOf_append_of_notMem upperNotBefore]
  exact Nat.lt_of_lt_of_le (List.idxOf_lt_length_of_mem lowerBefore) (Nat.le_add_right _ _)

/-- Only a class without subclasses can be sealed. -/
theorem isSealed_eq_false (wellFormed : hierarchy.WellFormed)
    (above : ancestor ∈ hierarchy.linearization id) (proper : ancestor ≠ id) :
    hierarchy.isSealed ancestor = false := by
  induction id using Nat.strongRecOn with
  | ind id inductionHypothesis =>
      rcases wellFormed.mem_cases above with isSelf | ⟨base, isBase, aboveBase⟩
      · exact absurd isSelf proper
      · have older := (wellFormed.sublist_of_base isBase).1
        by_cases isTheBase : ancestor = base
        · obtain ⟨found, present, -⟩ := find?_of_mem above
          rw [bases_of_find? present] at isBase
          rw [isTheBase]
          exact (wellFormed.fits id found present).unsealed base isBase
        · exact inductionHypothesis base older aboveBase isTheBase

/-! ## Layouts -/

theorem layout_mem (wellFormed : hierarchy.WellFormed) (known : hierarchy.Knows id) :
    hierarchy.layout id ∈ hierarchy.linearization id := by
  obtain ⟨found, present⟩ := find?_of_knows known
  rw [layout_of_find? present, linearization_of_find? present]
  exact (wellFormed.fits id found present).layoutAbove

theorem layout_settled (wellFormed : hierarchy.WellFormed) (known : hierarchy.Knows id) :
    hierarchy.layout (hierarchy.layout id) = hierarchy.layout id := by
  obtain ⟨found, present⟩ := find?_of_knows known
  rw [layout_of_find? present]
  exact (wellFormed.fits id found present).layoutSettled

theorem layout_below (wellFormed : hierarchy.WellFormed)
    (above : ancestor ∈ hierarchy.linearization id) :
    hierarchy.layout ancestor ∈ hierarchy.linearization (hierarchy.layout id) := by
  obtain ⟨found, present, inside⟩ := find?_of_mem above
  rw [layout_of_find? present]
  exact (wellFormed.fits id found present).layoutBelow ancestor inside

/-- The layouts of two ancestors of one class are never unrelated. -/
theorem layout_chain (wellFormed : hierarchy.WellFormed) {first second : ClassId}
    (firstAbove : first ∈ hierarchy.linearization id)
    (secondAbove : second ∈ hierarchy.linearization id) :
    hierarchy.layout second ∈ hierarchy.linearization (hierarchy.layout first) ∨
      hierarchy.layout first ∈ hierarchy.linearization (hierarchy.layout second) := by
  obtain ⟨found, present, firstInside⟩ := find?_of_mem firstAbove
  rw [linearization_of_find? present] at secondAbove
  exact (wellFormed.fits id found present).layoutChain first firstInside second secondAbove

theorem eq_root_of_mem (wellFormed : hierarchy.WellFormed)
    (above : ancestor ∈ hierarchy.linearization objectClass) : ancestor = objectClass :=
  Nat.le_zero.mp (wellFormed.le_of_mem above)

end WellFormed

end StaticDispatch.Hierarchy
