import StaticDispatch.Proofs.Hierarchy.WellFormed

/-!
Contract: making classes keeps a hierarchy well formed.

A class that is made leaves every other class as it was. What it inherits are the
ancestors of its bases in an order that keeps theirs, and the lowest of their
layouts.

Owns: growth of hierarchies, and the class that `create` adds.
Does not own: which classes can be made.
-/

namespace StaticDispatch.Hierarchy

/-- The second hierarchy has every class of the first under its number. -/
def Extends (first second : Hierarchy) : Prop :=
  ∀ id found, first.find? id = some found → second.find? id = some found

namespace Extends

variable {first second third : Hierarchy} {id : ClassId}

theorem refl (hierarchy : Hierarchy) : hierarchy.Extends hierarchy :=
  fun _ _ present => present

theorem trans (before : first.Extends second) (after : second.Extends third) :
    first.Extends third :=
  fun id found present => after id found (before id found present)

private theorem find?_eq (growth : first.Extends second) (known : first.Knows id) :
    second.find? id = first.find? id := by
  obtain ⟨found, present⟩ := find?_of_knows known
  rw [present, growth id found present]

theorem knows (growth : first.Extends second) (known : first.Knows id) :
    second.Knows id := by
  obtain ⟨found, present⟩ := find?_of_knows known
  exact knows_of_find? (growth id found present)

theorem linearization_eq (growth : first.Extends second) (known : first.Knows id) :
    second.linearization id = first.linearization id := by
  simp only [linearization, growth.find?_eq known]

theorem layout_eq (growth : first.Extends second) (known : first.Knows id) :
    second.layout id = first.layout id := by
  simp only [layout, growth.find?_eq known]

theorem isSealed_eq (growth : first.Extends second) (known : first.Knows id) :
    second.isSealed id = first.isSealed id := by
  simp only [Hierarchy.isSealed, growth.find?_eq known]

theorem className_eq (growth : first.Extends second) (known : first.Knows id) :
    second.className id = first.className id := by
  simp only [className, growth.find?_eq known]

theorem fullName_eq (growth : first.Extends second) (known : first.Knows id) :
    second.fullName id = first.fullName id := by
  simp only [fullName, growth.find?_eq known]

theorem bases_eq (growth : first.Extends second) (known : first.Knows id) :
    second.bases id = first.bases id := by
  simp only [bases, growth.find?_eq known]

theorem isSubclass_eq (growth : first.Extends second) (known : first.Knows id)
    (upper : ClassId) : second.isSubclass id upper = first.isSubclass id upper := by
  simp only [isSubclass, growth.linearization_eq known]

/-- A class goes on fitting, because it only looks at classes that were there. -/
theorem fits (growth : first.Extends second) (wellFormed : first.WellFormed)
    {found : HostClass} (present : first.find? id = some found) : second.Fits id found := by
  have fitted := wellFormed.fits id found present
  have known := knows_of_find? present
  have shape := linearization_of_find? present
  have knownBase : ∀ base ∈ found.bases, first.Knows base := fun base isBase =>
    Nat.lt_trans (fitted.older base isBase) known
  have knownAncestor : ∀ ancestor ∈ found.linearization, first.Knows ancestor :=
    fun ancestor inside => wellFormed.knows_of_mem (shape ▸ inside)
  have knownLayout : ∀ ancestor ∈ found.linearization, first.Knows (first.layout ancestor) := by
    intro ancestor inside
    exact wellFormed.knows_of_mem (fitted.layoutBelow ancestor inside)
  have ownLayout := knownAncestor found.layout fitted.layoutAbove
  refine ⟨fitted.starts, fitted.distinct, fitted.older, ?_, ?_, fitted.rooted, ?_,
    fitted.layoutAbove, ?_, ?_, ?_⟩
  · intro ancestor inTail
    obtain ⟨base, isBase, above⟩ := fitted.covered ancestor inTail
    exact ⟨base, isBase, by rwa [growth.linearization_eq (knownBase base isBase)]⟩
  · intro base isBase
    rw [growth.linearization_eq (knownBase base isBase)]
    exact fitted.kept base isBase
  · intro base isBase
    rw [growth.isSealed_eq (knownBase base isBase)]
    exact fitted.unsealed base isBase
  · rw [growth.layout_eq ownLayout]
    exact fitted.layoutSettled
  · intro ancestor inside
    rw [growth.layout_eq (knownAncestor ancestor inside), growth.linearization_eq ownLayout]
    exact fitted.layoutBelow ancestor inside
  · intro one oneInside other otherInside
    rw [growth.layout_eq (knownAncestor one oneInside),
      growth.layout_eq (knownAncestor other otherInside),
      growth.linearization_eq (knownLayout one oneInside),
      growth.linearization_eq (knownLayout other otherInside)]
    exact fitted.layoutChain one oneInside other otherInside

end Extends

/-! ## The layout of the bases -/

/-- The winning layout is the lowest, and no base is sealed. -/
theorem combineLayouts_spec {hierarchy : Hierarchy} (wellFormed : hierarchy.WellFormed)
    {bases : List ClassId} (known : ∀ base ∈ bases, hierarchy.Knows base)
    {start winner : ClassId} (startKnown : hierarchy.Knows start)
    (combined : hierarchy.combineLayouts start bases = .ok winner) :
    (∀ base ∈ bases, hierarchy.isSealed base = false) ∧
      start ∈ hierarchy.linearization winner ∧
      (∀ base ∈ bases, hierarchy.layout base ∈ hierarchy.linearization winner) ∧
      (winner = start ∨ ∃ base ∈ bases, winner = hierarchy.layout base) := by
  induction bases generalizing start with
  | nil =>
      cases Except.ok.inj combined
      exact ⟨by simp, wellFormed.self_mem startKnown, by simp, Or.inl rfl⟩
  | cons base rest inductionHypothesis =>
      have restKnown : ∀ other ∈ rest, hierarchy.Knows other :=
        fun other member => known other (List.mem_cons_of_mem base member)
      have layoutKnown : hierarchy.Knows (hierarchy.layout base) :=
        wellFormed.knows_of_mem (wellFormed.layout_mem (known base (by simp)))
      simp only [combineLayouts] at combined
      split at combined
      · cases combined
      · rename_i baseOpen
        have baseUnsealed : hierarchy.isSealed base = false := by simpa using baseOpen
        split at combined
        · rename_i lower
          obtain ⟨unsealed, above, layouts, origin⟩ :=
            inductionHypothesis restKnown startKnown combined
          refine ⟨?_, above, ?_, ?_⟩
          · simpa [baseUnsealed] using unsealed
          · simp only [List.mem_cons, forall_eq_or_imp]
            exact ⟨wellFormed.mem_trans above (isSubclass_iff.mp lower), layouts⟩
          · exact origin.imp id fun ⟨other, member, same⟩ =>
              ⟨other, List.mem_cons_of_mem base member, same⟩
        · split at combined
          · rename_i lower
            obtain ⟨unsealed, above, layouts, origin⟩ :=
              inductionHypothesis restKnown layoutKnown combined
            refine ⟨?_, wellFormed.mem_trans above (isSubclass_iff.mp lower), ?_, Or.inr ?_⟩
            · simpa [baseUnsealed] using unsealed
            · simp only [List.mem_cons, forall_eq_or_imp]
              exact ⟨above, layouts⟩
            · rcases origin with isLayout | ⟨other, member, same⟩
              · exact ⟨base, by simp, isLayout⟩
              · exact ⟨other, List.mem_cons_of_mem base member, same⟩
          · cases combined

/-! ## The class that is made -/

theorem inherit_eq_ok {hierarchy : Hierarchy} {bases ancestors : List ClassId}
    {layout : ClassId} :
    hierarchy.inherit bases = .ok (layout, ancestors) ↔
      hierarchy.combineLayouts objectClass bases = .ok layout ∧ repeatedBase? bases = none ∧
        Linearization.merge (bases.map hierarchy.linearization ++ [bases]) = .ok ancestors := by
  rw [inherit, Traversal.bind_eq_ok]
  cases repetition : repeatedBase? bases with
  | some base => simp
  | none =>
      simp only [ancestorsOf]
      cases merged : Linearization.merge (bases.map hierarchy.linearization ++ [bases]) with
      | error heads => simp [bind, Except.bind]
      | ok found => simp [bind, Except.bind, pure, Except.pure]

def basesOrRoot (bases : List ClassId) : List ClassId :=
  if bases = [] then [objectClass] else bases

/-- What `create` adds. -/
theorem create_eq_ok {hierarchy made : Hierarchy} {name home : String} {bases : List ClassId}
    {id : ClassId} (created : hierarchy.create name home bases = .ok (id, made)) :
    ∃ layout ancestors, hierarchy.inherit (basesOrRoot bases) = .ok (layout, ancestors) ∧
      id = hierarchy.classes.size ∧
      made.classes = hierarchy.classes.push
        { name, home, bases := basesOrRoot bases, linearization := id :: ancestors
          layout := if variesInSize layout then id else layout } := by
  simp only [create] at created
  split at created
  · obtain ⟨_, -, refused⟩ := Traversal.bind_eq_ok.mp created
    cases refused
  · obtain ⟨⟨layout, ancestors⟩, inherited, built⟩ := Traversal.bind_eq_ok.mp created
    cases Except.ok.inj built
    exact ⟨layout, ancestors, inherited, rfl, rfl⟩

theorem create_of_inherit {hierarchy : Hierarchy} {bases ancestors : List ClassId}
    {layout : ClassId} (nonempty : bases ≠ [])
    (inherited : hierarchy.inherit bases = .ok (layout, ancestors)) :
    ∃ made, hierarchy.create "" "" bases = .ok (hierarchy.classes.size, made) := by
  have unnamed : (("" : String).toList.contains '\x00') = false := by decide
  simp only [create, if_neg nonempty, unnamed, inherited]
  exact ⟨_, rfl⟩

/-- The ancestors that a class inherits are those of its bases. -/
private theorem mem_inherited {hierarchy : Hierarchy} (wellFormed : hierarchy.WellFormed)
    {bases ancestors : List ClassId} (known : ∀ base ∈ bases, hierarchy.Knows base)
    (merged : Linearization.merge (bases.map hierarchy.linearization ++ [bases]) = .ok ancestors)
    {ancestor : ClassId} :
    ancestor ∈ ancestors ↔ ∃ base ∈ bases, ancestor ∈ hierarchy.linearization base := by
  have merges := Linearization.Merges.of_merge merged
  constructor
  · intro inside
    obtain ⟨list, listed, inList⟩ := merges.exists_mem inside
    rcases List.mem_append.mp listed with ofBase | isBases
    · obtain ⟨base, isBase, rfl⟩ := List.mem_map.mp ofBase
      exact ⟨base, isBase, inList⟩
    · rw [List.mem_singleton.mp isBases] at inList
      exact ⟨ancestor, inList, wellFormed.self_mem (known ancestor inList)⟩
  · rintro ⟨base, isBase, above⟩
    have kept := merges.sublist (hierarchy.linearization base)
      (List.mem_append_left _ (List.mem_map_of_mem isBase))
    exact kept.subset above

/-- The winning layout is its own layout, and an ancestor of one of the bases. -/
private theorem winner_spec {hierarchy : Hierarchy} (wellFormed : hierarchy.WellFormed)
    {bases : List ClassId} (known : ∀ base ∈ bases, hierarchy.Knows base) (nonempty : bases ≠ [])
    {winner : ClassId} (combined : hierarchy.combineLayouts objectClass bases = .ok winner) :
    hierarchy.layout winner = winner ∧ ∃ base ∈ bases, winner ∈ hierarchy.linearization base := by
  obtain ⟨-, -, -, isRoot | ⟨base, isBase, isLayout⟩⟩ :=
    combineLayouts_spec wellFormed known wellFormed.root combined
  · obtain ⟨base, isBase⟩ := List.exists_mem_of_ne_nil bases nonempty
    subst isRoot
    exact ⟨wellFormed.eq_root_of_mem (wellFormed.layout_mem wellFormed.root),
      base, isBase, wellFormed.root_mem (known base isBase)⟩
  · subst isLayout
    exact ⟨wellFormed.layout_settled (known base isBase), base, isBase,
      wellFormed.layout_mem (known base isBase)⟩

/-- What a class gets from its bases, before it is made. -/
structure Inheritance (hierarchy : Hierarchy) (bases ancestors : List ClassId)
    (winner : ClassId) : Prop where
  known : ∀ base ∈ bases, hierarchy.Knows base
  nonempty : bases ≠ []
  unsealed : ∀ base ∈ bases, hierarchy.isSealed base = false
  distinct : ancestors.Nodup
  kept : ∀ base ∈ bases, (hierarchy.linearization base).Sublist ancestors
  covered : ∀ ancestor ∈ ancestors, ∃ base ∈ bases, ancestor ∈ hierarchy.linearization base
  winnerInherited : winner ∈ ancestors
  winnerSettled : hierarchy.layout winner = winner
  lowest : ∀ ancestor ∈ ancestors, hierarchy.layout ancestor ∈ hierarchy.linearization winner

private theorem Inheritance.of_inherit {hierarchy : Hierarchy} {bases ancestors : List ClassId}
    {winner : ClassId} (wellFormed : hierarchy.WellFormed)
    (known : ∀ base ∈ bases, hierarchy.Knows base) (nonempty : bases ≠ [])
    (inherited : hierarchy.inherit bases = .ok (winner, ancestors)) :
    Inheritance hierarchy bases ancestors winner := by
  obtain ⟨combined, -, merged⟩ := inherit_eq_ok.mp inherited
  obtain ⟨unsealed, -, lowest, -⟩ := combineLayouts_spec wellFormed known wellFormed.root combined
  obtain ⟨winnerSettled, winnerFrom⟩ := winner_spec wellFormed known nonempty combined
  have merges := Linearization.Merges.of_merge merged
  have mem_ancestors : ∀ {ancestor : ClassId}, ancestor ∈ ancestors ↔
      ∃ base ∈ bases, ancestor ∈ hierarchy.linearization base :=
    mem_inherited wellFormed known merged
  refine ⟨known, nonempty, unsealed, merges.nodup, ?_,
    fun _ => mem_ancestors.mp, mem_ancestors.mpr winnerFrom, winnerSettled, ?_⟩
  · intro base isBase
    exact merges.sublist _ (List.mem_append_left _ (List.mem_map_of_mem isBase))
  · intro ancestor inside
    obtain ⟨base, isBase, above⟩ := mem_ancestors.mp inside
    exact wellFormed.mem_trans (lowest base isBase) (wellFormed.layout_below above)

section Created

variable {hierarchy made : Hierarchy} {name home : String} {bases ancestors : List ClassId}
  {id winner : ClassId}

private theorem Inheritance.ancestor_known (wellFormed : hierarchy.WellFormed)
    (inheritance : Inheritance hierarchy bases ancestors winner) :
    ∀ ancestor ∈ ancestors, hierarchy.Knows ancestor := by
  intro ancestor inside
  obtain ⟨base, -, above⟩ := inheritance.covered ancestor inside
  exact wellFormed.knows_of_mem above

/-- The layout of a class whose bases have the given winning layout. -/
def ownLayout (id winner : ClassId) : ClassId :=
  if variesInSize winner then id else winner

section Layout

variable (wellFormed : hierarchy.WellFormed)
  (inheritance : Inheritance hierarchy bases ancestors winner)
  (growth : hierarchy.Extends made) (shape : made.linearization id = id :: ancestors)
  (layoutIs : made.layout id = ownLayout id winner)

include wellFormed inheritance growth shape layoutIs

/-- The layout of a class that is made is at or below those of all its ancestors. -/
theorem layoutBelow_created :
    ∀ ancestor ∈ id :: ancestors,
      made.layout ancestor ∈ made.linearization (ownLayout id winner) := by
  have winnerKnown := inheritance.ancestor_known wellFormed winner inheritance.winnerInherited
  have aboveWinner : ∀ ancestor ∈ hierarchy.linearization winner,
      ancestor ∈ made.linearization (ownLayout id winner) := by
    intro ancestor above
    obtain ⟨base, isBase, winnerAbove⟩ :=
      inheritance.covered winner inheritance.winnerInherited
    unfold ownLayout
    split
    · rw [shape]
      exact List.mem_cons_of_mem id
        ((inheritance.kept base isBase).subset (wellFormed.mem_trans winnerAbove above))
    · rwa [growth.linearization_eq winnerKnown]
  intro ancestor inside
  rcases List.mem_cons.mp inside with rfl | inherited
  · rw [layoutIs]
    unfold ownLayout
    split
    · simp [shape]
    · rw [growth.linearization_eq winnerKnown]
      exact wellFormed.self_mem winnerKnown
  · rw [growth.layout_eq (inheritance.ancestor_known wellFormed ancestor inherited)]
    exact aboveWinner _ (inheritance.lowest ancestor inherited)

/-- Of the layouts of two ancestors one is at or below the other. -/
private theorem layoutChain_created :
    ∀ first ∈ id :: ancestors, ∀ second ∈ id :: ancestors,
      made.layout second ∈ made.linearization (made.layout first) ∨
        made.layout first ∈ made.linearization (made.layout second) := by
  have below := layoutBelow_created wellFormed inheritance growth shape layoutIs
  intro first firstInside second secondInside
  rcases List.mem_cons.mp firstInside with firstSelf | firstInherited
  · rw [firstSelf, layoutIs]
    exact Or.inl (below second secondInside)
  · rcases List.mem_cons.mp secondInside with secondSelf | secondInherited
    · rw [secondSelf, layoutIs]
      exact Or.inr (below first firstInside)
    · have firstKnown := inheritance.ancestor_known wellFormed first firstInherited
      have secondKnown := inheritance.ancestor_known wellFormed second secondInherited
      have firstLowest := inheritance.lowest first firstInherited
      have secondLowest := inheritance.lowest second secondInherited
      have chain := wellFormed.layout_chain firstLowest secondLowest
      rw [wellFormed.layout_settled firstKnown, wellFormed.layout_settled secondKnown] at chain
      rw [growth.layout_eq firstKnown, growth.layout_eq secondKnown,
        growth.linearization_eq (wellFormed.knows_of_mem firstLowest),
        growth.linearization_eq (wellFormed.knows_of_mem secondLowest)]
      exact chain

end Layout

/-- A class that is made out of known bases fits the hierarchy it is added to. -/
private theorem fits_created (wellFormed : hierarchy.WellFormed)
    (inheritance : Inheritance hierarchy bases ancestors winner)
    (growth : hierarchy.Extends made) (newest : ∀ old, hierarchy.Knows old → old < id)
    (present : made.find? id = some
      { name, home, bases, linearization := id :: ancestors, layout := ownLayout id winner }) :
    made.Fits id
      { name, home, bases, linearization := id :: ancestors, layout := ownLayout id winner } := by
  have known := inheritance.known
  have ancestorKnown := inheritance.ancestor_known wellFormed
  have shape : made.linearization id = id :: ancestors := linearization_of_find? present
  have layoutIs : made.layout id = ownLayout id winner := layout_of_find? present
  constructor
  case starts => rfl
  case distinct =>
    refine List.nodup_cons.mpr ⟨fun inside => ?_, inheritance.distinct⟩
    exact Nat.lt_irrefl id (newest id (ancestorKnown id inside))
  case older => exact fun base isBase => newest base (known base isBase)
  case covered =>
    intro ancestor inside
    obtain ⟨base, isBase, above⟩ := inheritance.covered ancestor inside
    exact ⟨base, isBase, by rwa [growth.linearization_eq (known base isBase)]⟩
  case kept =>
    intro base isBase
    rw [growth.linearization_eq (known base isBase)]
    exact inheritance.kept base isBase
  case rooted =>
    obtain ⟨base, isBase⟩ := List.exists_mem_of_ne_nil bases inheritance.nonempty
    exact List.mem_cons_of_mem id
      ((inheritance.kept base isBase).subset (wellFormed.root_mem (known base isBase)))
  case unsealed =>
    intro base isBase
    rw [growth.isSealed_eq (known base isBase)]
    exact inheritance.unsealed base isBase
  case layoutAbove =>
    simp only [ownLayout]
    split
    · exact List.mem_cons_self
    · exact List.mem_cons_of_mem id inheritance.winnerInherited
  case layoutSettled =>
    simp only [ownLayout]
    split
    · rename_i varies
      rw [layoutIs, ownLayout, if_pos varies]
    · rw [growth.layout_eq (ancestorKnown winner inheritance.winnerInherited),
        inheritance.winnerSettled]
  case layoutBelow => exact layoutBelow_created wellFormed inheritance growth shape layoutIs
  case layoutChain => exact layoutChain_created wellFormed inheritance growth shape layoutIs

theorem create_extends (created : hierarchy.create name home bases = .ok (id, made)) :
    hierarchy.Extends made := by
  obtain ⟨layout, ancestors, -, -, classes⟩ := create_eq_ok created
  intro other found present
  have known := knows_of_find? present
  rw [find?, classes, Array.getElem?_push_lt known]
  rw [find?, Array.getElem?_eq_getElem known] at present
  exact present

theorem knows_created (created : hierarchy.create name home bases = .ok (id, made))
    {other : ClassId} : made.Knows other ↔ hierarchy.Knows other ∨ other = id := by
  obtain ⟨layout, ancestors, -, number, classes⟩ := create_eq_ok created
  rw [Knows, Knows, classes, Array.size_push, number]
  exact Nat.lt_succ_iff_lt_or_eq

/-- The class that is made is new, has the bases it was given, and fits. -/
theorem created_spec (wellFormed : hierarchy.WellFormed)
    (known : ∀ base ∈ bases, hierarchy.Knows base)
    (created : hierarchy.create name home bases = .ok (id, made)) :
    made.WellFormed ∧ ¬ hierarchy.Knows id ∧ made.bases id = basesOrRoot bases := by
  obtain ⟨winner, ancestors, inherited, number, classes⟩ := create_eq_ok created
  have growth := create_extends created
  have isNew : ¬ hierarchy.Knows id := by
    rw [Knows, number]
    exact Nat.lt_irrefl _
  have present : made.find? id = some
      { name, home, bases := basesOrRoot bases, linearization := id :: ancestors
        layout := ownLayout id winner } := by
    rw [find?, classes, number, Array.getElem?_push_size]
    rfl
  have aboveKnown : ∀ base ∈ basesOrRoot bases, hierarchy.Knows base := by
    intro base isBase
    unfold basesOrRoot at isBase
    split at isBase
    · rw [List.mem_singleton.mp isBase]
      exact wellFormed.root
    · exact known base isBase
  have nonempty : basesOrRoot bases ≠ [] := by
    unfold basesOrRoot
    split
    · simp
    · assumption
  have newest : ∀ old, hierarchy.Knows old → old < id := by
    intro old oldKnown
    rw [number]
    exact oldKnown
  refine ⟨⟨growth.knows wellFormed.root, fun other found otherPresent => ?_⟩, isNew,
    bases_of_find? present⟩
  rcases (knows_created created).mp (knows_of_find? otherPresent) with isOld | isMade
  · rw [growth.find?_eq isOld] at otherPresent
    exact growth.fits wellFormed otherPresent
  · subst other
    rw [present] at otherPresent
    cases otherPresent
    exact fits_created wellFormed (.of_inherit wellFormed aboveKnown nonempty inherited) growth
      newest present

end Created

end StaticDispatch.Hierarchy
