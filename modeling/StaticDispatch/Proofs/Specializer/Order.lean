import Mathlib.Data.List.Forall2
import StaticDispatch.Proofs.Specializer.Matching

/-!
Contract: the order of specializers, and which of them may be met together.

Grounded specializers are equal, or one demands strictly more, or neither does;
demanding more is a strict order that respects equality. Whether two specializers
may overlap does not depend on their order, and specializers that one foreseen
value meets do overlap.

Owns: comparison and overlap of two specializers.
Does not own: lists of specializers.
-/

namespace StaticDispatch

open TypeTable (Demand)

/-- The outcome of a comparison the other way round. -/
def Specificity.swap : Specificity → Specificity
  | .more => .less
  | .less => .more
  | .equal => .equal
  | .incomparable => .incomparable

namespace Specializer

variable {table later : TypeTable} {first second third : Specializer} {value : Value}

/-! ## Equality -/

theorem beq_iff : (first == second) = true ↔ first.eql second = true := Iff.rfl

theorem beq_self (specializer : Specializer) : (specializer == specializer) = true := by
  rw [beq_iff]
  cases specializer <;> simp [eql, Value.eql_self]

theorem beq_comm (first second : Specializer) : (first == second) = (second == first) := by
  rw [Bool.eq_iff_iff, beq_iff, beq_iff]
  cases first <;> cases second <;> simp only [eql, decide_eq_true_eq]
  · exact eq_comm
  · rw [Value.eql_comm]

theorem beq_trans (before : (first == second) = true) (after : (second == third) = true) :
    (first == third) = true := by
  rw [beq_iff] at before after ⊢
  cases first <;> cases second <;> cases third <;> simp_all [eql]
  exact Value.eql_trans before after

private theorem rank_eq_of_beq (equal : (first == second) = true) : first.rank = second.rank := by
  rw [beq_iff] at equal
  cases first <;> cases second <;> simp_all [eql, rank]

theorem rank_le_two (specializer : Specializer) : specializer.rank ≤ 2 := by
  cases specializer <;> simp [rank]

/-! ## Comparison -/

/-- The first specializer demands strictly more than the second one. -/
inductive MoreSpecific (table : TypeTable) : Specializer → Specializer → Prop where
  | rank {first second : Specializer} (outranks : second.rank < first.rank) :
      MoreSpecific table first second
  | below {lower upper : TypeId} (different : lower ≠ upper)
      (isBelow : table.isBelow lower upper = true) :
      MoreSpecific table (.ofType lower) (.ofType upper)

namespace MoreSpecific

private theorem rank_le (more : MoreSpecific table first second) : second.rank ≤ first.rank := by
  cases more with
  | rank outranks => exact Nat.le_of_lt outranks
  | below different isBelow => exact Nat.le_refl _

theorem asymm (grounded : first.Grounded table) (more : MoreSpecific table first second) :
    ¬ MoreSpecific table second first := by
  intro less
  cases more with
  | rank outranks => exact Nat.not_lt.mpr less.rank_le outranks
  | below different isBelow =>
      cases less with
      | rank outranks => exact Nat.lt_irrefl _ outranks
      | below _ isAbove =>
          exact different (grounded.2 _ isBelow isAbove)

theorem trans (mirrors : table.Mirrors) (grounded : first.Grounded table)
    (before : MoreSpecific table first second) (after : MoreSpecific table second third) :
    MoreSpecific table first third := by
  cases before with
  | rank outranks => exact .rank (Nat.lt_of_le_of_lt after.rank_le outranks)
  | below different isBelow =>
      cases after with
      | rank outranks => exact .rank outranks
      | below otherDifferent otherBelow =>
          refine .below ?_ (TypeTable.isBelow_trans mirrors isBelow otherBelow)
          rintro rfl
          exact asymm grounded (.below different isBelow) (.below otherDifferent otherBelow)

theorem not_beq (more : MoreSpecific table first second) : (first == second) = false := by
  rw [Bool.eq_false_iff]
  intro equal
  cases more with
  | rank outranks => exact Nat.ne_of_lt outranks (rank_eq_of_beq equal).symm
  | below different isBelow => exact different (by simpa [beq_iff, eql] using equal)

/-- Equal specializers demand more than the same others. -/
theorem congr_left (equal : (first == second) = true) (more : MoreSpecific table second third) :
    MoreSpecific table first third := by
  cases more with
  | rank outranks => exact .rank (rank_eq_of_beq equal ▸ outranks)
  | below different isBelow =>
      rename_i lower upper
      cases first with
      | ofType id =>
          have same : id = lower := by simpa [beq_iff, eql] using equal
          exact .below (same ▸ different) (same ▸ isBelow)
      | any => cases equal
      | exactly wanted => cases equal

theorem congr_right (more : MoreSpecific table first second) (equal : (second == third) = true) :
    MoreSpecific table first third := by
  cases more with
  | rank outranks => exact .rank (rank_eq_of_beq equal ▸ outranks)
  | below different isBelow =>
      rename_i lower upper
      cases third with
      | ofType id =>
          have same : upper = id := by simpa [beq_iff, eql] using equal
          exact .below (same ▸ different) (same ▸ isBelow)
      | any => cases equal
      | exactly wanted => cases equal

end MoreSpecific

inductive Compared (table : TypeTable) (first second : Specializer) : Specificity → Prop where
  | more (holds : MoreSpecific table first second) : Compared table first second .more
  | less (holds : MoreSpecific table second first) : Compared table first second .less
  | equal (holds : (first == second) = true) : Compared table first second .equal
  | incomparable (different : (first == second) = false)
      (notMore : ¬ MoreSpecific table first second)
      (notLess : ¬ MoreSpecific table second first) : Compared table first second .incomparable

theorem Compared.swap {outcome : Specificity} (compared : Compared table first second outcome) :
    Compared table second first outcome.swap := by
  cases compared with
  | more holds => exact .less holds
  | less holds => exact .more holds
  | equal holds => exact .equal (beq_comm first second ▸ holds)
  | incomparable different notMore notLess =>
      exact .incomparable (beq_comm first second ▸ different) notLess notMore

/-- The outcome of a comparison is determined by what it says. -/
theorem Compared.unique (firstGrounded : first.Grounded table)
    (secondGrounded : second.Grounded table) {outcome other : Specificity}
    (compared : Compared table first second outcome)
    (otherCompared : Compared table first second other) : outcome = other := by
  cases compared with
  | more holds =>
      cases otherCompared with
      | more _ => rfl
      | less otherHolds => exact absurd otherHolds (holds.asymm firstGrounded)
      | equal same => exact absurd same (by simp [holds.not_beq])
      | incomparable _ notMore _ => exact absurd holds notMore
  | less holds =>
      cases otherCompared with
      | more otherHolds => exact absurd otherHolds (holds.asymm secondGrounded)
      | less _ => rfl
      | equal same => exact absurd same (by simp [beq_comm first, holds.not_beq])
      | incomparable _ _ notLess => exact absurd holds notLess
  | equal same =>
      cases otherCompared with
      | more holds => exact absurd same (by simp [holds.not_beq])
      | less holds => exact absurd same (by simp [beq_comm first, holds.not_beq])
      | equal _ => rfl
      | incomparable different _ _ => exact absurd same (by simp [different])
  | incomparable different notMore notLess =>
      cases otherCompared with
      | more holds => exact absurd holds notMore
      | less holds => exact absurd holds notLess
      | equal same => exact absurd same (by simp [different])
      | incomparable _ _ _ => rfl

private theorem not_moreSpecific_of_rank_eq (sameRank : first.rank = second.rank)
    (noTypes : ∀ id, first ≠ .ofType id) : ¬ MoreSpecific table first second := by
  intro more
  cases more with
  | rank outranks => exact Nat.ne_of_gt outranks sameRank
  | below different isBelow => exact noTypes _ rfl

/-- Two different types compare by their demands. -/
private theorem compareAt_types (mirrors : table.Mirrors) {left right : TypeId}
    {leftDef rightDef : TypeDef}
    (leftFound : table.find? left = some leftDef) (rightFound : table.find? right = some rightDef)
    (different : left ≠ right) :
    compareAt table (.ofType left) (.ofType right) = .ok (
      if table.isBelow left right then .more
      else if table.isBelow right left then .less
      else .incomparable) := by
  have notEqual : (Specializer.ofType left == Specializer.ofType right) = false := by
    rw [Bool.eq_false_iff]
    simpa [beq_iff, eql] using different
  simp only [compareAt, rank, ne_eq, not_true_eq_false, if_false, notEqual, Bool.false_eq_true,
    TypeTable.isSubtype_eq mirrors leftFound rightFound,
    TypeTable.isSubtype_eq mirrors rightFound leftFound, Traversal.ok_bind, Traversal.pure_eq_ok,
    TypeTable.isBelow, leftFound, rightFound, Option.any_some]
  split
  · rfl
  · split <;> rfl

/-- **Comparison always has an outcome**, and the outcome says what it means. -/
theorem compareAt_spec (mirrors : table.Mirrors) (firstGrounded : first.Grounded table)
    (secondGrounded : second.Grounded table) :
    ∃ outcome, compareAt table first second = .ok outcome ∧
      Compared table first second outcome := by
  by_cases sameRank : first.rank = second.rank
  case neg =>
    by_cases outranks : second.rank < first.rank
    · exact ⟨.more, by simp [compareAt, sameRank, outranks], .more (.rank outranks)⟩
    · exact ⟨.less, by simp [compareAt, sameRank, outranks],
        .less (.rank (Nat.lt_of_le_of_ne (Nat.not_lt.mp outranks) sameRank))⟩
  cases equal : first == second with
  | true => exact ⟨.equal, by simp [compareAt, sameRank, equal], .equal equal⟩
  | false =>
      cases first with
      | any =>
          cases second <;> simp [rank] at sameRank
          cases equal
      | exactly wanted =>
          cases second <;> simp [rank] at sameRank
          exact ⟨.incomparable, by simp [compareAt, rank, equal], .incomparable equal
            (not_moreSpecific_of_rank_eq rfl (by simp))
            (not_moreSpecific_of_rank_eq rfl (by simp))⟩
      | ofType left =>
          cases second <;> simp [rank] at sameRank
          rename_i right
          obtain ⟨⟨leftDef, leftFound⟩, -⟩ := firstGrounded
          obtain ⟨⟨rightDef, rightFound⟩, -⟩ := secondGrounded
          have different : left ≠ right := by
            rintro rfl
            rw [beq_self] at equal
            cases equal
          refine ⟨_, compareAt_types mirrors leftFound rightFound different, ?_⟩
          split
          · rename_i below
            exact .more (.below different below)
          · rename_i notBelow
            split
            · rename_i above
              exact .less (.below different.symm above)
            · rename_i notAbove
              refine .incomparable equal ?_ ?_
              · rintro (outranks | ⟨-, below⟩)
                · exact Nat.lt_irrefl _ outranks
                · exact notBelow below
              · rintro (outranks | ⟨-, above⟩)
                · exact Nat.lt_irrefl _ outranks
                · exact notAbove above

theorem compareAt_swap (mirrors : table.Mirrors) (firstGrounded : first.Grounded table)
    (secondGrounded : second.Grounded table) {outcome : Specificity}
    (compared : compareAt table first second = .ok outcome) :
    compareAt table second first = .ok outcome.swap := by
  obtain ⟨own, ownCompared, means⟩ := compareAt_spec mirrors firstGrounded secondGrounded
  obtain ⟨other, otherCompared, otherMeans⟩ := compareAt_spec mirrors secondGrounded firstGrounded
  rw [compared] at ownCompared
  cases ownCompared
  rw [otherCompared, otherMeans.unique secondGrounded firstGrounded means.swap]

/-! ## Overlap -/

/-- Whether a pinned value may be of a type, as far as classes tell. -/
def mayHold (table : TypeTable) (wanted : Value) (id : TypeId) : Bool :=
  (table.hostAt? id).all fun host => wanted.isInstanceOf table.classes host

/-- Whether one value may meet both specializers, as far as the table knows. -/
def overlaps (table : TypeTable) : Specializer → Specializer → Bool
  | .any, _ => true
  | _, .any => true
  | .exactly wanted, .exactly other => wanted.eql other
  | .exactly wanted, .ofType id => mayHold table wanted id
  | .ofType id, .exactly wanted => mayHold table wanted id
  | .ofType left, .ofType right =>
      (table.find? left).all fun leftDef => (table.find? right).all fun rightDef =>
        !table.excludes (Demand.ofDef leftDef) (Demand.ofDef rightDef)

theorem valueMayMatch_eq {id : TypeId} {definition : TypeDef}
    (found : table.find? id = some definition) (wanted : Value) :
    valueMayMatch table wanted id = .ok (mayHold table wanted id) := by
  simp only [valueMayMatch, TypeTable.host?, TypeTable.get_of_find? found, Except.map,
    Traversal.ok_bind, Traversal.pure_eq_ok, mayHold, TypeTable.hostAt?, found, Option.bind_some]
  cases definition.host? <;> rfl

/-- **Overlap always has an answer.** -/
theorem mayOverlap_eq (mirrors : table.Mirrors) (firstDefined : first.Defined table)
    (secondDefined : second.Defined table) :
    mayOverlap table first second = .ok (overlaps table first second) := by
  cases first with
  | any => cases second <;> rfl
  | exactly wanted =>
      cases second with
      | any => rfl
      | exactly other => rfl
      | ofType id =>
          obtain ⟨definition, found⟩ := secondDefined
          exact valueMayMatch_eq found wanted
  | ofType left =>
      obtain ⟨leftDef, leftFound⟩ := firstDefined
      cases second with
      | any => rfl
      | exactly wanted => exact valueMayMatch_eq leftFound wanted
      | ofType right =>
          obtain ⟨rightDef, rightFound⟩ := secondDefined
          simp [mayOverlap, overlaps, leftFound, rightFound,
            TypeTable.isDisjoint_eq mirrors leftFound rightFound]

theorem overlaps_comm (mirrors : table.Mirrors) (firstDefined : first.Defined table)
    (secondDefined : second.Defined table) :
    overlaps table first second = overlaps table second first := by
  cases first with
  | any => cases second <;> rfl
  | exactly wanted =>
      cases second with
      | exactly other => exact Value.eql_comm wanted other
      | any => rfl
      | ofType id => rfl
  | ofType left =>
      obtain ⟨leftDef, leftFound⟩ := firstDefined
      cases second with
      | any => rfl
      | exactly wanted => rfl
      | ofType right =>
          obtain ⟨rightDef, rightFound⟩ := secondDefined
          simp [overlaps, leftFound, rightFound, TypeTable.excludes_comm mirrors.wellFormed
            (mirrors.knows_demand leftFound) (mirrors.knows_demand rightFound)]

/-- A value that meets a type may hold for the type. -/
theorem mayHold_of_met (growth : table.Extends later) {wanted : Value} {id : TypeId}
    (known : table.classes.Knows wanted.cls) (equal : value.eql wanted = true)
    (met : (Specializer.ofType id).isMet later value = true) : mayHold table wanted id = true := by
  rw [mayHold, Option.all_eq_true]
  intro host isHost
  obtain ⟨name, supertypes, found⟩ :=
    TypeTable.hostAt?_eq_some_iff.mp (growth.hostAt? isHost)
  simp only [isMet, found, Option.any_some, TypeTable.Demand.ofDef_classType, Demand.isMet,
    Option.all_none, Bool.and_true, Value.isInstanceOf, Value.cls_eq_of_eql equal,
    growth.classes.isSubclass_eq known] at met
  exact met

/-- **What one foreseen value meets overlaps**, now or in a later table. -/
theorem overlaps_of_met (mirrors : table.Mirrors) (growth : table.Extends later)
    (laterWellFormed : later.classes.WellFormed) (firstDefined : first.Defined table)
    (secondDefined : second.Defined table) (foreseen : second.Foreseen table later value)
    (firstMet : first.isMet later value = true) (secondMet : second.isMet later value = true) :
    overlaps table first second = true := by
  cases first with
  | any => cases second <;> rfl
  | exactly wanted =>
      cases second with
      | any => rfl
      | exactly other => exact Value.eql_of_common firstMet secondMet
      | ofType id => exact mayHold_of_met growth firstDefined firstMet secondMet
  | ofType left =>
      cases second with
      | any => rfl
      | exactly wanted => exact mayHold_of_met growth secondDefined secondMet firstMet
      | ofType right =>
          obtain ⟨leftDef, leftFound⟩ := firstDefined
          obtain ⟨rightDef, rightFound⟩ := secondDefined
          have leftMet : (Demand.ofDef leftDef).isMet later.classes value = true := by
            simpa [isMet, growth.definitions _ _ leftFound] using firstMet
          have rightMet : (Demand.ofDef rightDef).isMet later.classes value = true := by
            simpa [isMet, growth.definitions _ _ rightFound] using secondMet
          simp [overlaps, leftFound, rightFound, TypeTable.excludes_eq_false mirrors growth
            laterWellFormed leftFound rightFound foreseen leftMet rightMet]

end Specializer

end StaticDispatch
