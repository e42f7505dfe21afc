import Mathlib.Data.List.Perm.Subperm
import StaticDispatch.Proofs.TypeTable.Order
import StaticDispatch.TypeTable.Disjoint
import StaticDispatch.TypeTable.Registration

/-!
Contract: a question about types fails only where the table is broken.

A table may put a type over a number that it has not given out, and a literal type
may so come to stand over itself. Nothing else makes a question about two types of the
table fail, whatever the host classes are and in whichever order types were made.
A whole table has every type that its types are put over, and the bases of its literal
types come to an end, so it answers.

Owns: whole tables and two broken ones, and the faults of the subtype question and of
disjointness.
Does not own: what the answers are, and which whole tables can be made.
-/

namespace StaticDispatch.TypeTable

open Relation (TransGen)
open Traversal (Confined)

variable {table : TypeTable} {id base lower upper first second : TypeId}

/-! ## Broken and whole tables -/

/-- The second type is the base of the first, which is a literal type. -/
def BaseOf (table : TypeTable) (id base : TypeId) : Prop :=
  ∃ value, table.find? id = some (.literalType value base)

/-- The faults that a table is to blame for. -/
inductive Breaks (table : TypeTable) : Fault → Prop where
  /-- A type of the table is put over a number without a type. -/
  | missing {lower id : TypeId} (above : table.DeclaredBelow lower id)
      (absent : ¬ table.Defines id) : Breaks table (.undefinedType id)
  /-- A literal type is led back to by its own bases. -/
  | endless {id : TypeId} (round : TransGen table.BaseOf id id) (nested : Bool) :
      Breaks table (.endlessBases nested)

/-- What the types of a table are put over is in the table, and no literal type is led
back to by its own bases. -/
structure Whole (table : TypeTable) : Prop where
  complete : ∀ lower upper, table.DeclaredBelow lower upper → table.Defines upper
  basesEnd : ∀ id, ¬ TransGen table.BaseOf id id

theorem Whole.not_breaks (whole : table.Whole) (fault : Fault) : ¬ table.Breaks fault := by
  intro breaks
  cases breaks with
  | missing above absent => exact absent (whole.complete _ _ above)
  | endless round => exact whole.basesEnd _ round

theorem BaseOf.defines (isBase : table.BaseOf id base) : table.Defines id := by
  obtain ⟨value, found⟩ := isBase
  exact ⟨_, found⟩

/-- A table is whole if it has what its types are put over, and the bases of its literal
types get smaller by some measure. -/
theorem Whole.of_measure (measure : TypeId → Int)
    (complete : ∀ id ∈ table.ids, ∀ definition ∈ table.find? id,
      ∀ supertype ∈ definition.supertypes, table.Defines supertype)
    (falls : ∀ id ∈ table.ids, ∀ definition ∈ table.find? id, definition.pinned?.isSome →
      ∀ base ∈ definition.supertypes, measure base < measure id) : table.Whole := by
  have fallsBase : ∀ {id base : TypeId}, table.BaseOf id base → measure base < measure id := by
    intro id base isBase
    obtain ⟨value, found⟩ := isBase
    exact falls id (mem_ids_iff.mpr ⟨_, found⟩) _ found rfl base (List.mem_singleton_self base)
  have below : ∀ {start final : TypeId}, TransGen table.BaseOf start final →
      measure final < measure start := by
    intro start final path
    induction path with
    | single isBase => exact fallsBase isBase
    | tail _ isBase inductionHypothesis =>
        exact Int.lt_trans (fallsBase isBase) inductionHypothesis
  refine ⟨fun lower upper above => ?_, fun id round => Int.lt_irrefl _ (below round)⟩
  obtain ⟨definition, found, isSupertype⟩ := above
  exact complete lower (mem_ids_iff.mpr ⟨_, found⟩) definition found upper isSupertype

/-- Where supertypes are older, the number of a type is such a measure. -/
theorem Rooted.whole (rooted : table.Rooted) : table.Whole := by
  apply Whole.of_measure fun id => id
  · intro id _ definition found supertype above
    exact (rooted id definition found supertype above).2
  · intro id _ definition found _ base above
    exact (rooted id definition found base above).1

/-! ## Types that are met -/

/-- The table has a type of this number, or has put one of its types over it. -/
def Mentions (table : TypeTable) (id : TypeId) : Prop :=
  table.Defines id ∨ ∃ lower, table.DeclaredBelow lower id

private theorem Mentions.of_base {value : Value}
    (found : table.find? id = some (.literalType value base)) :
    table.Mentions base :=
  .inr ⟨id, _, found, List.mem_singleton_self base⟩

theorem get_confined (mentions : table.Mentions id) : Confined table.Breaks (table.get id) := by
  cases found : table.find? id with
  | some definition =>
      rw [get_of_find? found]
      exact .ok definition
  | none =>
      have absent : ¬ table.Defines id := by
        rintro ⟨definition, present⟩
        rw [found] at present
        cases present
      obtain ⟨lower, above⟩ := mentions.resolve_left absent
      intro fault failed
      rw [get, found] at failed
      cases failed
      exact .missing above absent

/-! ## The subtype question -/

/-- A walk through supertypes only meets types that the table mentions. -/
private theorem ancestorsFrom_confined (steps : Nat) (seen frontier : List TypeId)
    (mentions : ∀ id ∈ frontier, table.Mentions id) :
    Confined table.Breaks (table.ancestorsFrom steps seen frontier) := by
  induction steps generalizing seen frontier with
  | zero => exact .ok seen
  | succ steps inductionHypothesis =>
      unfold ancestorsFrom
      split
      · exact .ok seen
      refine (Confined.mapM fun id inside => (get_confined (mentions id inside)).map _).bind
        fun found walked => ?_
      apply inductionHypothesis
      intro supertype inside
      obtain ⟨⟨id, definition⟩, isBelow, above⟩ :=
        List.mem_flatMap.mp (mem_unseen_iff.mp inside).1
      obtain ⟨own, -, ownFound⟩ := Traversal.exists_of_mem_right
        (Traversal.mapM_eq_ok_iff.mp walked) (List.mem_of_mem_filter isBelow)
      obtain ⟨ownDef, got, same⟩ := Traversal.map_eq_ok.mp ownFound
      cases same
      exact .inr ⟨id, definition, find?_of_get got, above⟩

private theorem ancestors_confined (mentions : table.Mentions id) :
    Confined table.Breaks (table.ancestors id) :=
  ancestorsFrom_confined _ [] [id] (by simpa using mentions)

/-- Different literal types that lead to a type by their bases are no more than the table
has types. -/
private theorem length_le_of_leading {behind : List TypeId} (distinct : behind.Nodup)
    (leading : ∀ id ∈ behind, TransGen table.BaseOf id lower) :
    behind.length ≤ table.definitions.size := by
  have inside : behind ⊆ table.ids := by
    intro id isBehind
    obtain ⟨base, isBase, -⟩ := TransGen.head'_iff.mp (leading id isBehind)
    exact mem_ids_iff.mpr isBase.defines
  have bound := (distinct.subperm inside).length_le
  simpa [ids] using bound

private theorem exists_endlessFault (table : TypeTable) (lower upper : TypeId) :
    ∃ nested, table.endlessFault lower upper = .endlessBases nested := by
  unfold endlessFault
  split <;> exact ⟨_, rfl⟩

/-- Each step goes from a literal type to its base. Unless bases go round, the types behind
it are different ones, and the table runs out of types before the steps are used up. -/
private theorem isSubtypeWithin_confined (steps : Nat) (behind : List TypeId)
    (lowerMentioned : table.Mentions lower) (upperMentioned : table.Mentions upper)
    (distinct : (∀ id, ¬ TransGen table.BaseOf id id) → behind.Nodup)
    (leading : ∀ id ∈ behind, TransGen table.BaseOf id lower)
    (enough : table.definitions.size < behind.length + steps) :
    Confined table.Breaks (table.isSubtypeWithin steps lower upper) := by
  induction steps generalizing lower upper behind with
  | zero =>
      have round : ∃ id, TransGen table.BaseOf id id := by
        by_contra ends
        have bound := length_le_of_leading (distinct (not_exists.mp ends)) leading
        omega
      obtain ⟨id, round⟩ := round
      obtain ⟨nested, isEndless⟩ := exists_endlessFault table lower upper
      intro fault failed
      rw [isSubtypeWithin, isEndless] at failed
      cases failed
      exact .endless round nested
  | succ steps inductionHypothesis =>
      unfold isSubtypeWithin
      split
      · exact .ok true
      refine (get_confined upperMentioned).bind fun upperDef upperGot => ?_
      split
      · exact .ok true
      refine (get_confined lowerMentioned).bind fun lowerDef lowerGot => ?_
      split
      · exact .ok false
      split
      · split
        · have lowerFound := find?_of_get lowerGot
          have isBase : table.BaseOf lower _ := ⟨_, lowerFound⟩
          apply inductionHypothesis (lower :: behind) (.of_base lowerFound)
            (.of_base (find?_of_get upperGot))
          · intro ends
            refine List.nodup_cons.mpr ⟨fun inside => ?_, distinct ends⟩
            exact ends lower (leading lower inside)
          · intro id inside
            rcases List.mem_cons.mp inside with rfl | isBehind
            · exact .single isBase
            · exact (leading id isBehind).tail isBase
          · rw [List.length_cons]
            omega
        · exact .ok false
      · exact .ok false
      · exact (ancestors_confined lowerMentioned).bind fun found _ => .ok _

/-- **The subtype question fails only where the table is broken.** -/
theorem isSubtype_confined (lowerMentioned : table.Mentions lower)
    (upperMentioned : table.Mentions upper) :
    Confined table.Breaks (table.isSubtype lower upper) :=
  isSubtypeWithin_confined _ [] lowerMentioned upperMentioned (fun _ => List.nodup_nil) (by simp)
    (by simp)

/-! ## Disjointness -/

private theorem isOutside_confined {value : Value} {cls : TypeId}
    (baseMentioned : table.Mentions base) (clsMentioned : table.Mentions cls) :
    Confined table.Breaks (table.isOutside value base cls) := by
  unfold isOutside
  refine (isSubtype_confined baseMentioned clsMentioned).bind fun below _ => ?_
  split
  · exact .ok false
  refine ((get_confined clsMentioned).map TypeDef.host?).bind fun host _ => ?_
  split
  · exact .ok _
  · exact (isSubtype_confined clsMentioned baseMentioned).bind fun above _ => .ok _

private theorem haveCommonClass_confined (firstMentioned : table.Mentions first)
    (secondMentioned : table.Mentions second) :
    Confined table.Breaks (table.haveCommonClass first second) := by
  refine Confined.anyM fun id inside => ?_
  have mentioned : table.Mentions id := .inl (mem_ids_iff.mp inside)
  refine (get_confined mentioned).bind fun definition _ => ?_
  split
  · exact .ok false
  refine (isSubtype_confined mentioned firstMentioned).bind fun below _ => ?_
  split
  · exact .ok false
  · exact isSubtype_confined mentioned secondMentioned

/-- **Disjointness fails only where the table is broken.** -/
theorem isDisjoint_confined (firstMentioned : table.Mentions first)
    (secondMentioned : table.Mentions second) :
    Confined table.Breaks (table.isDisjoint first second) := by
  unfold isDisjoint
  refine (get_confined firstMentioned).bind fun firstDef firstGot => ?_
  split
  · exact .ok false
  refine (get_confined secondMentioned).bind fun secondDef secondGot => ?_
  split
  · exact .ok false
  refine (isSubtype_confined firstMentioned secondMentioned).bind fun below _ => ?_
  split
  · exact .ok false
  refine (isSubtype_confined secondMentioned firstMentioned).bind fun above _ => ?_
  split
  · exact .ok false
  split
  · exact .ok _
  · exact isOutside_confined (.of_base (find?_of_get firstGot)) secondMentioned
  · exact isOutside_confined (.of_base (find?_of_get secondGot)) firstMentioned
  · refine (haveCommonClass_confined firstMentioned secondMentioned).bind fun common _ => ?_
    split
    · exact .ok false
    split
    · exact .ok _
    · exact .ok true

/-! ## Two broken tables -/

/-- A literal type over a number that is not given out. -/
def stray : TypeTable :=
  { TypeTable.empty false with
    definitions := #[.top, .literalType (.int 5) 99, .classType "A" [1] none] }

/-- Two literal types of the number one, each put over the other. -/
def winding : TypeTable :=
  { TypeTable.empty false with
    definitions := #[.top, .literalType (.int 1) 3, .literalType (.int 1) 2] }

/-- Both can be made, because the base of a literal type is not looked up. -/
theorem stray_made :
    ((TypeTable.empty false).ensureTop.2.newLiteral (.int 5) (some 99)).2.newClass "A" [1] none =
      .ok (3, stray) := by
  with_unfolding_all rfl

theorem winding_made :
    (((TypeTable.empty false).ensureTop.2.newLiteral (.int 1) (some 3)).2.newLiteral
      (.int 1) (some 2)).2 = winding := by
  with_unfolding_all rfl

end StaticDispatch.TypeTable
