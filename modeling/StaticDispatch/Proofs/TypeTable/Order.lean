import Mathlib.Logic.Relation
import StaticDispatch.Proofs.TypeTable.Subtype

/-!
Contract: subtyping is the order that the supertypes of a table declare.

One type is below another if they are the same, if the other is the top type, if both
pin equal values over bases in that order, or if the other is a class type that can be
reached through supertypes. Where supertypes are older than what is below them, the
subtype question decides this relation, which is an order on class types.

Owns: the declared order, that ancestors and the subtype question decide it, and its
laws.
Does not own: which tables can be made, and host classes.
-/

namespace StaticDispatch.TypeTable

open Relation (ReflTransGen)

variable {table : TypeTable} {id lower middle upper : TypeId}

/-! ## Declared supertypes -/

/-- The upper type is one of the supertypes of the lower one. A literal type has its
base as its only supertype. -/
def DeclaredBelow (table : TypeTable) (lower upper : TypeId) : Prop :=
  ∃ definition, table.find? lower = some definition ∧ upper ∈ definition.supertypes

private theorem not_declaredBelow_of_top (isTop : table.find? lower = some .top) :
    ¬ table.DeclaredBelow lower upper := by
  rintro ⟨definition, found, above⟩
  rw [isTop] at found
  cases found
  cases above

/-- Nothing is reached from the top type but itself. -/
theorem eq_of_top_reaches (isTop : table.find? lower = some .top)
    (path : ReflTransGen table.DeclaredBelow lower upper) : lower = upper := by
  rcases ReflTransGen.cases_head path with same | ⟨next, above, -⟩
  · exact same
  · exact absurd above (not_declaredBelow_of_top isTop)

/-- Supertypes are older, so a path leads to older types only. -/
theorem Rooted.le_of_reaches (rooted : table.Rooted)
    (path : ReflTransGen table.DeclaredBelow lower upper) : upper ≤ lower := by
  induction path with
  | refl => exact Int.le_refl lower
  | tail _ above inductionHypothesis =>
      obtain ⟨definition, found, isSupertype⟩ := above
      have older := (rooted _ definition found _ isSupertype).1
      exact Int.le_trans (Int.le_of_lt older) inductionHypothesis

/-- A closed set that was made from some proper types has exactly the proper types that
are reached from them. -/
theorem IsClosure.mem_iff {start : TypeId → Prop} {found : List TypeId}
    (closure : table.IsClosure start found) (proper : ∀ id, start id → table.find? id ≠ some .top) :
    upper ∈ found ↔ table.find? upper ≠ some .top ∧
      ∃ id, start id ∧ ReflTransGen table.DeclaredBelow id upper := by
  constructor
  · apply closure.least fun upper => table.find? upper ≠ some .top ∧
      ∃ id, start id ∧ ReflTransGen table.DeclaredBelow id upper
    · rintro lower definition supertype ⟨-, id, isStart, path⟩ present above superProper
      exact ⟨superProper, id, isStart, path.tail ⟨definition, present, above⟩⟩
    · intro id isStart
      exact ⟨proper id isStart, id, isStart, .refl⟩
  · rintro ⟨upperProper, id, isStart, path⟩
    induction path with
    | refl => exact closure.includes id isStart
    | tail _ above inductionHypothesis =>
        have lowerProper := fun isTop => not_declaredBelow_of_top isTop above
        obtain ⟨definition, present, isSupertype⟩ := above
        exact closure.closed _ definition _ (inductionHypothesis lowerProper) present isSupertype
          upperProper

/-- **The ancestors of a type** are the types that are reached from it, the top type left
out. -/
theorem ancestors_eq_reached (rooted : table.Rooted) (defined : table.Defines id) :
    ∃ found, table.ancestors id = .ok found ∧ ∀ upper, upper ∈ found ↔
      table.find? upper ≠ some .top ∧ ReflTransGen table.DeclaredBelow id upper := by
  obtain ⟨definition, present⟩ := defined
  obtain ⟨found, walked, closure⟩ := ancestors_closure rooted present
  refine ⟨found, walked, fun upper => ?_⟩
  rw [closure.mem_iff fun other start => start.1 ▸ start.2]
  refine and_congr_right fun upperProper => ⟨?_, fun path => ⟨id, ⟨rfl, fun isTop => ?_⟩, path⟩⟩
  · rintro ⟨other, ⟨rfl, -⟩, path⟩
    exact path
  · exact upperProper (eq_of_top_reaches isTop path ▸ isTop)

/-! ## The order of all types -/

/-- The rules by which one type is below another. -/
inductive Below (table : TypeTable) : TypeId → TypeId → Prop where
  | refl (id : TypeId) : Below table id id
  | top {lower upper : TypeId} (isTop : table.find? upper = some .top) : Below table lower upper
  | literal {lower upper : TypeId} {value other : Value} {base otherBase : TypeId}
      (lowerFound : table.find? lower = some (.literalType value base))
      (upperFound : table.find? upper = some (.literalType other otherBase))
      (equal : value.eql other = true) (bases : Below table base otherBase) :
      Below table lower upper
  | ancestor {lower upper : TypeId} {name : String} {supertypes : List TypeId}
      {host : Option ClassId}
      (upperFound : table.find? upper = some (.classType name supertypes host))
      (path : ReflTransGen table.DeclaredBelow lower upper) : Below table lower upper

/-- Below a class type, a type is judged by what is reached from it. -/
theorem below_class_iff {name : String} {supertypes : List TypeId} {host : Option ClassId}
    (upperFound : table.find? upper = some (.classType name supertypes host)) :
    table.Below lower upper ↔ ReflTransGen table.DeclaredBelow lower upper := by
  refine ⟨fun below => ?_, .ancestor upperFound⟩
  cases below with
  | refl => exact .refl
  | top isTop => simp [isTop] at upperFound
  | literal _ isLiteral => simp [isLiteral] at upperFound
  | ancestor _ path => exact path

/-- Below a literal type there are only itself and literal types of equal values. -/
private theorem below_literal_iff {value : Value} {base : TypeId} (different : lower ≠ upper)
    (upperFound : table.find? upper = some (.literalType value base)) :
    table.Below lower upper ↔ ∃ own ownBase, table.find? lower = some (.literalType own ownBase) ∧
      own.eql value = true ∧ table.Below ownBase base := by
  constructor
  · intro below
    cases below with
    | refl => exact absurd rfl different
    | top isTop => simp [isTop] at upperFound
    | literal lowerFound isLiteral equal bases =>
        rw [upperFound] at isLiteral
        cases isLiteral
        exact ⟨_, _, lowerFound, equal, bases⟩
    | ancestor isClass => simp [isClass] at upperFound
  · rintro ⟨own, ownBase, lowerFound, equal, bases⟩
    exact .literal lowerFound upperFound equal bases

theorem Below.trans (before : table.Below lower middle) (after : table.Below middle upper) :
    table.Below lower upper := by
  induction before generalizing upper with
  | refl => exact after
  | top isTop =>
      cases after with
      | refl => exact .top isTop
      | top upperTop => exact .top upperTop
      | literal isLiteral => simp [isLiteral] at isTop
      | ancestor _ path => exact eq_of_top_reaches isTop path ▸ .top isTop
  | @literal lower middle value other base otherBase lowerFound middleFound equal bases
      inductionHypothesis =>
      cases after with
      | refl => exact .literal lowerFound middleFound equal bases
      | top isTop => exact .top isTop
      | literal isMiddle upperFound otherEqual otherBases =>
          rw [middleFound] at isMiddle
          cases isMiddle
          exact .literal lowerFound upperFound (Value.eql_trans equal otherEqual)
            (inductionHypothesis otherBases)
      | ancestor upperFound path =>
          -- The path leaves the literal type through its base.
          rcases ReflTransGen.cases_head path with rfl | ⟨next, ⟨definition, found, above⟩, rest⟩
          · simp [middleFound] at upperFound
          · rw [middleFound] at found
            cases found
            cases List.mem_singleton.mp above
            have reached := (below_class_iff upperFound).mp
              (inductionHypothesis (.ancestor upperFound rest))
            exact .ancestor upperFound (.head ⟨_, lowerFound, List.mem_singleton_self _⟩ reached)
  | ancestor middleFound path =>
      cases after with
      | refl => exact .ancestor middleFound path
      | top isTop => exact .top isTop
      | literal isMiddle => simp [isMiddle] at middleFound
      | ancestor upperFound rest => exact .ancestor upperFound (path.trans rest)

/-! ## The subtype question -/

/-- The question is answered as long as the steps last, which they do because the bases
of literal types are older. -/
private theorem isSubtypeWithin_spec (rooted : table.Rooted) (steps : Nat)
    (lowerDefined : table.Defines lower) (upperDefined : table.Defines upper)
    (enough : lower ≤ steps) :
    ∃ answer, table.isSubtypeWithin steps lower upper = .ok answer ∧
      (answer = true ↔ table.Below lower upper) := by
  induction steps generalizing lower upper with
  | zero =>
      obtain ⟨definition, found⟩ := lowerDefined
      exact absurd enough (Int.not_le.mpr (bounds_of_find? found).1)
  | succ steps inductionHypothesis =>
      obtain ⟨found, walked, mem_found⟩ := ancestors_eq_reached rooted lowerDefined
      obtain ⟨lowerDef, lowerFound⟩ := lowerDefined
      obtain ⟨upperDef, upperFound⟩ := upperDefined
      by_cases same : lower = upper
      · subst same
        exact ⟨true, isSubtypeWithin_self table steps lower, by simp [Below.refl]⟩
      rw [isSubtypeWithin, if_neg same, get_of_find? upperFound, get_of_find? lowerFound]
      cases upperDef with
      | top => exact ⟨true, rfl, by simp [Below.top upperFound]⟩
      | classType name supertypes host =>
          have reached : found.contains upper = true ↔ table.Below lower upper := by
            rw [List.contains_iff_mem, mem_found, below_class_iff upperFound]
            simp [upperFound]
          by_cases isTop : lowerDef = .top
          · subst isTop
            refine ⟨false, rfl, ?_⟩
            rw [below_class_iff upperFound]
            simpa using fun path => same (eq_of_top_reaches lowerFound path)
          · refine ⟨found.contains upper, ?_, reached⟩
            cases lowerDef with
            | top => exact absurd rfl isTop
            | classType own ownSupertypes ownHost => simp [TypeDef.isTop, walked]
            | literalType own ownBase => simp [TypeDef.isTop, walked]
      | literalType value base =>
          rw [below_literal_iff same upperFound]
          cases lowerDef with
          | top => exact ⟨false, rfl, by simp [lowerFound]⟩
          | classType own ownSupertypes ownHost => exact ⟨false, rfl, by simp [lowerFound]⟩
          | literalType own ownBase =>
              have ownSpec := rooted lower _ lowerFound ownBase (by simp [TypeDef.supertypes])
              have baseSpec := rooted upper _ upperFound base (by simp [TypeDef.supertypes])
              cases equal : own.eql value with
              | false => exact ⟨false, by simp [TypeDef.isTop, equal], by simp [lowerFound, equal]⟩
              | true =>
                  obtain ⟨answer, answered, decides⟩ := inductionHypothesis ownSpec.2 baseSpec.2
                    (Int.le_of_lt_add_one (Int.lt_of_lt_of_le ownSpec.1 enough))
                  refine ⟨answer, by simp [TypeDef.isTop, equal, answered], ?_⟩
                  simpa [lowerFound, equal] using decides

/-- **The subtype question decides the order of types** wherever supertypes are older. -/
theorem isSubtype_spec (rooted : table.Rooted) (lowerDefined : table.Defines lower)
    (upperDefined : table.Defines upper) :
    ∃ answer, table.isSubtype lower upper = .ok answer ∧
      (answer = true ↔ table.Below lower upper) := by
  obtain ⟨definition, found⟩ := lowerDefined
  exact isSubtypeWithin_spec rooted _ ⟨definition, found⟩ upperDefined
    (Int.le_of_lt (Int.lt_add_one_of_le (bounds_of_find? found).2))

theorem isSubtype_iff_below (rooted : table.Rooted) (lowerDefined : table.Defines lower)
    (upperDefined : table.Defines upper) :
    table.isSubtype lower upper = .ok true ↔ table.Below lower upper := by
  obtain ⟨answer, answered, decides⟩ := isSubtype_spec rooted lowerDefined upperDefined
  rw [answered, ← decides, Except.ok.injEq]

end StaticDispatch.TypeTable
