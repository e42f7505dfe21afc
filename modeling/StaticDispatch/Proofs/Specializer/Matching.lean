import StaticDispatch.Proofs.TypeTable.Disjoint
import StaticDispatch.Proofs.TypeTable.Whole
import StaticDispatch.Specializer

/-!
Contract: what the class of a specializer against a static type says about values.

Classifying a specializer of a registered type fails only where the table is broken, and
over a table that mirrors its classes every question about a defined specializer has an
answer. An applicable specializer is met by every value of the static type, an
inapplicable one by none that the table foresees, also after more classes and types were
added.

A registered specializer can be named, unless it asks for a value that cannot be written.

Owns: matching, the soundness of classification, and the faults of labels.
Does not own: the order of specializers.
-/

namespace StaticDispatch

open TypeTable (Demand)
open Traversal (Confined)

namespace Specializer

variable {table later : TypeTable} {specializer : Specializer} {static : TypeId}
  {staticDef : TypeDef} {value : Value}

/-- A specializer that speaks of classes and types of the table. -/
def Defined (table : TypeTable) : Specializer → Prop
  | .any => True
  | .exactly wanted => table.classes.Knows wanted.cls
  | .ofType id => table.Defines id

instance : DecidablePred (Defined table)
  | .any => .isTrue trivial
  | .exactly wanted => inferInstanceAs (Decidable (table.classes.Knows wanted.cls))
  | .ofType id => inferInstanceAs (Decidable (table.Defines id))

/-- A specializer whose type, if it asks for one, is in the table. -/
def Registered (table : TypeTable) : Specializer → Prop
  | .ofType id => table.Defines id
  | _ => True

instance : DecidablePred (Registered table)
  | .any => .isTrue trivial
  | .exactly _ => .isTrue trivial
  | .ofType id => inferInstanceAs (Decidable (table.Defines id))

theorem Defined.registered (isDefined : specializer.Defined table) :
    specializer.Registered table := by
  cases specializer with
  | any => trivial
  | exactly wanted => trivial
  | ofType id => exact isDefined

/-- A defined specializer that speaks of no type that the table holds twice. -/
def Grounded (table : TypeTable) : Specializer → Prop
  | .any => True
  | .exactly wanted => table.classes.Knows wanted.cls
  | .ofType id => table.Defines id ∧ table.HoldsOnce id

theorem Grounded.defined (grounded : specializer.Grounded table) : specializer.Defined table := by
  cases specializer with
  | any => trivial
  | exactly wanted => exact grounded
  | ofType id => exact grounded.1

theorem Defined.extend (isDefined : specializer.Defined table) (growth : table.Extends later) :
    specializer.Defined later := by
  cases specializer with
  | any => trivial
  | exactly wanted => exact growth.classes.knows isDefined
  | ofType id =>
      obtain ⟨definition, found⟩ := isDefined
      exact ⟨definition, growth.definitions _ _ found⟩

def isMet (table : TypeTable) (value : Value) : Specializer → Bool
  | .any => true
  | .exactly wanted => value.eql wanted
  | .ofType id => (table.find? id).any fun definition =>
      (Demand.ofDef definition).isMet table.classes value

theorem isMatch_eq (mirrors : table.Mirrors) (known : table.classes.Knows value.cls)
    (isDefined : specializer.Defined table) :
    specializer.isMatch table value = .ok (specializer.isMet table value) := by
  cases specializer with
  | any => rfl
  | exactly wanted => rfl
  | ofType id =>
      obtain ⟨definition, found⟩ := isDefined
      simp [isMatch, isMet, found, TypeTable.isInstance_eq mirrors known found]

/-! ## Labels -/

def isWritable : Specializer → Bool
  | .exactly wanted => wanted.isWritable
  | _ => true

theorem label_exactly (writable : value.isWritable = true) :
    label table (.exactly value) = .ok value.spelling := by
  simp [label, Value.display, writable, Except.mapError]

theorem label_confined (registered : specializer.Registered table) :
    Confined (fun fault => fault = .unwritable {} ∧ specializer.isWritable = false)
      (specializer.label table) := by
  cases specializer with
  | any => exact .ok "_"
  | ofType id =>
      obtain ⟨definition, found⟩ := registered
      exact .of_answers ⟨definition.name, by
        simp only [label, TypeTable.name, TypeTable.get_of_find? found, Except.map]⟩
  | exactly wanted =>
      cases writable : wanted.isWritable with
      | true => exact .of_answers ⟨_, label_exactly writable⟩
      | false =>
          simp only [label, Value.display, writable, Bool.false_eq_true, if_false, Except.mapError]
          exact .error ⟨rfl, writable⟩

/-! ## Classification -/

/-- Against a known static type, a type is classified by the two demands. -/
theorem classify_ofType {id : TypeId} {definition : TypeDef} (mirrors : table.Mirrors)
    (staticFound : table.find? static = some staticDef)
    (found : table.find? id = some definition) :
    classify table (.ofType id) static = .ok (
      if staticDef.isTop then .ambiguous
      else if (Demand.ofDef staticDef).implies table.classes (Demand.ofDef definition) then
        .applicable
      else if table.excludes (Demand.ofDef staticDef) (Demand.ofDef definition) then .inapplicable
      else .ambiguous) := by
  simp only [classify, TypeTable.isTop, TypeTable.get_of_find? staticFound, Except.map,
    TypeTable.isSubtype_eq mirrors staticFound found,
    TypeTable.isDisjoint_eq mirrors staticFound found, Traversal.ok_bind, Traversal.pure_eq_ok]
  split
  · rfl
  · split
    · rfl
    · split <;> rfl

/-- A type is applicable if a static type that is not the top type implies it. -/
theorem classify_ofType_eq_applicable {id : TypeId} {definition : TypeDef}
    (mirrors : table.Mirrors) (staticFound : table.find? static = some staticDef)
    (found : table.find? id = some definition) :
    classify table (.ofType id) static = .ok .applicable ↔ staticDef.isTop = false ∧
      (Demand.ofDef staticDef).implies table.classes (Demand.ofDef definition) = true := by
  rw [classify_ofType mirrors staticFound found]
  cases staticDef.isTop with
  | true => simp
  | false =>
      cases (Demand.ofDef staticDef).implies table.classes (Demand.ofDef definition) with
      | true => simp
      | false => cases table.excludes (Demand.ofDef staticDef) (Demand.ofDef definition) <;> simp

/-- A type is inapplicable if a static type that is not the top type excludes it. -/
theorem classify_ofType_eq_inapplicable {id : TypeId} {definition : TypeDef}
    (mirrors : table.Mirrors) (staticFound : table.find? static = some staticDef)
    (found : table.find? id = some definition) :
    classify table (.ofType id) static = .ok .inapplicable ↔ staticDef.isTop = false ∧
      table.excludes (Demand.ofDef staticDef) (Demand.ofDef definition) = true := by
  rw [classify_ofType mirrors staticFound found]
  cases staticDef.isTop with
  | true => simp
  | false =>
      cases implied : (Demand.ofDef staticDef).implies table.classes (Demand.ofDef definition) with
      | true => simp [TypeTable.excludes, implied]
      | false => cases table.excludes (Demand.ofDef staticDef) (Demand.ofDef definition) <;> simp

theorem classify_exactly {wanted : Value} (staticFound : table.find? static = some staticDef) :
    classify table (.exactly wanted) static = .ok (
      if (Demand.ofDef staticDef).pinned.any (·.eql wanted) then .applicable else .ambiguous) := by
  simp only [classify, TypeTable.pinned?, TypeTable.get_of_find? staticFound, Except.map,
    Traversal.ok_bind, Traversal.pure_eq_ok]
  cases staticDef with
  | top => rfl
  | classType name supertypes host => rfl
  | literalType pinned base =>
      by_cases equal : pinned.eql wanted = true <;> simp [TypeDef.pinned?, equal]

/-- A value is applicable if the static type pins one that equals it. -/
theorem classify_exactly_eq_applicable {wanted : Value}
    (staticFound : table.find? static = some staticDef) :
    classify table (.exactly wanted) static = .ok .applicable ↔
      ∃ pinned, (Demand.ofDef staticDef).pinned = some pinned ∧ pinned.eql wanted = true := by
  rw [classify_exactly staticFound, ← Option.any_eq_true]
  cases (Demand.ofDef staticDef).pinned.any (·.eql wanted) <;> simp

theorem classify_exactly_ne_inapplicable {wanted : Value}
    (staticFound : table.find? static = some staticDef) :
    classify table (.exactly wanted) static ≠ .ok .inapplicable := by
  rw [classify_exactly staticFound]
  split <;> simp

/-- Classifying against a type of the table fails only where the table is broken. -/
theorem Registered.classify_confined (registered : specializer.Registered table)
    (staticDefined : table.Defines static) :
    Traversal.Confined table.Breaks (specializer.classify table static) := by
  have staticMentioned : table.Mentions static := .inl staticDefined
  cases specializer with
  | any => exact .ok _
  | exactly wanted =>
      refine ((TypeTable.get_confined staticMentioned).map TypeDef.pinned?).bind fun pinned _ => ?_
      split
      · exact .ok _
      · exact .ok _
  | ofType id =>
      have mentioned : table.Mentions id := .inl registered
      refine ((TypeTable.get_confined staticMentioned).map TypeDef.isTop).bind fun isTop _ => ?_
      split
      · exact .ok _
      refine (TypeTable.isSubtype_confined staticMentioned mentioned).bind fun below _ => ?_
      split
      · exact .ok _
      refine (TypeTable.isDisjoint_confined staticMentioned mentioned).bind fun disjoint _ => ?_
      split
      · exact .ok _
      · exact .ok _

theorem classify_answers (mirrors : table.Mirrors) (isDefined : specializer.Defined table)
    (staticFound : table.find? static = some staticDef) :
    ∃ answer, specializer.classify table static = .ok answer :=
  (isDefined.registered.classify_confined ⟨_, staticFound⟩).answers mirrors.rooted.whole.not_breaks

/-- **An applicable specializer is met** by every value of the static type. -/
theorem isMet_of_applicable (mirrors : table.Mirrors) (growth : table.Extends later)
    (laterWellFormed : later.classes.WellFormed) (isDefined : specializer.Defined table)
    (staticFound : table.find? static = some staticDef)
    (applicable : specializer.classify table static = .ok .applicable)
    (meets : (Demand.ofDef staticDef).isMet later.classes value = true) :
    specializer.isMet later value = true := by
  cases specializer with
  | any => rfl
  | exactly wanted =>
      obtain ⟨own, ownPinned, equal⟩ := (classify_exactly_eq_applicable staticFound).mp applicable
      simp only [Demand.isMet, ownPinned, Option.all_some, Bool.and_eq_true] at meets
      exact Value.eql_trans meets.2 equal
  | ofType id =>
      obtain ⟨definition, found⟩ := isDefined
      obtain ⟨-, implied⟩ :=
        (classify_ofType_eq_applicable mirrors staticFound found).mp applicable
      rw [← Demand.implies_eq growth.classes (mirrors.knows_demand staticFound)] at implied
      simpa [isMet, growth.definitions _ _ found] using
        Demand.isMet_of_implies laterWellFormed implied meets

/-- The types of a specializer that a closed world has to foresee. -/
def Foreseen (table later : TypeTable) (value : Value) : Specializer → Prop
  | .ofType id => table.Foresees later value id
  | _ => True

/-- An open world foresees every value. -/
theorem foreseen_of_openWorld (isOpen : table.openWorld = true) (specializer : Specializer) :
    specializer.Foreseen table later value := by
  cases specializer with
  | any => trivial
  | exactly wanted => trivial
  | ofType id =>
      intro closed
      rw [isOpen] at closed
      cases closed

/-- **An inapplicable specializer is not met** by any foreseen value of the static
type. -/
theorem isMet_of_inapplicable (mirrors : table.Mirrors) (growth : table.Extends later)
    (laterWellFormed : later.classes.WellFormed) (isDefined : specializer.Defined table)
    (foreseen : specializer.Foreseen table later value)
    (staticFound : table.find? static = some staticDef)
    (inapplicable : specializer.classify table static = .ok .inapplicable)
    (meets : (Demand.ofDef staticDef).isMet later.classes value = true) :
    specializer.isMet later value = false := by
  cases specializer with
  | any => cases inapplicable
  | exactly wanted =>
      exact absurd inapplicable (classify_exactly_ne_inapplicable staticFound)
  | ofType id =>
      obtain ⟨definition, found⟩ := isDefined
      obtain ⟨-, excluded⟩ :=
        (classify_ofType_eq_inapplicable mirrors staticFound found).mp inapplicable
      rw [Bool.eq_false_iff]
      intro met
      have meetsOther : (Demand.ofDef definition).isMet later.classes value = true := by
        simpa [isMet, growth.definitions _ _ found] using met
      rw [TypeTable.excludes_eq_false mirrors growth laterWellFormed staticFound found foreseen
        meets meetsOther] at excluded
      cases excluded

end Specializer

end StaticDispatch
