import StaticDispatch.Proofs.TypeTable.Rooted

/-!
Contract: literal types are canonical.

Equality of values of one class is an equivalence relation. A value that can be a key
and can be written has one literal type over each base: two requests get the same number
exactly if their values are equal and their bases are the same, whatever was asked
before, between and after them.

Owns: what requests keep of a table, and the numbers of literal types.
Does not own: literal types of values that can change, of which there is a new one for
each request.
-/

namespace StaticDispatch.TypeTable

open Relation (ReflTransGen)

variable {table next later : TypeTable} {id : TypeId} {value : Value} {base : TypeId}

/-! ## What runs keep -/

theorem Keeps.refl (table : TypeTable) : table.Keeps table :=
  fun _ _ found => found

theorem Keeps.trans (before : table.Keeps next) (after : next.Keeps later) : table.Keeps later :=
  fun id definition found => after id definition (before id definition found)

private theorem keeps_ensureTop (table : TypeTable) : table.Keeps table.ensureTop.2 := by
  unfold ensureTop
  cases table.topId? with
  | some id => exact .refl table
  | none => exact (extends_add table .top).keeps

private theorem keeps_newClass {name : String} {supertypes : List TypeId} {host : Option ClassId}
    (accepted : table.newClass name supertypes host = .ok (id, next)) : table.Keeps next := by
  obtain ⟨-, rfl⟩ := Prod.mk.inj (newClass_eq_ok accepted)
  exact (extends_add table _).keeps

private theorem keeps_ensureClass (table : TypeTable) (cls : ClassId) :
    table.Keeps (table.ensureClass cls).2 :=
  ensureClass_keeps (fun before kept => kept.trans (keeps_ensureTop before))
    (fun _ _ _ _ _ _ kept accepted => kept.trans (keeps_newClass accepted)) (.refl table) cls

private theorem keeps_literalBase (table : TypeTable) (value : Value) (base : Option TypeId) :
    table.Keeps (table.literalBase value base).2 := by
  cases base with
  | some own => exact .refl table
  | none => exact keeps_ensureClass table value.cls

private theorem keeps_newLiteral (table : TypeTable) (value : Value) (base : Option TypeId) :
    table.Keeps (table.newLiteral value base).2 := by
  have baseKept := keeps_literalBase table value base
  rcases newLiteral_cases table value base with same | ⟨id, -, grown⟩
  · rw [same]
    exact baseKept
  · rw [grown]
    exact baseKept.trans (extends_add _ _).keeps

/-- One change of a table: a request, or one for a literal type over whatever base. -/
inductive Change (table : TypeTable) : TypeTable → Prop where
  | requested {next : TypeTable} (request : Request table next) : Change table next
  | based (value : Value) (base : TypeId) : Change table (table.newLiteral value (some base)).2

theorem Change.keeps (change : Change table next) : table.Keeps next := by
  cases change with
  | requested request =>
      cases request with
      | top => exact keeps_ensureTop table
      | newClass accepted => exact keeps_newClass accepted
      | hostClass cls => exact keeps_ensureClass table cls
      | literal value base _ => exact keeps_newLiteral table value base
      | classesMade classes => exact .refl table
  | based value base => exact keeps_newLiteral table value (some base)

/-- **No run of changes touches a type** that is there. -/
theorem keeps_of_run (run : ReflTransGen Change table next) : table.Keeps next := by
  induction run with
  | refl => exact .refl table
  | tail _ change inductionHypothesis => exact inductionHypothesis.trans change.keeps

/-! ## Numbers of literal types -/

/-- A definition of a new kind is the first of its kind. -/
private theorem findId?_add_of_none {wanted : TypeDef → Bool}
    (missing : table.findId? wanted = none) {added : TypeDef} (isWanted : wanted added = true) :
    (table.add added).2.findId? wanted = some (table.add added).1 := by
  have before := Array.findIdx?_eq_none_iff.mp (Option.map_eq_none_iff.mp missing)
  refine Option.map_eq_some_iff.mpr ⟨table.definitions.size,
    Array.findIdx?_eq_some_iff_getElem.mpr ⟨by simp [add], by simpa [add] using isWanted, ?_⟩, rfl⟩
  intro place isBefore
  have older := before table.definitions[place] (Array.getElem_mem isBefore)
  simpa [add, Array.getElem_push_lt isBefore] using older

private theorem isHashable_of_keyable (keyable : value.mutablePart? = none) :
    value.isHashable = true := by
  cases value with
  | list items => cases keyable
  | object found => simpa [Value.mutablePart?, Value.isHashable] using keyable
  | _ => rfl

/-- A value that can be a key gets the literal type that pins an equal value over the base,
or a new one. -/
theorem newLiteral_of_keyable (table : TypeTable) (keyable : value.mutablePart? = none)
    (base : TypeId) :
    table.newLiteral value (some base) = (table.literalOf? value base).elim
      (table.addLiteral value base) fun id => (.ok id, table) := by
  simp only [newLiteral, literalBase, isHashable_of_keyable keyable, keyable, Bool.not_true,
    Bool.false_eq_true, if_false]
  cases table.literalOf? value base <;> rfl

/-- A value that can be a key and can be written gets a literal type. -/
private theorem newLiteral_answers (table : TypeTable) (keyable : value.mutablePart? = none)
    (writable : value.isWritable = true) (base : TypeId) :
    ∃ id, (table.newLiteral value (some base)).1 = .ok id := by
  rw [newLiteral_of_keyable table keyable]
  cases table.literalOf? value base with
  | some id => exact ⟨id, rfl⟩
  | none => exact ⟨_, by rw [Option.elim_none, addLiteral_of_isWritable writable]⟩

/-- The literal type that a key gets is from then on the first that pins an equal value. -/
theorem literalOf?_of_newLiteral (keyable : value.mutablePart? = none)
    (made : (table.newLiteral value (some base)).1 = .ok id) :
    (table.newLiteral value (some base)).2.literalOf? value base = some id := by
  rw [newLiteral_of_keyable table keyable] at made ⊢
  cases found : table.literalOf? value base with
  | some own =>
      rw [found] at made
      cases made
      exact found
  | none =>
      rw [found, Option.elim_none] at made
      rw [Option.elim_none]
      cases writable : value.isWritable with
      | false =>
          rw [addLiteral_of_unwritable writable] at made
          cases made
      | true =>
          rw [addLiteral_of_isWritable writable] at made ⊢
          cases made
          exact findId?_add_of_none found (by simp [TypeDef.isLiteralOf, Value.eql_self])

private theorem find?_of_literalOf? (found : table.literalOf? value base = some id) :
    ∃ stored, table.find? id = some (.literalType stored base) ∧ stored.eql value = true := by
  obtain ⟨definition, present, isLiteral⟩ := find?_of_findId? found
  cases definition with
  | top => cases isLiteral
  | classType name supertypes host => cases isLiteral
  | literalType stored own =>
      simp only [TypeDef.isLiteralOf, Bool.and_eq_true, decide_eq_true_eq] at isLiteral
      exact ⟨stored, isLiteral.2 ▸ present, isLiteral.1⟩

/-- Equal values over one base are pinned by the same types. -/
private theorem literalOf?_congr {first second : Value} (equal : first.eql second = true) :
    table.literalOf? first base = table.literalOf? second base := by
  have sameKind : TypeDef.isLiteralOf first base = TypeDef.isLiteralOf second base := by
    funext definition
    cases definition with
    | literalType stored own =>
        rw [TypeDef.isLiteralOf, TypeDef.isLiteralOf, Value.eql_congr stored equal]
    | _ => rfl
  rw [literalOf?, literalOf?, sameKind]

/-- In one table, literal types are the same exactly if they pin equal values over one
base. -/
private theorem literalOf?_eq_iff {first second : Value}
    {firstBase secondBase firstId secondId : TypeId}
    (firstFound : table.literalOf? first firstBase = some firstId)
    (secondFound : table.literalOf? second secondBase = some secondId) :
    firstId = secondId ↔ first.eql second = true ∧ firstBase = secondBase := by
  constructor
  · rintro rfl
    obtain ⟨stored, present, toFirst⟩ := find?_of_literalOf? firstFound
    obtain ⟨other, otherPresent, toSecond⟩ := find?_of_literalOf? secondFound
    rw [present] at otherPresent
    cases otherPresent
    exact ⟨Value.eql_of_common toFirst toSecond, rfl⟩
  · rintro ⟨equal, rfl⟩
    rw [literalOf?_congr equal, secondFound] at firstFound
    exact (Option.some.inj firstFound).symm

/-- **Literal types are canonical.** A key gets a literal type if it can be written. Two
keys that get one get the same exactly if they are equal and their bases are the same,
and the type that a key has got goes on pinning an equal value. -/
theorem literal_types_canonical :
    Equivalence (fun first second : Value => first.eql second = true) ∧
    (∀ (table : TypeTable) (value : Value) (base : TypeId), value.mutablePart? = none →
      value.isWritable = true → ∃ id, (table.newLiteral value (some base)).1 = .ok id) ∧
    ∀ (before between later : TypeTable) (first second : Value)
      (firstBase secondBase firstId secondId : TypeId),
      first.mutablePart? = none → second.mutablePart? = none →
      (before.newLiteral first (some firstBase)).1 = .ok firstId →
      ReflTransGen Change (before.newLiteral first (some firstBase)).2 between →
      (between.newLiteral second (some secondBase)).1 = .ok secondId →
      ReflTransGen Change (between.newLiteral second (some secondBase)).2 later →
      (firstId = secondId ↔ first.eql second = true ∧ firstBase = secondBase) ∧
        (∃ stored, later.find? firstId = some (.literalType stored firstBase) ∧
          stored.eql first = true) ∧
        ∃ stored, later.find? secondId = some (.literalType stored secondBase) ∧
          stored.eql second = true := by
  refine ⟨⟨Value.eql_self, fun {first second} equal => Value.eql_comm first second ▸ equal,
    Value.eql_trans⟩, fun table value base keyable writable =>
      newLiteral_answers table keyable writable base, ?_⟩
  intro before between later first second firstBase secondBase firstId secondId firstKeyable
    secondKeyable firstMade middle secondMade final
  have kept := (keeps_of_run middle).trans
    ((keeps_newLiteral between second (some secondBase)).trans (keeps_of_run final))
  have firstLater : later.literalOf? first firstBase = some firstId :=
    kept.findId? (literalOf?_of_newLiteral firstKeyable firstMade)
  have secondLater : later.literalOf? second secondBase = some secondId :=
    (keeps_of_run final).findId? (literalOf?_of_newLiteral secondKeyable secondMade)
  exact ⟨literalOf?_eq_iff firstLater secondLater, find?_of_literalOf? firstLater,
    find?_of_literalOf? secondLater⟩

namespace Pairing

/-- A value beside an undefined number of some identity. -/
def pair (value : Value) (identity : Nat) : Value :=
  .tuple [value, .float (.undefined identity)]

def pinned : TypeTable :=
  ((empty false).ensureTop.2.newLiteral (pair (.int 1) 7) (some 1)).2

/-- After one was pinned by itself. -/
def between : TypeTable :=
  (pinned.newLiteral (.int 1) (some 1)).2

/-- Inside a pair one and truth are the same, and undefined numbers are told apart. -/
theorem pairs_canonical :
    ReflTransGen Change pinned between ∧ ∃ id sameId otherId,
      ((empty false).ensureTop.2.newLiteral (pair (.int 1) 7) (some 1)).1 = .ok id ∧
      (between.newLiteral (pair (.bool true) 7) (some 1)).1 = .ok sameId ∧ id = sameId ∧
      (between.newLiteral (pair (.int 1) 8) (some 1)).1 = .ok otherId ∧ id ≠ otherId := by
  have run : ReflTransGen Change pinned between := .single (.based (.int 1) 1)
  obtain ⟨-, answers, canonical⟩ := literal_types_canonical
  obtain ⟨id, isId⟩ := answers (empty false).ensureTop.2 (pair (.int 1) 7) 1 rfl (by decide)
  obtain ⟨sameId, isSame⟩ := answers between (pair (.bool true) 7) 1 rfl (by decide)
  obtain ⟨otherId, isOther⟩ := answers between (pair (.int 1) 8) 1 rfl (by decide)
  have same := (canonical _ _ _ _ _ _ _ _ _ rfl rfl isId run isSame .refl).1
  have other := (canonical _ _ _ _ _ _ _ _ _ rfl rfl isId run isOther .refl).1
  have differs : (pair (.int 1) 7).eql (pair (.int 1) 8) = false := by decide
  refine ⟨run, id, sameId, otherId, isId, isSame, same.mpr ⟨by decide, rfl⟩, isOther,
    fun equal => ?_⟩
  rw [(other.mp equal).1] at differs
  cases differs

end Pairing

end StaticDispatch.TypeTable
