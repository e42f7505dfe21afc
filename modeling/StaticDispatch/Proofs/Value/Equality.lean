import StaticDispatch.Value.Basic

/-!
Contract: the two equalities of values are equivalence relations.

Plain equality compares values of many classes with each other, so it is read off
a key: what is left of a value when its class and the way it is written are
forgotten. Two values are the same exactly if their keys are equal.

Owns: keys, and the laws of both equalities.
Does not own: hashability.
-/

namespace StaticDispatch

/-- What plain equality looks at. -/
inductive Value.Key where
  | nothing
  | number (value : Number.Exact)
  | text (value : String)
  | bytes (value : List UInt8)
  | tuple (items : List Key)
  | list (items : List Key)
  | empty (kind : EmptyKind)
  | identity (value : Nat)

def EmptyKind.key : EmptyKind → Value.Key
  | .number => .number (.ofInt 0)
  | .text => .text ""
  | .bytes => .bytes []
  | .tuple => .tuple []
  | .list => .list []
  | .mapping => .empty .mapping
  | .collection => .empty .collection

/-- An instance that holds an empty value counts as that value. -/
def Instance.key (found : Instance) : Value.Key :=
  match found.emptyKind? with
  | some kind => kind.key
  | none => .identity found.identity

private theorem EmptyKind.key_inj {first second : EmptyKind} (equal : first.key = second.key) :
    first = second := by
  cases first <;> cases second <;> simp_all [EmptyKind.key]

namespace Value

mutual

def key : Value → Key
  | .nil => .nothing
  | .bool value => .number (.ofInt (if value then 1 else 0))
  | .int value => .number (.ofInt value)
  | .float value => .number value.exact
  | .str value => .text value
  | .bytes value => .bytes value
  | .tuple items => .tuple (keys items)
  | .list items => .list (keys items)
  | .object found => found.key

def keys : List Value → List Key
  | [] => []
  | item :: rest => key item :: keys rest

end

private theorem object_same_iff (first second : Instance) :
    first.same second = true ↔ first.key = second.key := by
  unfold Instance.same Instance.key
  cases first.emptyKind? with
  | none => cases second.emptyKind? with
    | none => simp
    | some kind => cases kind <;> simp [EmptyKind.key]
  | some kind => cases second.emptyKind? with
    | none => cases kind <;> simp [EmptyKind.key]
    | some other => simpa using ⟨congrArg EmptyKind.key, EmptyKind.key_inj⟩

/-- A value stands for a number exactly if its key is that number. -/
theorem exactNumber?_eq_some_iff {value : Value} {number : Number.Exact} :
    value.exactNumber? = some number ↔ key value = .number number := by
  cases value with
  | object found =>
      cases holds : found.emptyKind? with
      | none => simp [exactNumber?, key, Instance.key, holds]
      | some kind => cases kind <;> simp [exactNumber?, key, Instance.key, EmptyKind.key, holds]
  | _ => simp [exactNumber?, key]

/-- A value that counts as the empty one of a kind has the key of that kind. -/
theorem key_of_emptyKind? {value : Value} {kind : EmptyKind}
    (holds : value.emptyKind? = some kind) : key value = kind.key := by
  unfold emptyKind? at holds
  split at holds
  case h_5 found => simp [key, Instance.key, holds]
  all_goals
    cases holds
    try rfl

/-- Numbers apart, having the key of an empty value is being it. -/
theorem emptyKind?_of_key {value : Value} {kind : EmptyKind} (equal : key value = kind.key)
    (noNumber : kind ≠ .number) : value.emptyKind? = some kind := by
  cases value with
  | object found =>
      cases holds : found.emptyKind? with
      | none => cases kind <;> simp [key, Instance.key, EmptyKind.key, holds] at equal
      | some own =>
          have same : own.key = kind.key := by simpa [key, Instance.key, holds] using equal
          exact holds.trans (congrArg some (EmptyKind.key_inj same))
  | tuple items => cases items <;> cases kind <;> simp_all [key, keys, EmptyKind.key, emptyKind?]
  | list items => cases items <;> cases kind <;> simp_all [key, keys, EmptyKind.key, emptyKind?]
  | _ => cases kind <;> simp_all [key, EmptyKind.key, emptyKind?]

/-- What two values of different shapes can have in common: a number, or the kind
of an empty value. -/
def alike (first second : Value) : Bool :=
  match first.exactNumber?, second.exactNumber?, first.emptyKind?, second.emptyKind? with
  | some left, some right, _, _ => left = right
  | _, _, some left, some right => left = right
  | _, _, _, _ => false

private theorem key_eq_of_alike {first second : Value} (holds : alike first second = true) :
    key first = key second := by
  unfold alike at holds
  split at holds
  case h_1 left right leftNumber rightNumber =>
    rw [exactNumber?_eq_some_iff.mp leftNumber, exactNumber?_eq_some_iff.mp rightNumber,
      of_decide_eq_true holds]
  case h_2 left right leftKind rightKind _ =>
    rw [key_of_emptyKind? leftKind, key_of_emptyKind? rightKind, of_decide_eq_true holds]
  case h_3 => cases holds

private theorem alike_of_number {first second : Value} {number : Number.Exact}
    (firstKey : key first = .number number) (secondKey : key second = .number number) :
    alike first second = true := by
  simp [alike, exactNumber?_eq_some_iff.mpr firstKey, exactNumber?_eq_some_iff.mpr secondKey]

private theorem alike_of_kind {first second : Value} {kind : EmptyKind}
    (firstKey : key first = kind.key) (secondKey : key second = kind.key) :
    alike first second = true := by
  by_cases isNumber : kind = .number
  · subst isNumber
    exact alike_of_number firstKey secondKey
  · have noNumber : ∀ {value : Value}, key value = kind.key → value.exactNumber? = none := by
      intro value valueKey
      rw [Option.eq_none_iff_forall_ne_some]
      intro number found
      rw [exactNumber?_eq_some_iff, valueKey] at found
      cases kind <;> simp_all [EmptyKind.key]
    simp [alike, noNumber firstKey, noNumber secondKey, emptyKind?_of_key firstKey isNumber,
      emptyKind?_of_key secondKey isNumber]

/-- Where equal keys are those of a number or of an empty value, values of
different shapes compare by their keys. -/
theorem alike_iff (first second : Value)
    (shared : key first = key second →
      (∃ number, key first = .number number) ∨ ∃ kind : EmptyKind, key first = kind.key) :
    alike first second = true ↔ key first = key second := by
  refine ⟨key_eq_of_alike, fun equal => ?_⟩
  rcases shared equal with ⟨number, firstKey⟩ | ⟨kind, firstKey⟩
  · exact alike_of_number firstKey (equal.symm.trans firstKey)
  · exact alike_of_kind firstKey (equal.symm.trans firstKey)

private theorem kind_of_object_key {found : Instance}
    (held : ∀ number, found.key ≠ .identity number) :
    ∃ kind : EmptyKind, found.key = kind.key := by
  cases holds : found.emptyKind? with
  | none => exact absurd (by simp [Instance.key, holds]) (held found.identity)
  | some kind => exact ⟨kind, by simp [Instance.key, holds]⟩

/-- An instance shares its key with a value of another shape only if it holds an
empty value. -/
theorem alike_object_iff (plain : Value) (found : Instance)
    (isPlain : ∀ number, key plain ≠ .identity number) :
    (alike plain (.object found) = true ↔ key plain = key (.object found)) ∧
      (alike (.object found) plain = true ↔ key (.object found) = key plain) := by
  constructor
  · refine alike_iff _ _ fun equal => .inr ?_
    rw [equal]
    exact kind_of_object_key fun number isIdentity =>
      isPlain number (equal.trans isIdentity)
  · refine alike_iff _ _ fun equal => .inr ?_
    exact kind_of_object_key fun number isIdentity =>
      isPlain number (equal.symm.trans isIdentity)

mutual

private theorem same_iff (first second : Value) :
    same first second = true ↔ key first = key second := by
  cases first with
  | nil =>
      cases second with
      | nil => simp [same, key]
      | object found => exact (alike_object_iff .nil found (by simp [key])).1
      | _ => exact alike_iff .nil _ fun equal => by simp [key] at equal
  | str value =>
      cases second with
      | str other => simp [same, key]
      | object found => exact (alike_object_iff (.str value) found (by simp [key])).1
      | _ => exact alike_iff (.str value) _ fun equal => by simp [key] at equal
  | bytes value =>
      cases second with
      | bytes other => simp [same, key]
      | object found => exact (alike_object_iff (.bytes value) found (by simp [key])).1
      | _ => exact alike_iff (.bytes value) _ fun equal => by simp [key] at equal
  | tuple items =>
      cases second with
      | tuple others => simpa [same, key] using sameItems_iff items others
      | object found => exact (alike_object_iff (.tuple items) found (by simp [key])).1
      | _ => exact alike_iff (.tuple items) _ fun equal => by simp [key] at equal
  | list items =>
      cases second with
      | list others => simpa [same, key] using sameItems_iff items others
      | object found => exact (alike_object_iff (.list items) found (by simp [key])).1
      | _ => exact alike_iff (.list items) _ fun equal => by simp [key] at equal
  | object found =>
      cases second with
      | object other => simpa [same, key] using object_same_iff found other
      | _ => exact (alike_object_iff _ found (by simp [key])).2
  | _ => exact alike_iff _ _ fun _ => .inl ⟨_, by rw [key]⟩

private theorem sameItems_iff (first second : List Value) :
    sameItems first second = true ↔ keys first = keys second := by
  cases first with
  | nil => cases second <;> simp [sameItems, keys]
  | cons item rest =>
      cases second with
      | nil => simp [sameItems, keys]
      | cons other others =>
          simp only [sameItems, keys, Bool.and_eq_true, List.cons.injEq]
          rw [same_iff item other, sameItems_iff rest others]

end

theorem eql_iff {first second : Value} :
    first.eql second = true ↔ first.cls = second.cls ∧ first.key = second.key := by
  simp [eql, same_iff]

theorem eql_self (value : Value) : value.eql value = true :=
  eql_iff.mpr ⟨rfl, rfl⟩

theorem eql_comm (first second : Value) : first.eql second = second.eql first := by
  rw [Bool.eq_iff_iff, eql_iff, eql_iff, eq_comm, @eq_comm _ first.key]

theorem eql_trans {first second third : Value} (before : first.eql second = true)
    (after : second.eql third = true) : first.eql third = true := by
  rw [eql_iff] at before after ⊢
  exact ⟨before.1.trans after.1, before.2.trans after.2⟩

/-- Two values that equal a third one are equal. -/
theorem eql_of_common {value first second : Value} (toFirst : value.eql first = true)
    (toSecond : value.eql second = true) : first.eql second = true :=
  eql_trans (eql_comm value first ▸ toFirst) toSecond

/-- Equal values are equal to the same values. -/
theorem eql_congr (value : Value) {first second : Value} (equal : first.eql second = true) :
    value.eql first = value.eql second := by
  rw [Bool.eq_iff_iff]
  exact ⟨fun toFirst => eql_trans toFirst equal,
    fun toSecond => eql_trans toSecond (eql_comm first second ▸ equal)⟩

theorem cls_eq_of_eql {first second : Value} (equal : first.eql second = true) :
    first.cls = second.cls :=
  (eql_iff.mp equal).1

end Value

end StaticDispatch
