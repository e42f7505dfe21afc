import Mathlib.Logic.Relation
import StaticDispatch.Proofs.TypeTable.Registration
import StaticDispatch.Proofs.TypeTable.Subtype

/-!
Contract: in every table that requests can make, supertypes are older.

A request puts a type above types that the table has, so supertypes are older than
what is below them, whatever the host classes and the pinned values are.

Owns: requests and their runs, and what each request keeps.
Does not own: the questions that are asked of a table.
-/

namespace StaticDispatch.TypeTable

variable {table next : TypeTable} {id : TypeId}

/-- What may be asked of a table, and what it leaves. A literal type may be put over
any type of the table, and host classes may be made at any time. -/
inductive Request (table : TypeTable) : TypeTable → Prop where
  | top : Request table table.ensureTop.2
  | newClass {next : TypeTable} {id : TypeId} {name : String} {supertypes : List TypeId}
      {host : Option ClassId} (accepted : table.newClass name supertypes host = .ok (id, next)) :
      Request table next
  | hostClass (cls : ClassId) : Request table (table.ensureClass cls).2
  | literal (value : Value) (base : Option TypeId) (issued : ∀ id ∈ base, table.Defines id) :
      Request table (table.newLiteral value base).2
  | classesMade (classes : Hierarchy) : Request table { table with classes }

/-- A table that some run of requests has made. -/
def Requested (table : TypeTable) : Prop :=
  ∃ openWorld, Relation.ReflTransGen Request (empty openWorld) table

theorem Rooted.add (rooted : table.Rooted) {added : TypeDef}
    (above : ∀ supertype ∈ added.supertypes, table.Defines supertype) :
    (table.add added).2.Rooted := by
  intro id definition found supertype isSupertype
  have kept : ∀ {other}, table.Defines other → (table.add added).2.Defines other :=
    fun ⟨own, present⟩ => ⟨own, find?_add_eq_some_iff.mpr (.inr present)⟩
  rcases find?_add_eq_some_iff.mp found with ⟨rfl, rfl⟩ | older
  · obtain ⟨own, present⟩ := above supertype isSupertype
    exact ⟨Int.lt_add_one_of_le (bounds_of_find? present).2, kept ⟨own, present⟩⟩
  · obtain ⟨isOlder, defined⟩ := rooted id definition older supertype isSupertype
    exact ⟨isOlder, kept defined⟩

private theorem empty_rooted (openWorld : Bool) : (empty openWorld).Rooted := by
  intro id definition found
  rw [find?_empty] at found
  cases found

private theorem ensureTop_rooted (rooted : table.Rooted) : table.ensureTop.2.Rooted := by
  unfold ensureTop
  split
  · exact rooted
  · exact rooted.add (by simp [TypeDef.supertypes])

/-- An accepted class type stands above types that were there. -/
theorem newClass_rooted (rooted : table.Rooted) {name : String} {supertypes : List TypeId}
    {host : Option ClassId} (accepted : table.newClass name supertypes host = .ok (id, next)) :
    next.Rooted := by
  unfold newClass at accepted
  split at accepted
  · cases accepted
  · obtain ⟨_, checked, made⟩ := Traversal.bind_eq_ok.mp accepted
    cases made
    refine rooted.add fun supertype isSupertype => ?_
    obtain ⟨definition, got, -⟩ :=
      Traversal.bind_eq_ok.mp (Traversal.forall_of_forM checked supertype isSupertype)
    exact ⟨definition, find?_of_get got⟩

/-- What every single request keeps, several in a row keep. -/
private theorem forEach_keeps {α : Type} (holds : TypeTable → Prop)
    {request : TypeTable → α → Update TypeId}
    (step : ∀ before item, holds before → holds (request before item).2) (items : List α)
    (start : holds table) : holds (forEach request table items).2 := by
  induction items generalizing table with
  | nil => exact start
  | cons item rest inductionHypothesis =>
      have afterFirst := step table item start
      unfold forEach
      split
      · rename_i left requested
        rw [requested] at afterFirst
        exact afterFirst
      · rename_i id left requested
        rw [requested] at afterFirst
        have afterRest := inductionHypothesis afterFirst
        split <;> rename_i walked <;> rw [walked] at afterRest <;> exact afterRest

/-- The type of a host class is made of top types and class types only. -/
theorem ensureClass_keeps {holds : TypeTable → Prop}
    (top : ∀ before, holds before → holds before.ensureTop.2)
    (newClass : ∀ before after id name supertypes host, holds before →
      before.newClass name supertypes host = .ok (id, after) → holds after)
    (start : holds table) (cls : ClassId) : holds (table.ensureClass cls).2 := by
  unfold ensureClass
  generalize table.classes.classes.size + 1 = steps
  induction steps generalizing table cls with
  | zero => exact start
  | succ steps inductionHypothesis =>
      unfold ensureClassWithin
      split
      · exact top table start
      · split
        · exact start
        · have basesKeep := forEach_keeps holds
            (fun before item kept => inductionHypothesis kept item)
            ((table.classes.bases cls).filter (· != Hierarchy.objectClass)) start
          dsimp only
          split
          · rename_i left walked
            rw [walked] at basesKeep
            exact basesKeep
          · rename_i supertypes left walked
            rw [walked] at basesKeep
            split
            · exact basesKeep
            · rename_i id final added
              exact newClass left final id _ supertypes _ basesKeep added

private theorem ensureClass_rooted (rooted : table.Rooted) (cls : ClassId) :
    (table.ensureClass cls).2.Rooted :=
  ensureClass_keeps (fun _ => ensureTop_rooted)
    (fun _ _ _ _ _ _ kept accepted => newClass_rooted kept accepted) rooted cls

private theorem ensureTop_defines (table : TypeTable) :
    table.ensureTop.2.Defines table.ensureTop.1 := by
  unfold ensureTop
  cases found : table.topId? with
  | some id =>
      obtain ⟨definition, present, -⟩ := find?_of_findId? found
      exact ⟨definition, present⟩
  | none => exact ⟨.top, find?_add_self table .top⟩

/-- The type of a host class is in the table that the request leaves. -/
private theorem ensureClass_defines {cls : ClassId} (ensured : (table.ensureClass cls).1 = .ok id) :
    (table.ensureClass cls).2.Defines id := by
  unfold ensureClass ensureClassWithin at ensured ⊢
  split at ensured
  · rename_i isRoot
    cases ensured
    rw [if_pos isRoot]
    exact ensureTop_defines table
  · rename_i notRoot
    rw [if_neg notRoot]
    split at ensured
    · rename_i own existing
      cases ensured
      obtain ⟨definition, present, -⟩ := find?_of_findId? existing
      exact ⟨definition, present⟩
    · dsimp only at ensured ⊢
      split at ensured
      · cases ensured
      · rename_i supertypes left walked
        split at ensured
        · cases ensured
        · rename_i own final added
          cases ensured
          obtain ⟨isId, isFinal⟩ := Prod.mk.inj (newClass_eq_ok added)
          rw [isId, isFinal]
          exact ⟨_, find?_add_self left _⟩

/-- A request for a literal type leaves what the request for its base left, and adds at
most the literal type over that base. -/
theorem newLiteral_cases (table : TypeTable) (value : Value) (base : Option TypeId) :
    (table.newLiteral value base).2 = (table.literalBase value base).2 ∨
      ∃ id, (table.literalBase value base).1 = .ok id ∧
        (table.newLiteral value base).2 =
          ((table.literalBase value base).2.add (.literalType value id)).2 := by
  unfold newLiteral
  cases requested : table.literalBase value base with
  | mk outcome left =>
      cases outcome with
      | error fault => exact Or.inl rfl
      | ok id =>
          have added : (left.addLiteral value id).2 = left ∨
              ∃ base, Except.ok id = (.ok base : Except Fault TypeId) ∧
                (left.addLiteral value id).2 = (left.add (.literalType value base)).2 := by
            cases writable : value.isWritable with
            | false => exact Or.inl (by rw [addLiteral_of_unwritable writable])
            | true => exact Or.inr ⟨id, rfl, by rw [addLiteral_of_isWritable writable]⟩
          dsimp only
          split
          · exact added
          · split
            · exact Or.inl rfl
            · exact Or.inl rfl
            · exact added

private theorem newLiteral_rooted (rooted : table.Rooted) {value : Value} {base : Option TypeId}
    (issued : ∀ id ∈ base, table.Defines id) : (table.newLiteral value base).2.Rooted := by
  have baseSpec : (table.literalBase value base).2.Rooted ∧
      ∀ id, (table.literalBase value base).1 = .ok id →
        (table.literalBase value base).2.Defines id := by
    cases base with
    | none => exact ⟨ensureClass_rooted rooted value.cls, fun _ => ensureClass_defines⟩
    | some own =>
        refine ⟨rooted, fun id isOwn => ?_⟩
        cases isOwn
        exact issued own rfl
  rcases newLiteral_cases table value base with same | ⟨id, isBase, grown⟩
  · rw [same]
    exact baseSpec.1
  · rw [grown]
    apply baseSpec.1.add
    intro supertype isSupertype
    rw [List.mem_singleton.mp isSupertype]
    exact baseSpec.2 id isBase

/-- **Each request keeps supertypes older** than the types below them. -/
theorem Request.rooted (request : Request table next) (rooted : table.Rooted) : next.Rooted := by
  cases request with
  | top => exact ensureTop_rooted rooted
  | newClass accepted => exact newClass_rooted rooted accepted
  | hostClass cls => exact ensureClass_rooted rooted cls
  | literal value base issued => exact newLiteral_rooted rooted issued
  | classesMade classes => exact rooted

theorem Requested.rooted (requested : table.Requested) : table.Rooted := by
  obtain ⟨openWorld, run⟩ := requested
  induction run with
  | refl => exact empty_rooted openWorld
  | tail _ request inductionHypothesis => exact request.rooted inductionHypothesis

end StaticDispatch.TypeTable
