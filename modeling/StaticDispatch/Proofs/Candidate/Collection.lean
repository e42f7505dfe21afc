import StaticDispatch.Proofs.Candidate.Order

/-!
Contract: the candidates of a call site, and the arguments that satisfy them.

Collecting the candidates of a call site fails only where the table is broken. At a call
site over a mirroring table every method is classified. For arguments that are consistent
with the static types, a definite candidate is satisfied, and every method that is
satisfied is a candidate.

Owns: call sites, consistent arguments, and what classes say about arguments.
Does not own: cascades.
-/

namespace StaticDispatch

open TypeTable (Demand)

/-- A call site that can be asked about: the function is well formed, and its methods and
the static types only speak of types of the table. -/
structure Posed (table : TypeTable) (generic : GenericFunction) (permutation : List Nat)
    (types : List TypeId) : Prop where
  wellFormed : generic.WellFormed
  permuted : Precedence.permutation generic.params.required (some generic.precedence) =
    .ok permutation
  count : types.length = generic.arity
  defined : ∀ type ∈ types, table.Defines type
  registered : ∀ method ∈ generic.methods, ∀ specializer ∈ method.specializers,
    specializer.Registered table

structure Site (table : TypeTable) (generic : GenericFunction) (permutation : List Nat)
    (types : List TypeId) : Prop where
  mirrors : table.Mirrors
  wellFormed : generic.WellFormed
  permuted : Precedence.permutation generic.params.required (some generic.precedence) =
    .ok permutation
  count : types.length = generic.arity
  defined : ∀ type ∈ types, table.Defines type
  grounded : ∀ method ∈ generic.methods, AllGrounded table method.specializers

/-- Arguments in the order of declaration, and in precedence order, that are
instances of the static types when they are passed. -/
structure Consistent (later : TypeTable) (permutation : List Nat) (types : List TypeId)
    (arguments ordered : List Value) : Prop where
  arranged : Precedence.toPrecedence? permutation arguments = some ordered
  known : ∀ value ∈ ordered, later.classes.Knows value.cls
  instances : List.Forall₂ (fun value type => later.isInstance value type = .ok true) ordered types

/-- Arguments that may be passed at a call site: they are instances of the static types,
and each of them is admitted. -/
def MayPass (later : TypeTable) (generic : GenericFunction) (types : List TypeId)
    (admits : Value → Prop) (arguments : List Value) : Prop :=
  ∃ permutation ordered,
    Precedence.permutation generic.params.required (some generic.precedence) = .ok permutation ∧
      Consistent later permutation types arguments ordered ∧ ∀ value ∈ ordered, admits value

/-- Arguments whose classes the table foresees wherever a method names a type. -/
def ForeseenBy (table later : TypeTable) (generic : GenericFunction) (ordered : List Value) :
    Prop :=
  ∀ method ∈ generic.methods, ∀ specializer ∈ method.specializers, ∀ value ∈ ordered,
    specializer.Foreseen table later value

/-- A call site, the table when the call is made, and the arguments that are passed. -/
structure Situation (table later : TypeTable) (generic : GenericFunction)
    (permutation : List Nat) (types : List TypeId) (arguments ordered : List Value) : Prop where
  site : Site table generic permutation types
  growth : table.Extends later
  mirrors : later.Mirrors
  consistent : Consistent later permutation types arguments ordered
  foreseen : ForeseenBy table later generic ordered

variable {table later : TypeTable} {generic : GenericFunction} {permutation : List Nat}
  {types : List TypeId} {arguments ordered : List Value} {method : Method}

/-! ## Places -/

private theorem all_zip_iff {α β : Type} {items : List α} {others : List β}
    {question : α × β → Bool} :
    (items.zip others).all question = true ↔ ∀ (place : Nat) (item : α) (other : β),
      items[place]? = some item → others[place]? = some other → question (item, other) = true := by
  rw [List.all_eq_true]
  constructor
  · intro all place item other found otherFound
    exact all (item, other)
      (List.mem_of_getElem? (List.getElem?_zip_eq_some.mpr ⟨found, otherFound⟩))
  · rintro all ⟨item, other⟩ inside
    obtain ⟨place, found⟩ := List.getElem?_of_mem inside
    obtain ⟨itemFound, otherFound⟩ := List.getElem?_zip_eq_some.mp found
    exact all place item other itemFound otherFound

theorem forall₂_getElem? {α β : Type} {relation : α → β → Prop} {items : List α} {others : List β}
    (related : List.Forall₂ relation items others) {place : Nat} {item : α}
    (found : items[place]? = some item) :
    ∃ other, others[place]? = some other ∧ relation item other := by
  induction related generalizing place with
  | nil => simp at found
  | cons holds _ inductionHypothesis =>
      cases place with
      | zero =>
          cases found
          exact ⟨_, rfl, holds⟩
      | succ place => exact inductionHypothesis found

theorem Posed.perm_range (posed : Posed table generic permutation types) :
    permutation.Perm (List.range generic.arity) :=
  Precedence.perm_range posed.permuted

/-- The specializers of a method can be put in precedence order. -/
theorem Posed.arrange_method (posed : Posed table generic permutation types)
    (isMethod : method ∈ generic.methods) :
    ∃ specializers, Precedence.toPrecedence? permutation method.specializers = some specializers ∧
      specializers.length = generic.arity := by
  have rearranges : permutation.Perm (List.range method.specializers.length) := by
    rw [posed.wellFormed.lengths method isMethod]
    exact posed.perm_range
  obtain ⟨specializers, arranged⟩ := Precedence.toPrecedence?_of_perm rearranges
  refine ⟨specializers, arranged, ?_⟩
  rw [Precedence.length_of_toPrecedence? arranged, posed.perm_range.length_eq, List.length_range]

theorem Site.posed (site : Site table generic permutation types) :
    Posed table generic permutation types where
  wellFormed := site.wellFormed
  permuted := site.permuted
  count := site.count
  defined := site.defined
  registered method isMethod specializer inside :=
    (site.grounded method isMethod specializer inside).defined.registered

theorem Site.perm_range (site : Site table generic permutation types) :
    permutation.Perm (List.range generic.arity) :=
  site.posed.perm_range

/-! ## Classified methods -/

namespace Candidate

/-- A method with its specializers in precedence order and the class of each place. -/
structure Classified (table : TypeTable) (permutation : List Nat) (types : List TypeId)
    (candidate : Candidate) : Prop where
  arranged : Precedence.toPrecedence? permutation candidate.method.specializers =
    some candidate.specializers
  classified : (candidate.specializers.zip types).mapM (fun (specializer, type) =>
    specializer.classify table type) = .ok candidate.classes

def ofMethod (table : TypeTable) (permutation : List Nat) (types : List TypeId) (method : Method) :
    Option Candidate :=
  match ofMethod? table permutation types method with
  | .ok outcome => outcome
  | .error _ => none

/-- Every method is classified; it is a candidate unless a place is inapplicable. -/
theorem ofMethod?_spec (site : Site table generic permutation types)
    (isMethod : method ∈ generic.methods) :
    ofMethod? table permutation types method = .ok (ofMethod table permutation types method) ∧
      ∃ candidate : Candidate, candidate.method = method ∧
        Classified table permutation types candidate ∧
        ofMethod table permutation types method =
          if candidate.classes.contains .inapplicable then none else some candidate := by
  obtain ⟨specializers, arranged, -⟩ := site.posed.arrange_method isMethod
  have answers : ∀ pair ∈ specializers.zip types,
      ∃ answer, pair.1.classify table pair.2 = .ok answer := by
    rintro ⟨specializer, type⟩ inside
    obtain ⟨isSpecializer, isType⟩ := List.of_mem_zip inside
    obtain ⟨definition, found⟩ := site.defined type isType
    have grounded := site.grounded method isMethod specializer
      (Precedence.mem_of_toPrecedence? arranged isSpecializer)
    exact Specializer.classify_answers site.mirrors grounded.defined found
  obtain ⟨classes, classified⟩ := Traversal.mapM_answers answers
  have answer : ofMethod? table permutation types method =
      .ok (if classes.contains .inapplicable then none
        else some { method, specializers, classes }) := by
    simp only [ofMethod?, arranged, classified]
    split <;> rfl
  refine ⟨by rw [ofMethod, answer], ⟨method, specializers, classes⟩, rfl,
    ⟨arranged, classified⟩, ?_⟩
  rw [ofMethod, answer]

def Fault.Blames (table : TypeTable) : Fault → Prop
  | .types fault => table.Breaks fault
  | _ => False

private theorem ofMethod?_confined (posed : Posed table generic permutation types)
    (isMethod : method ∈ generic.methods) :
    Traversal.Confined (Fault.Blames table) (ofMethod? table permutation types method) := by
  obtain ⟨specializers, arranged, -⟩ := posed.arrange_method isMethod
  have classified : Traversal.Confined table.Breaks ((specializers.zip types).mapM
      fun (specializer, type) => specializer.classify table type) := by
    apply Traversal.Confined.mapM
    rintro ⟨specializer, type⟩ inside
    obtain ⟨isSpecializer, isType⟩ := List.of_mem_zip inside
    have registered := posed.registered method isMethod specializer
      (Precedence.mem_of_toPrecedence? arranged isSpecializer)
    exact registered.classify_confined (posed.defined type isType)
  simp only [ofMethod?, arranged]
  split
  · rename_i fault failed
    intro other isFault
    cases isFault
    exact classified fault failed
  · split
    · exact .ok none
    · exact .ok _

/-- **Collecting fails only where the table is broken**: there are as many types as
parameters, and every method has all its places. -/
theorem collect_confined (posed : Posed table generic permutation types) :
    Traversal.Confined (Fault.Blames table) (collect table generic permutation types) := by
  rw [collect, if_neg (by simp [posed.count])]
  exact .filterMapM fun method isMethod => ofMethod?_confined posed isMethod

theorem collect_eq (site : Site table generic permutation types) :
    collect table generic permutation types =
      .ok (generic.methods.filterMap (ofMethod table permutation types)) := by
  rw [collect, if_neg (by simp [site.count])]
  exact Traversal.filterMapM_ok fun method isMethod => (ofMethod?_spec site isMethod).1

/-- What is known of every collected candidate. -/
theorem ofMethod_eq_some (site : Site table generic permutation types)
    (isMethod : method ∈ generic.methods) {candidate : Candidate}
    (made : ofMethod table permutation types method = some candidate) :
    candidate.method = method ∧ Classified table permutation types candidate ∧
      .inapplicable ∉ candidate.classes := by
  obtain ⟨-, own, isOwn, classified, made'⟩ := ofMethod?_spec site isMethod
  rw [made'] at made
  split at made
  · cases made
  · rename_i noneInapplicable
    cases made
    exact ⟨isOwn, classified, by simpa using noneInapplicable⟩

theorem Classified.suited (site : Site table generic permutation types) {candidate : Candidate}
    (classified : Classified table permutation types candidate)
    (isMethod : candidate.method ∈ generic.methods) : Suited table generic.arity candidate := by
  obtain ⟨specializers, arranged, length⟩ := site.posed.arrange_method isMethod
  rw [classified.arranged] at arranged
  cases arranged
  exact ⟨length, fun specializer inside => site.grounded _ isMethod specializer
    (Precedence.mem_of_toPrecedence? classified.arranged inside)⟩

/-! ## Arguments -/

/-- Whether arguments in precedence order satisfy every place of a candidate. -/
def isMet (later : TypeTable) (ordered : List Value) (candidate : Candidate) : Bool :=
  (candidate.specializers.zip ordered).all fun (specializer, value) =>
    specializer.isMet later value

private theorem isMet_iff {candidate : Candidate} : candidate.isMet later ordered = true ↔
    ∀ (place : Nat) (specializer : Specializer) (value : Value),
      candidate.specializers[place]? = some specializer → ordered[place]? = some value →
      specializer.isMet later value = true :=
  all_zip_iff

section Situated

variable {candidate first second : Candidate}
  (situation : Situation table later generic permutation types arguments ordered)

include situation

/-- At each place of a classified method stands a value of the static type that the
place was classified against. -/
theorem Classified.place (classified : Classified table permutation types candidate)
    {place : Nat} {specializer : Specializer} {value : Value}
    (specializerAt : candidate.specializers[place]? = some specializer)
    (valueAt : ordered[place]? = some value) :
    ∃ type definition applicability, table.find? type = some definition ∧
      candidate.classes[place]? = some applicability ∧
      specializer.classify table type = .ok applicability ∧
      (Demand.ofDef definition).isMet later.classes value = true := by
  have consistent := situation.consistent
  obtain ⟨type, typeAt, isInstance⟩ := forall₂_getElem? consistent.instances valueAt
  obtain ⟨definition, found⟩ := situation.site.defined type (List.mem_of_getElem? typeAt)
  have pairAt : (candidate.specializers.zip types)[place]? = some (specializer, type) :=
    List.getElem?_zip_eq_some.mpr ⟨specializerAt, typeAt⟩
  obtain ⟨applicability, classAt, isClass⟩ :=
    forall₂_getElem? (Traversal.mapM_eq_ok_iff.mp classified.classified) pairAt
  rw [TypeTable.isInstance_eq situation.mirrors
    (consistent.known value (List.mem_of_getElem? valueAt))
    (situation.growth.definitions _ _ found)] at isInstance
  exact ⟨type, definition, applicability, found, classAt, isClass, Except.ok.inj isInstance⟩

/-- A place that is known to apply is satisfied. -/
theorem Classified.isMet_at (classified : Classified table permutation types candidate)
    (isMethod : candidate.method ∈ generic.methods) {place : Nat} {specializer : Specializer}
    {value : Value} (specializerAt : candidate.specializers[place]? = some specializer)
    (valueAt : ordered[place]? = some value)
    (applicable : ∀ applicability, candidate.classes[place]? = some applicability →
      applicability = .applicable) :
    specializer.isMet later value = true := by
  obtain ⟨type, definition, applicability, found, classAt, isClass, meets⟩ :=
    classified.place situation specializerAt valueAt
  rw [applicable applicability classAt] at isClass
  exact Specializer.isMet_of_applicable situation.site.mirrors situation.growth
    situation.mirrors.wellFormed ((classified.suited situation.site isMethod).grounded specializer
      (List.mem_of_getElem? specializerAt)).defined found isClass meets

/-- **A definite candidate is satisfied** by all consistent arguments. -/
theorem Classified.isMet_of_isDefinite (classified : Classified table permutation types candidate)
    (isMethod : candidate.method ∈ generic.methods) (definite : candidate.isDefinite = true) :
    candidate.isMet later ordered = true := by
  rw [isMet_iff]
  intro place specializer value specializerAt valueAt
  refine classified.isMet_at situation isMethod specializerAt valueAt ?_
  intro applicability classAt
  simpa using List.all_eq_true.mp definite applicability (List.mem_of_getElem? classAt)

omit situation in
theorem mem_ambiguousPlaces_iff {place : Nat} :
    place ∈ candidate.ambiguousPlaces ↔ candidate.classes[place]? = some .ambiguous := by
  simp [ambiguousPlaces, List.mem_zipIdx_iff_getElem?]

/-- Only the open places of a candidate need a test. -/
theorem Classified.isMet_iff_open (classified : Classified table permutation types candidate)
    (isMethod : candidate.method ∈ generic.methods)
    (noneInapplicable : .inapplicable ∉ candidate.classes) :
    candidate.isMet later ordered = true ↔ ∀ place ∈ candidate.ambiguousPlaces,
      ∀ specializer value, candidate.specializers[place]? = some specializer →
        ordered[place]? = some value → specializer.isMet later value = true := by
  rw [isMet_iff]
  refine ⟨fun all place _ => all place,
    fun tested place specializer value specializerAt valueAt => ?_⟩
  by_cases isOpen : place ∈ candidate.ambiguousPlaces
  · exact tested place isOpen specializer value specializerAt valueAt
  · refine classified.isMet_at situation isMethod specializerAt valueAt ?_
    intro applicability classAt
    cases applicability with
    | applicable => rfl
    | inapplicable => exact absurd (List.mem_of_getElem? classAt) noneInapplicable
    | ambiguous => exact absurd (mem_ambiguousPlaces_iff.mpr classAt) isOpen

/-- **A method with an inapplicable place is not satisfied.** -/
theorem Classified.not_isMet (classified : Classified table permutation types candidate)
    (isMethod : candidate.method ∈ generic.methods)
    (inapplicable : .inapplicable ∈ candidate.classes) :
    candidate.isMet later ordered = false := by
  rw [Bool.eq_false_iff, ne_eq, isMet_iff]
  intro all
  obtain ⟨place, classAt⟩ := List.getElem?_of_mem inapplicable
  obtain ⟨⟨specializer, type⟩, pairAt, -⟩ :=
    forall₂_getElem? (Traversal.mapM_eq_ok_iff.mp classified.classified).flip classAt
  obtain ⟨specializerAt, typeAt⟩ := List.getElem?_zip_eq_some.mp pairAt
  obtain ⟨value, valueAt, -⟩ := forall₂_getElem? situation.consistent.instances.flip typeAt
  obtain ⟨_, definition, applicability, found, sameClassAt, isClass, meets⟩ :=
    classified.place situation specializerAt valueAt
  rw [classAt] at sameClassAt
  cases sameClassAt
  have inside := List.mem_of_getElem? specializerAt
  have notMet := Specializer.isMet_of_inapplicable situation.site.mirrors situation.growth
    situation.mirrors.wellFormed
    ((classified.suited situation.site isMethod).grounded specializer inside).defined
    (situation.foreseen candidate.method isMethod specializer
      (Precedence.mem_of_toPrecedence? classified.arranged inside) value
      (List.mem_of_getElem? valueAt)) found isClass meets
  rw [all place specializer value specializerAt valueAt] at notMet
  cases notMet

/-! ## Candidates that are satisfied together -/

theorem length_ordered : ordered.length = generic.arity :=
  situation.consistent.instances.length_eq.trans situation.site.count

/-- Candidates that arguments satisfy together are co-applicable. -/
theorem areCoApplicable_of_isMet (firstClassified : Classified table permutation types first)
    (secondClassified : Classified table permutation types second)
    (firstMethod : first.method ∈ generic.methods) (secondMethod : second.method ∈ generic.methods)
    (firstMet : first.isMet later ordered = true) (secondMet : second.isMet later ordered = true) :
    areCoApplicable table first second = true := by
  have firstSuited := firstClassified.suited situation.site firstMethod
  have secondSuited := secondClassified.suited situation.site secondMethod
  rw [isMet_iff] at firstMet secondMet
  rw [areCoApplicable, all_zip_iff]
  intro place left right leftAt rightAt
  obtain ⟨value, valueAt⟩ : ∃ value, ordered[place]? = some value := by
    have bound := (List.getElem?_eq_some_iff.mp leftAt).1
    rw [firstSuited.length, ← length_ordered situation] at bound
    exact ⟨_, List.getElem?_eq_getElem bound⟩
  have rightInside := List.mem_of_getElem? rightAt
  exact Specializer.overlaps_of_met situation.site.mirrors situation.growth
    situation.mirrors.wellFormed (firstSuited.grounded left (List.mem_of_getElem? leftAt)).defined
    (secondSuited.grounded right rightInside).defined
    (situation.foreseen second.method secondMethod right
      (Precedence.mem_of_toPrecedence? secondClassified.arranged rightInside) value
      (List.mem_of_getElem? valueAt))
    (firstMet place left value leftAt valueAt) (secondMet place right value rightAt valueAt)

end Situated

end Candidate

end StaticDispatch
