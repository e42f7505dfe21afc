import StaticDispatch.Proofs.Precedence
import StaticDispatch.Proofs.Specializer.Order
import StaticDispatch.Registry

/-!
Contract: what holds of every registry that was only declared and registered in.

The precedence order of a function rearranges its required parameters, each of its
methods has a specializer for each of them, and no two of its methods have equal
specializers. What is asked of every proposed specializer holds of every registered
one.

Owns: reached registries, their invariant, and the methods that registration leaves.
Does not own: choosing among methods.
-/

namespace StaticDispatch

/-- Specializers that are equal place by place. -/
def SameKey : List Specializer → List Specializer → Prop :=
  List.Forall₂ fun first second => (first == second) = true

theorem beq_iff_sameKey {firsts seconds : List Specializer} :
    (firsts == seconds) = true ↔ SameKey firsts seconds := by
  induction firsts generalizing seconds with
  | nil => cases seconds <;> simp [SameKey]
  | cons first firsts inductionHypothesis =>
      cases seconds with
      | nil => simp [SameKey]
      | cons second seconds =>
          rw [List.cons_beq_cons, Bool.and_eq_true, inductionHypothesis, SameKey,
            List.forall₂_cons]

theorem SameKey.refl (specializers : List Specializer) : SameKey specializers specializers :=
  List.forall₂_same.mpr fun specializer _ => specializer.beq_self

theorem SameKey.symm {firsts seconds : List Specializer} (same : SameKey firsts seconds) :
    SameKey seconds firsts := by
  refine List.Forall₂.flip (same.imp fun first second equal => ?_)
  rw [flip, Specializer.beq_comm]
  exact equal

theorem SameKey.trans {firsts seconds thirds : List Specializer} (before : SameKey firsts seconds)
    (after : SameKey seconds thirds) : SameKey firsts thirds := by
  induction before generalizing thirds with
  | nil => exact after
  | cons equal _ inductionHypothesis =>
      obtain ⟨third, others, next, rest, rfl⟩ := List.forall₂_cons_left_iff.mp after
      exact .cons (Specializer.beq_trans equal next) (inductionHypothesis rest)

/-! ## Functions -/

namespace GenericFunction

structure WellFormed (generic : GenericFunction) : Prop where
  rearranges : Precedence.isRearrangement generic.params.required generic.precedence = true
  lengths : ∀ method ∈ generic.methods, method.specializers.length = generic.arity
  distinct : generic.methods.Pairwise fun first second =>
    ¬ SameKey first.specializers second.specializers

theorem WellFormed.permutation {generic : GenericFunction} (wellFormed : generic.WellFormed) :
    ∃ permutation, Precedence.permutation generic.params.required (some generic.precedence) =
      .ok permutation := by
  simp [Precedence.permutation, wellFormed.rearranges]

variable {specializers : List Specializer} {body : Body} {ordinal : Nat} {methods : List Method}

/-- New specializers go behind all others. -/
theorem install_of_new
    (isNew : ∀ method ∈ methods, ¬ SameKey method.specializers specializers) :
    install specializers body ordinal methods =
      (⟨specializers, body, ordinal⟩, methods ++ [⟨specializers, body, ordinal⟩], true) := by
  induction methods with
  | nil => rfl
  | cons method rest inductionHypothesis =>
      have different : (method.specializers == specializers) = false := by
        rw [Bool.eq_false_iff, ne_eq, beq_iff_sameKey]
        exact isNew method (by simp)
      rw [install, inductionHypothesis fun other inside => isNew other (by simp [inside])]
      simp [different]

/-- Known specializers keep their places. -/
private theorem keys_of_install_known
    (isKnown : ∃ method ∈ methods, SameKey method.specializers specializers) :
    (install specializers body ordinal methods).2.1.map (·.specializers) =
      methods.map (·.specializers) := by
  induction methods with
  | nil => simp at isKnown
  | cons method rest inductionHypothesis =>
      rw [install]
      split
      · simp
      · rename_i different
        rw [beq_iff_sameKey] at different
        obtain ⟨known, inside, same⟩ := isKnown
        rcases List.mem_cons.mp inside with rfl | inRest
        · exact absurd same different
        · simp [inductionHypothesis ⟨known, inRest, same⟩]

/-- The keys that registration leaves: the old ones, and a new one behind them if no
method had it. -/
theorem keys_of_install (specializers : List Specializer) (body : Body) (ordinal : Nat)
    (methods : List Method) :
    (∀ method ∈ methods, ¬ SameKey method.specializers specializers) ∧
        (install specializers body ordinal methods).2.1.map (·.specializers) =
          methods.map (·.specializers) ++ [specializers] ∨
      (install specializers body ordinal methods).2.1.map (·.specializers) =
        methods.map (·.specializers) := by
  by_cases isKnown : ∃ method ∈ methods, SameKey method.specializers specializers
  · exact Or.inr (keys_of_install_known isKnown)
  · have isNew : ∀ method ∈ methods, ¬ SameKey method.specializers specializers :=
      fun method inside same => isKnown ⟨method, inside, same⟩
    exact Or.inl ⟨isNew, by simp [install_of_new isNew]⟩

/-- What a function keeps depends on the keys of its methods alone. -/
private theorem wellFormed_iff_keys {generic : GenericFunction} : generic.WellFormed ↔
    Precedence.isRearrangement generic.params.required generic.precedence = true ∧
      (∀ key ∈ generic.methods.map (·.specializers), key.length = generic.arity) ∧
      (generic.methods.map (·.specializers)).Pairwise fun first second =>
        ¬ SameKey first second := by
  rw [List.pairwise_map]
  constructor
  · intro wellFormed
    refine ⟨wellFormed.rearranges, fun key inside => ?_, wellFormed.distinct⟩
    obtain ⟨method, isMethod, rfl⟩ := List.mem_map.mp inside
    exact wellFormed.lengths method isMethod
  · rintro ⟨rearranges, lengths, distinct⟩
    exact ⟨rearranges, fun method inside => lengths _ (List.mem_map_of_mem inside), distinct⟩

theorem WellFormed.install {generic : GenericFunction} (wellFormed : generic.WellFormed)
    (enough : specializers.length = generic.arity) :
    { generic with
      methods := (install specializers body ordinal generic.methods).2.1 }.WellFormed := by
  rw [wellFormed_iff_keys] at wellFormed ⊢
  obtain ⟨rearranges, lengths, distinct⟩ := wellFormed
  refine ⟨rearranges, ?_⟩
  rcases keys_of_install specializers body ordinal generic.methods with ⟨isNew, keys⟩ | keys
  · dsimp only
    rw [keys]
    refine ⟨fun key inside => ?_, List.pairwise_append.mpr ⟨distinct, by simp, ?_⟩⟩
    · rcases List.mem_append.mp inside with older | added
      · exact lengths key older
      · rw [List.mem_singleton.mp added]
        exact enough
    · intro key older other added same
      obtain ⟨method, isMethod, rfl⟩ := List.mem_map.mp older
      rw [List.mem_singleton.mp added] at same
      exact isNew method isMethod same
  · dsimp only
    rw [keys]
    exact ⟨lengths, distinct⟩

end GenericFunction

/-- The specializers and the body of a method, without its place. -/
def Method.content (method : Method) : List Specializer × Body :=
  (method.specializers, method.body)

def Specializer.isKey : Specializer → Bool
  | .exactly value => value.isHashable
  | _ => true

/-! ## Registries -/

namespace Registry

variable {registry next : Registry} {name : String} {generic : GenericFunction}

/-- A registry that was only declared and registered in. -/
inductive Reached : Registry → Prop where
  | empty : Reached {}
  | declared {registry next : Registry} {name : String} {params : ParamList}
      {order : Option (List String)} {generic : GenericFunction} (reached : Reached registry)
      (accepted : registry.declare name params order = .ok (generic, next)) : Reached next
  | registered {registry : Registry} (reached : Reached registry) (name : String)
      (proposals : List Proposal) (body : Body) (params : Option ParamList)
      (order : Option (List String)) :
      Reached (registry.register name proposals body params order).2

theorem find?_eq_some (found : registry.find? name = some generic) :
    generic ∈ registry.generics ∧ generic.name = name :=
  ⟨List.mem_of_find?_eq_some found, by simpa using List.find?_some found⟩

/-- What declaring a function gives: the one that was there, or a new one without
methods. -/
def Provides (registry : Registry) (name : String) (params : ParamList)
    (order : Option (List String)) (generic : GenericFunction) (next : Registry) : Prop :=
  registry.find? name = some generic ∧ next = registry ∨
    registry.find? name = none ∧
      generic = { name, params, precedence := order.getD params.required } ∧
      Precedence.isRearrangement generic.params.required generic.precedence = true ∧
      next = { registry with generics := registry.generics ++ [generic] }

section Provides

variable {params : ParamList} {order : Option (List String)}

theorem provides_of_declare
    (accepted : registry.declare name params order = .ok (generic, next)) :
    registry.Provides name params order generic next := by
  simp only [declare] at accepted
  cases permuted : Precedence.permutation params.required (some (order.getD params.required)) with
  | error fault => simp [permuted] at accepted
  | ok permutation =>
      simp only [permuted] at accepted
      cases found : registry.find? name with
      | some existing =>
          simp only [found] at accepted
          split at accepted
          · cases accepted
          · split at accepted
            · cases accepted
            · cases accepted
              exact Or.inl ⟨found, rfl⟩
      | none =>
          simp only [found] at accepted
          cases accepted
          refine Or.inr ⟨found, rfl, ?_, rfl⟩
          simp only [Precedence.permutation] at permuted
          split at permuted
          · assumption
          · cases permuted

theorem provides_of_declareFor {count : Nat} {given : Option ParamList}
    (accepted : registry.declareFor name count given order = .ok (generic, next)) :
    registry.Provides name (given.getD (implicitParams count)) order generic next := by
  unfold declareFor at accepted
  split at accepted
  · exact provides_of_declare accepted
  · rename_i existing found
    split at accepted
    · cases accepted
      exact Or.inl ⟨found, rfl⟩
    · rcases provides_of_declare accepted with known | ⟨isNew, -⟩
      · exact Or.inl known
      · rw [found] at isNew
        cases isNew

theorem Provides.mem (provides : registry.Provides name params order generic next) :
    generic ∈ next.generics := by
  rcases provides with ⟨found, rfl⟩ | ⟨-, -, -, rfl⟩
  · exact (find?_eq_some found).1
  · simp

theorem Provides.grown (provides : registry.Provides name params order generic next) :
    next = registry ∨ next.generics = registry.generics ++ [generic] ∧ generic.methods = [] ∧
      Precedence.isRearrangement generic.params.required generic.precedence = true := by
  rcases provides with ⟨-, rfl⟩ | ⟨-, rfl, rearranges, rfl⟩
  · exact Or.inl rfl
  · exact Or.inr ⟨rfl, rfl, rearranges⟩

end Provides

private theorem refuse_ne_ok (fault : String → Fault) (value : Value) (specializer : Specializer) :
    refuse fault value ≠ .ok specializer := by
  unfold refuse
  split <;> exact nofun

theorem accept_eq_ok {proposal : Proposal} {specializer : Specializer}
    (accepted : accept name proposal = .ok specializer) : proposal = .specializer specializer := by
  unfold accept at accepted
  split at accepted
  · exact absurd accepted (refuse_ne_ok _ _ _)
  · split at accepted
    · cases accepted
      rfl
    · exact absurd accepted (refuse_ne_ok _ _ _)
  · cases accepted
    rfl

/-- A declaration adds no function but one without methods. -/
theorem forall_of_declared {property : GenericFunction → Prop}
    (holds : ∀ generic ∈ registry.generics, property generic)
    (fresh : ∀ generic : GenericFunction, generic.methods = [] →
      Precedence.isRearrangement generic.params.required generic.precedence = true →
      property generic)
    (declared : next = registry ∨
      next.generics = registry.generics ++ [generic] ∧ generic.methods = [] ∧
        Precedence.isRearrangement generic.params.required generic.precedence = true) :
    ∀ generic ∈ next.generics, property generic := by
  obtain rfl | ⟨generics, empty, rearranges⟩ := declared
  · exact holds
  · rw [generics]
    intro other inside
    rcases List.mem_append.mp inside with older | added
    · exact holds other older
    · rw [List.mem_singleton.mp added]
      exact fresh generic empty rearranges

/-- What holds of functions without methods, and still holds when a method is
installed, goes on holding of all functions. -/
theorem register_forall {property : GenericFunction → Prop} {proposals : List Proposal}
    {body : Body} {params : Option ParamList} {order : Option (List String)}
    (holds : ∀ generic ∈ registry.generics, property generic)
    (fresh : ∀ generic : GenericFunction, generic.methods = [] →
      Precedence.isRearrangement generic.params.required generic.precedence = true →
      property generic)
    (installed : ∀ (generic : GenericFunction) (specializers : List Specializer) (ordinal : Nat),
      property generic → (∀ specializer ∈ specializers, .specializer specializer ∈ proposals) →
      specializers.length = generic.arity →
      property { generic with
        methods := (GenericFunction.install specializers body ordinal generic.methods).2.1 }) :
    ∀ generic ∈ (registry.register name proposals body params order).2.generics,
      property generic := by
  unfold register
  cases accepted : proposals.mapM (accept name) with
  | error fault => exact holds
  | ok specializers =>
      have proposed : ∀ specializer ∈ specializers, .specializer specializer ∈ proposals := by
        intro specializer inside
        obtain ⟨proposal, isProposal, isAccepted⟩ :=
          Traversal.exists_of_mem_right (Traversal.mapM_eq_ok_iff.mp accepted) inside
        rw [← accept_eq_ok isAccepted]
        exact isProposal
      dsimp only
      cases declared : registry.declareFor name specializers.length params order with
      | error fault => exact holds
      | ok result =>
          obtain ⟨generic, left⟩ := result
          have leftHolds := forall_of_declared holds fresh (provides_of_declareFor declared).grown
          dsimp only
          split
          · exact leftHolds
          · rename_i enough
            intro other inside
            obtain ⟨existing, isExisting, same⟩ := List.mem_map.mp inside
            split at same
            · rw [← same]
              exact installed generic specializers _
                (leftHolds generic (provides_of_declareFor declared).mem) proposed
                (by simpa using enough)
            · rw [← same]
              exact leftHolds existing isExisting

def WellFormed (registry : Registry) : Prop :=
  ∀ generic ∈ registry.generics, generic.WellFormed

private theorem wellFormed_of_fresh {generic : GenericFunction} (empty : generic.methods = [])
    (rearranges : Precedence.isRearrangement generic.params.required generic.precedence = true) :
    generic.WellFormed :=
  ⟨rearranges, by simp [empty], by simp [empty]⟩

/-- **Every reached registry is well formed.** -/
theorem Reached.wellFormed (reached : Reached registry) : registry.WellFormed := by
  induction reached with
  | empty =>
      intro generic inside
      cases inside
  | declared _ accepted inductionHypothesis =>
      exact forall_of_declared inductionHypothesis (fun _ => wellFormed_of_fresh)
        (provides_of_declare accepted).grown
  | registered _ name proposals body params order inductionHypothesis =>
      exact register_forall inductionHypothesis (fun _ => wellFormed_of_fresh)
        fun _ _ _ wellFormed _ enough => wellFormed.install enough

def Speaks (property : Specializer → Prop) (registry : Registry) : Prop :=
  ∀ generic ∈ registry.generics, ∀ method ∈ generic.methods,
    ∀ specializer ∈ method.specializers, property specializer

instance (property : Specializer → Prop) [DecidablePred property] :
    DecidablePred (Speaks property) := fun registry =>
  inferInstanceAs (Decidable (∀ generic ∈ registry.generics, ∀ method ∈ generic.methods,
    ∀ specializer ∈ method.specializers, property specializer))

/-- Registration adds no specializer but the proposed ones. -/
theorem Speaks.register {property : Specializer → Prop} (speaks : Speaks property registry)
    {proposals : List Proposal} {body : Body} {params : Option ParamList}
    {order : Option (List String)}
    (proposed : ∀ specializer, .specializer specializer ∈ proposals → property specializer) :
    Speaks property (registry.register name proposals body params order).2 := by
  refine register_forall speaks (by simp +contextual) ?_
  intro generic specializers ordinal holds isProposed _ method inside specializer isSpecializer
  have keyInside : method.specializers ∈
      (GenericFunction.install specializers body ordinal generic.methods).2.1.map
        (·.specializers) := List.mem_map_of_mem inside
  have older : method.specializers ∈ generic.methods.map (·.specializers) →
      property specializer := by
    intro isOld
    obtain ⟨old, isMethod, same⟩ := List.mem_map.mp isOld
    exact holds old isMethod specializer (same ▸ isSpecializer)
  rcases GenericFunction.keys_of_install specializers body ordinal generic.methods with
    ⟨-, keys⟩ | keys
  · rw [keys] at keyInside
    rcases List.mem_append.mp keyInside with isOld | isAdded
    · exact older isOld
    · rw [List.mem_singleton.mp isAdded] at isSpecializer
      exact proposed specializer (isProposed specializer isSpecializer)
  · rw [keys] at keyInside
    exact older keyInside

/-! ## Registering several methods -/

/-- Registers methods of one function in order, each with its specializers and body.
What is refused is left out. -/
def registerAll (registry : Registry) (name : String) (entries : List (List Specializer × Body)) :
    Registry :=
  entries.foldl (fun registry entry =>
    (registry.register name (entry.1.map .specializer) entry.2 none none).2) registry

private theorem registerAll_cons (entry : List Specializer × Body)
    (rest : List (List Specializer × Body)) :
    registry.registerAll name (entry :: rest) =
      (registry.register name (entry.1.map .specializer) entry.2 none none).2.registerAll name
        rest := rfl

theorem Reached.registerAll (reached : Reached registry) (name : String)
    (entries : List (List Specializer × Body)) : Reached (registry.registerAll name entries) := by
  induction entries generalizing registry with
  | nil => exact reached
  | cons entry rest inductionHypothesis =>
      exact inductionHypothesis (.registered reached name _ entry.2 none none)

/-- Whether a function of the given arity accepts an entry. -/
def isRegistrable (arity : Nat) (entry : List Specializer × Body) : Bool :=
  entry.1.length = arity && entry.1.all Specializer.isKey

private theorem accept_of_isKey (name : String) {specializer : Specializer}
    (isKey : specializer.isKey = true) :
    accept name (.specializer specializer) = .ok specializer := by
  cases specializer with
  | any => rfl
  | ofType id => rfl
  | exactly value => exact if_pos isKey

private theorem isKey_of_accept {specializer other : Specializer}
    (accepted : accept name (.specializer specializer) = .ok other) :
    specializer.isKey = true := by
  cases specializer with
  | any => rfl
  | ofType id => rfl
  | exactly value =>
      by_contra notKey
      have refused : accept name (.specializer (.exactly value)) =
          refuse (.notHashable name) value := if_neg notKey
      exact refuse_ne_ok _ _ _ (refused.symm.trans accepted)

/-- The specializers of an entry are accepted together, or not at all. -/
private theorem mapM_accept (name : String) (specializers : List Specializer) :
    (specializers.all Specializer.isKey = true ∧
        (specializers.map .specializer).mapM (accept name) = .ok specializers) ∨
      (specializers.all Specializer.isKey = false ∧
        ∃ fault, (specializers.map .specializer).mapM (accept name) = .error fault) := by
  cases all : specializers.all Specializer.isKey with
  | true =>
      refine Or.inl ⟨rfl, Traversal.mapM_eq_ok_iff.mpr ?_⟩
      rw [List.forall₂_map_left_iff, List.forall₂_same]
      intro specializer inside
      exact accept_of_isKey name (List.all_eq_true.mp all specializer inside)
  | false =>
      refine Or.inr ⟨rfl, ?_⟩
      cases accepted : (specializers.map .specializer).mapM (accept name) with
      | error fault => exact ⟨fault, rfl⟩
      | ok kept =>
          obtain ⟨specializer, inside, notKey⟩ := List.all_eq_false.mp all
          obtain ⟨other, -, isAccepted⟩ := Traversal.exists_of_mem_left
            (Traversal.mapM_eq_ok_iff.mp accepted) (List.mem_map_of_mem inside)
          exact absurd (isKey_of_accept isAccepted) notKey

/-- A replaced function is found under its name, and nothing else changes. -/
theorem find?_update_eq (changed : GenericFunction) (ordinal : Nat) (name : String) :
    find? { generics := update changed registry.generics, nextOrdinal := ordinal } name =
      (registry.find? name).map fun existing =>
        if existing.name = changed.name then changed else existing := by
  have kept : ((fun existing : GenericFunction => decide (existing.name = name)) ∘ fun existing =>
      if existing.name = changed.name then changed else existing) =
        fun existing : GenericFunction => decide (existing.name = name) := by
    funext existing
    by_cases same : existing.name = changed.name <;> simp [same]
  rw [find?, update, List.find?_map, kept]
  rfl

theorem find?_update (changed : GenericFunction) (ordinal : Nat)
    (found : registry.find? name = some generic) (sameName : changed.name = name) :
    find? { generics := update changed registry.generics, nextOrdinal := ordinal } name =
      some changed := by
  rw [find?_update_eq, found, Option.map_some, (find?_eq_some found).2, if_pos sameName.symm]

/-- Registering a method with new specializers puts it behind the others, unless it is
refused and nothing changes. -/
private theorem register_of_new {entry : List Specializer × Body}
    (found : registry.find? name = some generic)
    (isNew : ∀ method ∈ generic.methods, ¬ SameKey method.specializers entry.1) :
    (registry.register name (entry.1.map .specializer) entry.2 none none).2 =
      if isRegistrable generic.arity entry then
        { generics := update { generic with
            methods := generic.methods ++ [⟨entry.1, entry.2, registry.nextOrdinal⟩] }
            registry.generics
          nextOrdinal := registry.nextOrdinal + 1 }
      else registry := by
  have known : ∀ count, registry.declareFor name count none none = .ok (generic, registry) := by
    intro count
    simp [declareFor, found]
  rcases mapM_accept name entry.1 with ⟨all, accepted⟩ | ⟨notAll, fault, refused⟩
  · by_cases count : entry.1.length = generic.arity
    · simp [register, accepted, known, count, isRegistrable, all,
        GenericFunction.install_of_new isNew]
    · simp [register, accepted, known, count, isRegistrable]
  · simp [register, refused, isRegistrable, notAll]

/-- **What registering several methods leaves**: those that the function accepts, in the
order of their registration. -/
theorem registerAll_spec {entries : List (List Specializer × Body)}
    (found : registry.find? name = some generic)
    (distinct : entries.Pairwise fun first second => ¬ SameKey first.1 second.1)
    (isNew : ∀ entry ∈ entries, ∀ method ∈ generic.methods,
      ¬ SameKey method.specializers entry.1) :
    ∃ methods, (registry.registerAll name entries).find? name = some { generic with methods } ∧
      methods.map Method.content =
        generic.methods.map Method.content ++ entries.filter (isRegistrable generic.arity) := by
  induction entries generalizing registry generic with
  | nil => exact ⟨generic.methods, found, by simp⟩
  | cons entry rest inductionHypothesis =>
      obtain ⟨different, restDistinct⟩ := List.pairwise_cons.mp distinct
      rw [registerAll_cons, register_of_new found (isNew entry (by simp)), List.filter_cons]
      cases isRegistrable generic.arity entry with
      | false =>
          exact inductionHypothesis found restDistinct
            fun other inside => isNew other (by simp [inside])
      | true =>
          have placed := find?_update
            { generic with
              methods := generic.methods ++ [⟨entry.1, entry.2, registry.nextOrdinal⟩] }
            (registry.nextOrdinal + 1) found (find?_eq_some found).2
          have stillNew : ∀ other ∈ rest, ∀ method ∈ generic.methods ++
              [⟨entry.1, entry.2, registry.nextOrdinal⟩],
              ¬ SameKey method.specializers other.1 := by
            intro other inside method isMethod
            rcases List.mem_append.mp isMethod with older | added
            · exact isNew other (by simp [inside]) method older
            · rw [List.mem_singleton.mp added]
              exact different other inside
          obtain ⟨methods, methodsFound, contents⟩ :=
            inductionHypothesis placed restDistinct stillNew
          refine ⟨methods, methodsFound, ?_⟩
          rw [contents]
          simp [Method.content, GenericFunction.arity]

end Registry

end StaticDispatch
