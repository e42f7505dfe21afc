import StaticDispatch.Proofs.Registry

/-!
Contract: a registry is what the history of its calls makes it.

A history lists the methods that calls have registered, each as it was asked for and
with the ordinal it was answered with. The methods of a function are the first
registrations of its keys in their order, each with the body of the last one of its
key. A call that is refused leaves the registry as it was, unless it had already
declared a function that its specializers do not fit.

Owns: calls, histories, and the registry that a history leaves.
Does not own: which method is chosen.
-/

namespace StaticDispatch

namespace Registry

/-! ## Calls -/

inductive Call where
  | declare (name : String) (params : ParamList) (order : Option (List String))
  | register (name : String) (proposals : List Proposal) (body : Body)
      (params : Option ParamList) (order : Option (List String))

/-- A registered method: specializers and body as the call gave them, the ordinal as it
was answered. -/
structure Registration extends Method where
  name : String

def Proposal.specializer? : Proposal → Option Specializer
  | .specializer specializer => some specializer
  | .stray _ => none

namespace Call

def after (registry : Registry) : Call → Registry
  | .declare name params order =>
      match registry.declare name params order with
      | .ok (_, next) => next
      | .error _ => registry
  | .register name proposals body params order =>
      (registry.register name proposals body params order).2

def fault? (registry : Registry) : Call → Option Fault
  | .declare name params order =>
      match registry.declare name params order with
      | .ok _ => none
      | .error fault => some fault
  | .register name proposals body params order =>
      match (registry.register name proposals body params order).1 with
      | .ok _ => none
      | .error fault => some fault

def registration? (registry : Registry) : Call → Option Registration
  | .declare .. => none
  | .register name proposals body params order =>
      match (registry.register name proposals body params order).1 with
      | .ok method =>
          some {
            name, body
            specializers := proposals.filterMap Proposal.specializer?
            ordinal := method.ordinal }
      | .error _ => none

end Call

def run : Registry → List Call → Registry × List Registration
  | registry, [] => (registry, [])
  | registry, call :: rest =>
      let (left, later) := run (call.after registry) rest
      (left, (call.registration? registry).toList ++ later)

/-! ## Histories -/

namespace Registration

/-- Two registrations for one function with equal specializers. -/
def isSameEntry (first second : Registration) : Bool :=
  first.name = second.name && first.specializers == second.specializers

/-- Those registrations that are the first of their entries. -/
def firsts : List Registration → List Registration
  | [] => []
  | entry :: rest => entry :: (firsts rest).filter fun other => !entry.isSameEntry other

def latest (history : List Registration) (entry : Registration) : Method :=
  { entry.toMethod with
    body := ((history.filter entry.isSameEntry).getLast?.map (·.body)).getD entry.body }

def methods (history : List Registration) (name : String) : List Method :=
  ((firsts history).filter (·.name = name)).map (latest history)

variable {first second third entry : Registration} {history : List Registration}

private theorem isSameEntry_iff : first.isSameEntry second = true ↔
    first.name = second.name ∧ SameKey first.specializers second.specializers := by
  rw [isSameEntry, Bool.and_eq_true, decide_eq_true_eq, beq_iff_sameKey]

private theorem isSameEntry_self (entry : Registration) : entry.isSameEntry entry = true :=
  isSameEntry_iff.mpr ⟨rfl, .refl _⟩

private theorem isSameEntry_comm (first second : Registration) :
    first.isSameEntry second = second.isSameEntry first := by
  rw [Bool.eq_iff_iff, isSameEntry_iff, isSameEntry_iff]
  exact ⟨fun ⟨name, key⟩ => ⟨name.symm, key.symm⟩, fun ⟨name, key⟩ => ⟨name.symm, key.symm⟩⟩

private theorem isSameEntry_trans (before : first.isSameEntry second = true)
    (after : second.isSameEntry third = true) : first.isSameEntry third = true := by
  rw [isSameEntry_iff] at before after ⊢
  exact ⟨before.1.trans after.1, before.2.trans after.2⟩

/-- No two first registrations are of one entry. -/
private theorem firsts_pairwise (history : List Registration) :
    (firsts history).Pairwise fun first second => first.isSameEntry second = false := by
  induction history with
  | nil => exact .nil
  | cons entry rest inductionHypothesis =>
      rw [firsts, List.pairwise_cons]
      refine ⟨fun other inside => ?_, inductionHypothesis.filter _⟩
      simpa using (List.mem_filter.mp inside).2

/-- A registration behind a history is a first one unless its entry is there. -/
theorem firsts_append (history : List Registration) (entry : Registration) :
    firsts (history ++ [entry]) =
      firsts history ++ if (firsts history).any (·.isSameEntry entry) then [] else [entry] := by
  induction history with
  | nil => rfl
  | cons head rest inductionHypothesis =>
      rw [List.cons_append, firsts, firsts, inductionHypothesis, List.filter_append,
        List.any_cons, List.cons_append]
      congr 2
      cases headSame : head.isSameEntry entry with
      | true => split <;> simp [headSame]
      | false =>
          -- The head hides only registrations of its own entry, and this is another one.
          have kept : ((firsts rest).filter fun other => !head.isSameEntry other).any
              (·.isSameEntry entry) = (firsts rest).any (·.isSameEntry entry) := by
            rw [List.any_filter]
            apply List.any_congr rfl
            intro other
            cases otherSame : other.isSameEntry entry with
            | false => simp
            | true =>
                have apart : head.isSameEntry other = false := by
                  rw [Bool.eq_false_iff]
                  intro same
                  rw [isSameEntry_trans same otherSame] at headSame
                  cases headSame
                simp [apart]
          rw [kept, Bool.false_or]
          split <;> simp [headSame]

private theorem latest_append (history : List Registration) (first entry : Registration) :
    latest (history ++ [entry]) first =
      if first.isSameEntry entry then { latest history first with body := entry.body }
      else latest history first := by
  unfold latest
  rw [List.filter_append, List.filter_singleton]
  split
  · rename_i same
    simp [same]
  · rename_i other
    simp [other]

/-- A registration of another entry leaves the bodies as they were. -/
theorem map_latest_append {entries : List Registration}
    (apart : ∀ first ∈ entries, first.isSameEntry entry = false) :
    entries.map (latest (history ++ [entry])) = entries.map (latest history) := by
  apply List.map_congr_left
  intro first inside
  rw [latest_append, apart first inside, if_neg Bool.false_ne_true]

/-- A method whose entry is known gives its body to the entry. -/
private theorem install_known (history : List Registration) {entries : List Registration}
    (distinct : entries.Pairwise fun first second => first.isSameEntry second = false)
    (named : ∀ first ∈ entries, first.name = entry.name)
    (isKnown : entries.any (·.isSameEntry entry) = true) (ordinal : Nat) :
    (GenericFunction.install entry.specializers entry.body ordinal
      (entries.map (latest history))).2 = (entries.map (latest (history ++ [entry])), false) := by
  induction entries with
  | nil => cases isKnown
  | cons first rest inductionHypothesis =>
      obtain ⟨apart, restDistinct⟩ := List.pairwise_cons.mp distinct
      have keys : ((latest history first).specializers == entry.specializers) =
          first.isSameEntry entry := by
        simp [isSameEntry, named first (by simp), latest]
      rw [List.map_cons, List.map_cons, GenericFunction.install, keys, latest_append]
      cases same : first.isSameEntry entry with
      | true =>
          have others : ∀ other ∈ rest, other.isSameEntry entry = false := by
            intro other inside
            rw [Bool.eq_false_iff]
            intro otherSame
            have both := isSameEntry_trans same (isSameEntry_comm other entry ▸ otherSame)
            rw [apart other inside] at both
            cases both
          simp [map_latest_append others]
      | false =>
          have inRest : rest.any (·.isSameEntry entry) = true := by
            simpa [same] using isKnown
          have placed := inductionHypothesis restDistinct
            (fun other inside => named other (by simp [inside])) inRest
          simp [placed]

/-- A registration for one function leaves the methods of the others. -/
private theorem methods_append_of_ne {name : String} (different : name ≠ entry.name) :
    methods (history ++ [entry]) name = methods history name := by
  have apart : ∀ first ∈ (firsts history).filter (·.name = name),
      first.isSameEntry entry = false := by
    intro first inside
    have isName : first.name = name := by simpa using (List.mem_filter.mp inside).2
    simp [isSameEntry, isName, different]
  unfold methods
  rw [firsts_append, List.filter_append, ← map_latest_append apart]
  split <;> simp [Ne.symm different]

/-- Whether an entry is known is a question about its own function. -/
private theorem any_ownName (history : List Registration) (entry : Registration) :
    ((firsts history).filter (·.name = entry.name)).any (·.isSameEntry entry) =
      (firsts history).any (·.isSameEntry entry) := by
  rw [List.any_filter]
  apply List.any_congr rfl
  intro first
  by_cases same : first.name = entry.name <;> simp [isSameEntry, same]

/-- Installing a method in what a history gives is going on with the history. -/
private theorem methods_of_install {ordinal : Nat} {method : Method} {installed : List Method}
    {used : Bool} (answered : method.ordinal = entry.ordinal)
    (placed : GenericFunction.install entry.specializers entry.body ordinal
      (methods history entry.name) = (method, installed, used)) :
    installed = methods (history ++ [entry]) entry.name ∧
      used = !(firsts history).any (·.isSameEntry entry) ∧
      (used = true → entry.ordinal = ordinal) := by
  have named : ∀ first ∈ (firsts history).filter (·.name = entry.name),
      first.name = entry.name := by
    intro first inside
    simpa using (List.mem_filter.mp inside).2
  unfold methods at placed ⊢
  rw [firsts_append, List.filter_append, List.map_append, ← any_ownName]
  by_cases isKnown :
      ((firsts history).filter (·.name = entry.name)).any (·.isSameEntry entry) = true
  · have known := install_known history ((firsts_pairwise history).filter _) named isKnown ordinal
    rw [placed] at known
    cases known
    simp [isKnown]
  · rw [Bool.not_eq_true] at isKnown
    have apart : ∀ first ∈ (firsts history).filter (·.name = entry.name),
        first.isSameEntry entry = false := by
      simpa using isKnown
    have isNew : ∀ other ∈ ((firsts history).filter (·.name = entry.name)).map (latest history),
        ¬ SameKey other.specializers entry.specializers := by
      intro other inside same
      obtain ⟨first, isFirst, rfl⟩ := List.mem_map.mp inside
      have both := isSameEntry_iff.mpr ⟨named first isFirst, same⟩
      rw [apart first isFirst] at both
      cases both
    rw [GenericFunction.install_of_new isNew] at placed
    cases placed
    obtain rfl : ordinal = entry.ordinal := answered
    have own : latest (history ++ [entry]) entry = entry.toMethod := by
      rw [latest_append, isSameEntry_self, if_pos rfl]
      rfl
    simp [isKnown, map_latest_append apart, own]

end Registration

/-! ## What a call leaves -/

variable {registry : Registry} {history : List Registration} {generic : GenericFunction}

/-- The registry has just the methods and ordinals that a history gives. -/
structure Records (history : List Registration) (registry : Registry) : Prop where
  names : registry.names.Nodup
  methods : ∀ name, registry.methods name = Registration.methods history name
  ordinals : (Registration.firsts history).map (·.ordinal) = List.range registry.nextOrdinal

private theorem methods_of_find? {name : String} (found : registry.find? name = some generic) :
    registry.methods name = generic.methods := by
  rw [methods, found, Option.map_some, Option.getD_some]

/-- A new function without methods adds nothing to any function. -/
theorem Records.declared (records : Records history registry)
    (isNew : registry.find? generic.name = none) (empty : generic.methods = []) :
    Records history { registry with generics := registry.generics ++ [generic] } := by
  refine ⟨?_, fun name => ?_, records.ordinals⟩
  · have absent : ∀ name ∈ registry.names, name ≠ generic.name := by
      intro name inside same
      obtain ⟨existing, isExisting, rfl⟩ := List.mem_map.mp inside
      have refused := List.find?_eq_none.mp isNew existing isExisting
      simp [same] at refused
    show (registry.generics ++ [generic]).map (·.name) |>.Nodup
    rw [List.map_append, List.nodup_append]
    refine ⟨records.names, by simp, fun name inside other isOther => ?_⟩
    rw [List.mem_singleton.mp isOther]
    exact absent name inside
  · rw [← records.methods name]
    unfold Registry.methods find?
    rw [List.find?_append]
    cases found : registry.generics.find? (·.name = name) with
    | some existing => rfl
    | none =>
        by_cases same : generic.name = name
        · simp [same, empty]
        · simp [same]

/-- An installed method is the newest registration of its entry. -/
theorem Records.installed (records : Records history registry) (entry : Registration)
    (found : registry.find? entry.name = some generic) {method : Method} {methods : List Method}
    {used : Bool} (answered : method.ordinal = entry.ordinal)
    (placed : GenericFunction.install entry.specializers entry.body registry.nextOrdinal
      generic.methods = (method, methods, used)) :
    Records (history ++ [entry]) {
      generics := update { generic with methods } registry.generics
      nextOrdinal := if used then registry.nextOrdinal + 1 else registry.nextOrdinal } := by
  have ownName := (find?_eq_some found).2
  rw [← methods_of_find? found, records.methods] at placed
  obtain ⟨methodsAre, usedIs, ordinalIs⟩ := Registration.methods_of_install answered placed
  refine ⟨?_, fun name => ?_, ?_⟩
  · have kept : (update { generic with methods } registry.generics).map (·.name) =
        registry.names := by
      unfold update Registry.names
      rw [List.map_map]
      apply List.map_congr_left
      intro existing _
      by_cases same : existing.name = generic.name <;> simp [same]
    show ((update { generic with methods } registry.generics).map (·.name)).Nodup
    rw [kept]
    exact records.names
  · by_cases same : name = entry.name
    · rw [same, ← methodsAre]
      exact methods_of_find? (find?_update { generic with methods } _ found ownName)
    · rw [Registration.methods_append_of_ne same, ← records.methods]
      unfold Registry.methods
      rw [find?_update_eq]
      cases other : registry.find? name with
      | none => rfl
      | some existing =>
          have different : existing.name ≠ generic.name := by
            rw [(find?_eq_some other).2, ownName]
            exact same
          simp [different]
  · rw [Registration.firsts_append, List.map_append, records.ordinals, usedIs]
    by_cases isKnown : (Registration.firsts history).any (·.isSameEntry entry) = true
    · simp [isKnown]
    · rw [Bool.not_eq_true] at isKnown
      rw [isKnown] at usedIs ⊢
      simp [ordinalIs usedIs, List.range_succ]

theorem eq_map_of_accepted {name : String} {proposals : List Proposal}
    {specializers : List Specializer} (accepted : proposals.mapM (accept name) = .ok specializers) :
    proposals = specializers.map .specializer := by
  rw [← List.forall₂_eq_eq_eq, List.forall₂_map_right_iff]
  exact (Traversal.mapM_eq_ok_iff.mp accepted).imp fun _ _ => accept_eq_ok

/-- What registering does: it is refused and changes nothing, or it gets a function, and
then the number of specializers decides. -/
theorem register_cases (registry : Registry) (name : String) (proposals : List Proposal)
    (body : Body) (params : Option ParamList) (order : Option (List String)) :
    (∃ fault, registry.register name proposals body params order = (.error fault, registry)) ∨
      ∃ specializers generic declared,
        proposals.mapM (accept name) = .ok specializers ∧
        registry.declareFor name specializers.length params order = .ok (generic, declared) ∧
        (specializers.length ≠ generic.arity ∧
            registry.register name proposals body params order =
              (.error (.specializerCount name specializers.length generic.arity), declared) ∨
          specializers.length = generic.arity ∧ ∃ method methods used,
            GenericFunction.install specializers body declared.nextOrdinal generic.methods =
              (method, methods, used) ∧
            registry.register name proposals body params order =
              (.ok method, {
                generics := update { generic with methods } declared.generics
                nextOrdinal :=
                  if used then declared.nextOrdinal + 1 else declared.nextOrdinal })) := by
  unfold register
  cases accepted : proposals.mapM (accept name) with
  | error fault => exact Or.inl ⟨fault, rfl⟩
  | ok specializers =>
      dsimp only
      cases provided : registry.declareFor name specializers.length params order with
      | error fault => exact Or.inl ⟨fault, rfl⟩
      | ok result =>
          refine Or.inr ⟨specializers, result.1, result.2, rfl, provided, ?_⟩
          by_cases fits : specializers.length = result.1.arity
          · exact Or.inr ⟨fits, _, _, _, rfl, by simp [fits]⟩
          · exact Or.inl ⟨fits, by simp [fits]⟩

/-- **One call goes on with the history.** -/
theorem Records.after (records : Records history registry) (call : Call) :
    Records (history ++ (call.registration? registry).toList) (call.after registry) := by
  cases call with
  | declare name params order =>
      rw [Call.registration?, Option.toList_none, List.append_nil, Call.after]
      split
      · rename_i generic next accepted
        rcases provides_of_declare accepted with ⟨-, rfl⟩ | ⟨isNew, rfl, -, rfl⟩
        · exact records
        · exact records.declared isNew rfl
      · exact records
  | register name proposals body params order =>
      rw [Call.registration?, Call.after]
      rcases register_cases registry name proposals body params order with
        ⟨fault, refused⟩ | ⟨specializers, generic, declared, accepted, provided, outcome⟩
      · simpa [refused] using records
      · have declaredRecords : Records history declared ∧ declared.find? name = some generic := by
          rcases provides_of_declareFor provided with ⟨found, rfl⟩ | ⟨isNew, rfl, -, rfl⟩
          · exact ⟨records, found⟩
          · refine ⟨records.declared isNew rfl, ?_⟩
            rw [find?] at isNew ⊢
            simp [isNew]
        obtain ⟨declaredRecords, found⟩ := declaredRecords
        rcases outcome with ⟨-, refused⟩ | ⟨-, method, methods, used, placed, answered⟩
        · simpa [refused] using declaredRecords
        · have given : proposals.filterMap Proposal.specializer? = specializers := by
            rw [eq_map_of_accepted accepted, List.filterMap_map]
            exact List.filterMap_some
          rw [answered]
          dsimp only
          rw [given]
          exact declaredRecords.installed ⟨⟨specializers, body, method.ordinal⟩, name⟩ found
            (Eq.refl method.ordinal) placed

theorem Records.run (records : Records history registry) (calls : List Call) :
    Records (history ++ (registry.run calls).2) (registry.run calls).1 := by
  induction calls generalizing registry history with
  | nil => simpa [Registry.run] using records
  | cons call rest inductionHypothesis =>
      have later := inductionHypothesis (records.after call)
      rw [List.append_assoc] at later
      exact later

theorem Reached.after (reached : Reached registry) (call : Call) :
    Reached (call.after registry) := by
  cases call with
  | declare name params order =>
      rw [Call.after]
      split
      · rename_i generic next accepted
        exact .declared reached accepted
      · exact reached
  | register name proposals body params order => exact .registered reached _ _ _ _ _

theorem Reached.run (reached : Reached registry) (calls : List Call) :
    Reached (registry.run calls).1 := by
  induction calls generalizing registry with
  | nil => exact reached
  | cons call rest inductionHypothesis => exact inductionHypothesis (reached.after call)

/-! ## Ordinals -/

/-- The ordinals of a function's methods are those of the first registrations for it. -/
theorem Records.ordinals_of_mem (records : Records history registry)
    (isGeneric : generic ∈ registry.generics) :
    generic.methods.map (·.ordinal) =
      ((Registration.firsts history).filter (·.name = generic.name)).map (·.ordinal) := by
  have found : registry.find? generic.name = some generic := by
    cases other : registry.find? generic.name with
    | none => simpa using List.find?_eq_none.mp other generic isGeneric
    | some existing =>
        obtain ⟨isExisting, sameName⟩ := find?_eq_some other
        rw [List.inj_on_of_nodup_map records.names isExisting isGeneric sameName]
  rw [← methods_of_find? found, records.methods, Registration.methods, List.map_map]
  rfl

theorem Records.ordinals_sublist (records : Records history registry)
    (isGeneric : generic ∈ registry.generics) :
    (generic.methods.map (·.ordinal)).Sublist (List.range registry.nextOrdinal) := by
  rw [records.ordinals_of_mem isGeneric, ← records.ordinals]
  exact List.filter_sublist.map _

/-- No ordinal is used twice, in one function or in two. -/
private theorem Records.ordinals_nodup (records : Records history registry) :
    (registry.generics.flatMap fun generic => generic.methods.map (·.ordinal)).Nodup := by
  rw [List.nodup_flatMap]
  refine ⟨fun generic isGeneric =>
    (records.ordinals_sublist isGeneric).nodup List.nodup_range, ?_⟩
  refine (List.pairwise_map.mp records.names).imp_of_mem ?_
  intro first second isFirst isSecond different ordinal inFirst inSecond
  dsimp only at inFirst inSecond
  rw [records.ordinals_of_mem isFirst] at inFirst
  rw [records.ordinals_of_mem isSecond] at inSecond
  obtain ⟨left, isLeft, rfl⟩ := List.mem_map.mp inFirst
  obtain ⟨right, isRight, same⟩ := List.mem_map.mp inSecond
  obtain ⟨leftIn, leftName⟩ := List.mem_filter.mp isLeft
  obtain ⟨rightIn, rightName⟩ := List.mem_filter.mp isRight
  have once : ((Registration.firsts history).map (·.ordinal)).Nodup := by
    rw [records.ordinals]
    exact List.nodup_range
  obtain rfl := List.inj_on_of_nodup_map once rightIn leftIn same
  apply different
  rw [← of_decide_eq_true leftName, ← of_decide_eq_true rightName]

/-- **A registry refines a map in the order of insertion**, whatever calls were made on it
and however many of them were refused. -/
theorem run_refines_history (calls : List Call) :
    let (registry, history) := run {} calls
    registry.names.Nodup ∧
      (∀ generic ∈ registry.generics,
        (∀ method ∈ generic.methods, method.specializers.length = generic.arity) ∧
          (generic.methods.Pairwise fun first second =>
            ¬ SameKey first.specializers second.specializers) ∧
          generic.precedence.Perm generic.params.required ∧
          (generic.methods.Pairwise fun first second => first.ordinal < second.ordinal) ∧
          ∀ method ∈ generic.methods, method.ordinal < registry.nextOrdinal) ∧
      (registry.generics.flatMap fun generic => generic.methods.map (·.ordinal)).Nodup ∧
      (Registration.firsts history).map (·.ordinal) = List.range registry.nextOrdinal ∧
      ∀ name, registry.methods name = Registration.methods history name := by
  have start : Records [] ({} : Registry) := ⟨.nil, fun _ => rfl, rfl⟩
  have records := start.run calls
  rw [List.nil_append] at records
  have wellFormed := (Reached.empty.run calls).wellFormed
  refine ⟨records.names, fun generic isGeneric => ?_, records.ordinals_nodup, records.ordinals,
    records.methods⟩
  have within := records.ordinals_sublist isGeneric
  refine ⟨(wellFormed generic isGeneric).lengths, (wellFormed generic isGeneric).distinct,
    (Precedence.isRearrangement_iff.mp (wellFormed generic isGeneric).rearranges).2,
    List.pairwise_map.mp (List.pairwise_lt_range.sublist within), fun method inside => ?_⟩
  exact List.mem_range.mp (within.subset (List.mem_map_of_mem inside))

/-! ## Refused calls -/

/-- The call gives a new function parameters that its specializers do not fit, and
nothing else is wrong with it. -/
def Call.Overdeclares (registry : Registry) (generic : GenericFunction) : Call → Prop
  | .declare .. => False
  | .register name proposals _ given order =>
      registry.find? name = none ∧
        (∃ params, given = some params ∧
          generic = { name, params, precedence := order.getD params.required }) ∧
        Precedence.isRearrangement generic.params.required generic.precedence = true ∧
        ∃ specializers, proposals.mapM (accept name) = .ok specializers ∧
          specializers.length ≠ generic.arity

/-- The parameters that a first method declares are as many as its specializers. -/
private theorem arity_implicitParams (count : Nat) : (implicitParams count).arity = count := by
  simp [ParamList.arity, implicitParams]

variable {call : Call} {fault : Fault}

/-- A refused call changes nothing, or it had declared a function before. -/
theorem after_of_fault (refused : call.fault? registry = some fault) :
    call.after registry = registry ∨ ∃ generic, call.Overdeclares registry generic := by
  cases call with
  | declare name params order =>
      rw [Call.fault?] at refused
      rw [Call.after]
      split at refused
      · cases refused
      · rename_i own isFault
        rw [isFault]
        exact Or.inl rfl
  | register name proposals body params order =>
      rw [Call.fault?] at refused
      rw [Call.after]
      rcases register_cases registry name proposals body params order with
        ⟨own, unchanged⟩ | ⟨specializers, generic, declared, accepted, provided, outcome⟩
      · rw [unchanged]
        exact Or.inl rfl
      · rcases outcome with ⟨misfit, left⟩ | ⟨-, method, methods, used, -, answered⟩
        · rw [left]
          rcases provides_of_declareFor provided with ⟨-, unchanged⟩ | ⟨isNew, rfl, rearranges, -⟩
          · exact Or.inl unchanged
          · cases params with
            | none => exact absurd (arity_implicitParams _).symm misfit
            | some given =>
                exact Or.inr ⟨_, isNew, ⟨given, rfl, rfl⟩, rearranges, specializers, accepted,
                  misfit⟩
        · rw [answered] at refused
          cases refused

/-- A call that declares too much leaves the new function behind. -/
theorem after_of_overdeclares (overdeclares : call.Overdeclares registry generic) :
    call.after registry = { registry with generics := registry.generics ++ [generic] } := by
  cases call with
  | declare _ _ _ => exact overdeclares.elim
  | register name proposals body given order =>
      obtain ⟨isNew, ⟨params, rfl, rfl⟩, rearranges, specializers, accepted, misfit⟩ := overdeclares
      have permuted : Precedence.permutation params.required
          (some (order.getD params.required)) = .ok ((order.getD params.required).map
            params.required.idxOf) := if_pos rearranges
      have different : specializers.length ≠ params.arity := misfit
      simp [Call.after, register, accepted, declareFor, declare, isNew, permuted,
        GenericFunction.arity, different]

private theorem registration?_of_fault (refused : call.fault? registry = some fault) :
    call.registration? registry = none := by
  cases call with
  | declare _ _ _ => rfl
  | register name proposals body params order =>
      rw [Call.fault?] at refused
      rw [Call.registration?]
      cases outcome : (registry.register name proposals body params order).1 with
      | ok method => simp [outcome] at refused
      | error own => rfl

/-- **What a refused call leaves.** The registry is the one before the call, and all later
calls go as if it had not been made, unless the call gave a new function parameters that
its specializers do not fit: then that function stays declared, without methods. -/
theorem refused_call_leaves (registry : Registry) (call : Call) (fault : Fault)
    (refused : call.fault? registry = some fault) :
    (call.after registry = registry ↔ ∀ generic, ¬ call.Overdeclares registry generic) ∧
      ((∀ generic, ¬ call.Overdeclares registry generic) →
        ∀ later, registry.run (call :: later) = registry.run later) ∧
      ∀ generic, call.Overdeclares registry generic →
        call.after registry = { registry with generics := registry.generics ++ [generic] } := by
  have unchanged : (∀ generic, ¬ call.Overdeclares registry generic) →
      call.after registry = registry := by
    intro fits
    rcases after_of_fault refused with same | ⟨generic, overdeclares⟩
    · exact same
    · exact absurd overdeclares (fits generic)
  refine ⟨⟨fun same generic overdeclares => ?_, unchanged⟩, fun fits later => ?_,
    fun generic => after_of_overdeclares⟩
  · have longer := congrArg (·.generics.length) (after_of_overdeclares overdeclares)
    rw [same] at longer
    simp at longer
  · rw [run, registration?_of_fault refused, unchanged fits]
    rfl

namespace Misfit

def single : Registry where
  generics := [{ name := "area", params := { required := ["shape"] }, precedence := ["shape"] }]

def pair (params : Option ParamList) : Call :=
  .register "area" [.specializer .any, .specializer .any] { label := "pair" } params none

/-- A declared function refuses a method of another arity and keeps as it is. -/
theorem pair_refused_leaves : (pair none).fault? single = some (.specializerCount "area" 2 1) ∧
    (pair none).after single = single ∧ ∀ later, single.run (pair none :: later) =
      single.run later := by
  have fits : ∀ generic, ¬ (pair none).Overdeclares single generic := by
    rintro generic ⟨isNew, -⟩
    cases isNew
  have leaves := refused_call_leaves single (pair none) _ rfl
  exact ⟨rfl, leaves.1.mpr fits, leaves.2.1 fits⟩

/-- A method of another arity than the parameters it brings is refused, and its function
is declared all the same. -/
theorem pair_refused_declares :
    Reached {} ∧
      (pair (some { required := ["shape"] })).fault? {} = some (.specializerCount "area" 2 1) ∧
      (pair (some { required := ["shape"] })).after {} = single ∧ single ≠ {} :=
  ⟨.empty, rfl, rfl, fun same => by cases same⟩

end Misfit

end Registry

end StaticDispatch
