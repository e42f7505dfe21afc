import StaticDispatch.Proofs.Candidate.LinearExtension
import StaticDispatch.Proofs.Resolution

/-!
Contract: resolution answers, unless the table is broken or a method has no name.

Many steps of a resolution could fail: an order that is no permutation, a method
without a place, a guard for a place that asks for nothing, a question about types,
the name of a method in a reason. None but the last two does so where the registry
was made by declarations and registrations: a question only where the table is
broken, a name only where a method asks for a value that cannot be written. What an
earlier resolution left in the cache does not show, and a hook is run once for a
cascade and never else.

Owns: the faults of each step and of a whole resolution, and what a resolution
leaves of an inliner.
Does not own: what the answers mean.
-/

namespace StaticDispatch

open Traversal (Confined)

variable {table : TypeTable} {generic : GenericFunction} {permutation : List Nat}
  {types : List TypeId} {registry : Registry} {config : Config} {name : String}
  {checks : Option Bool} {cache next : Precedence.Cache}

/-! ## Candidates -/

namespace Candidate

variable {candidate first second : Candidate} {candidates collected : List Candidate}

private theorem Belongs.typesDefined (posed : Posed table generic permutation types)
    (belongs : candidate.Belongs table generic permutation types) :
    candidate.TypesDefined table := fun id inside =>
  posed.registered _ belongs.isMethod (.ofType id)
    (Precedence.mem_of_toPrecedence? belongs.classified.arranged inside)

private theorem Belongs.of_ofMethod? {method : Method} (isMethod : method ∈ generic.methods)
    (made : ofMethod? table permutation types method = .ok (some candidate)) :
    candidate.Belongs table generic permutation types := by
  unfold ofMethod? at made
  split at made
  · cases made
  · rename_i specializers arranged
    split at made
    · cases made
    · rename_i classes classified
      split at made
      · cases made
      · rename_i noneInapplicable
        cases made
        exact ⟨isMethod, ⟨arranged, classified⟩, by simpa using noneInapplicable⟩

private theorem Belongs.of_collect
    (collects : collect table generic permutation types = .ok collected)
    (inside : candidate ∈ collected) : candidate.Belongs table generic permutation types := by
  unfold collect at collects
  split at collects
  · cases collects
  · obtain ⟨method, isMethod, made⟩ := Traversal.exists_of_mem_filterMapM collects inside
    exact .of_ofMethod? isMethod made

private theorem meetsUndecided_confined (places : List (Specializer × Specializer))
    (registered : ∀ place ∈ places, place.1.Registered table ∧ place.2.Registered table) :
    Confined table.Breaks (meetsUndecided table places) := by
  induction places with
  | nil => exact .ok false
  | cons place rest inductionHypothesis =>
      obtain ⟨left, right⟩ := registered place (by simp)
      refine (compareAt_confined left right).bind fun outcome _ => ?_
      cases outcome with
      | more => exact .ok false
      | less => exact .ok false
      | incomparable => exact .ok true
      | equal => exact inductionHypothesis fun other inside => registered other (by simp [inside])

private theorem isUnordered_confined (firstDefined : first.TypesDefined table)
    (secondDefined : second.TypesDefined table) :
    Confined table.Breaks (isUnordered table first second) := by
  refine (isCoApplicable_confined firstDefined secondDefined).bind fun competes _ => ?_
  split
  · exact meetsUndecided_confined _ (firstDefined.zip secondDefined)
  · exact .ok false

private theorem unorderedPairs_confined
    (defined : ∀ candidate ∈ candidates, candidate.TypesDefined table) :
    Confined table.Breaks (unorderedPairs table candidates) := by
  induction candidates with
  | nil => exact .ok []
  | cons candidate rest inductionHypothesis =>
      have later := inductionHypothesis fun other inside => defined other (by simp [inside])
      have walked : Confined table.Breaks (rest.filterM (isUnordered table candidate)) :=
        .filterM fun other inside =>
          isUnordered_confined (defined candidate (by simp)) (defined other (by simp [inside]))
      exact walked.bind fun unordered _ => later.bind fun pairs _ => .ok _

end Candidate

/-- Candidates of a call site always make a cascade, or none without checks. -/
private theorem Cascade.emit_answers (posed : Posed table generic permutation types)
    {candidates : List Candidate}
    (belong : ∀ candidate ∈ candidates, candidate.Belongs table generic permutation types)
    (mayCheck : Bool) :
    ∃ cascade?, emit generic permutation mayCheck candidates = .ok cascade? := by
  obtain ⟨cascade, made⟩ := guarded_answers posed belong
  unfold emit
  split
  · exact ⟨none, rfl⟩
  split
  · exact ⟨some cascade, by rw [made]; rfl⟩
  split
  · exact ⟨_, rfl⟩
  · exact ⟨none, rfl⟩

/-! ## Resolutions -/

namespace Resolution

/-- The faults about types of a call of some methods: the table is broken, or one of the
methods asks for a value that cannot be written. -/
def BlamesTypes (table : TypeTable) (methods : List Method) (fault : TypeTable.Fault) : Prop :=
  table.Breaks fault ∨ fault = .unwritable {} ∧ ∃ method ∈ methods, method.isWritable = false

/-- The faults of resolving that the table and the called methods are to blame for. -/
def Fault.Blames (table : TypeTable) (methods : List Method) : Fault → Prop
  | .types fault => BlamesTypes table methods fault
  | .candidates fault => fault.Blames table
  | _ => False

private theorem not_blames_of_whole (whole : table.Whole) {methods : List Method}
    (writable : ∀ method ∈ methods, method.isWritable = true) (fault : Fault) :
    ¬ fault.Blames table methods := by
  intro blames
  cases fault with
  | types fault =>
      rcases blames with breaks | ⟨-, method, isMethod, unwritable⟩
      · exact whole.not_breaks fault breaks
      · rw [writable method isMethod] at unwritable
        cases unwritable
  | precedence fault => exact blames
  | cascade fault => exact blames
  | candidates fault =>
      cases fault with
      | types fault => exact whole.not_breaks fault blames
      | typeCount name expected given => exact blames
      | missingPlace => exact blames

private theorem label_blames (posed : Posed table generic permutation types) {method : Method}
    (isMethod : method ∈ generic.methods) :
    Confined (BlamesTypes table generic.methods) (method.label (.named table) generic.name) :=
  (label_confined posed isMethod).imp fun _ ⟨isFault, unwritable⟩ =>
    .inr ⟨isFault, method, isMethod, unwritable⟩

/-- A doubt can be told unless the table is broken or one of its two candidates cannot be
named. -/
private theorem orderDoubt?_confined (posed : Posed table generic permutation types)
    {candidates : List Candidate}
    (belong : ∀ candidate ∈ candidates, candidate.Belongs table generic permutation types)
    (config : Config) :
    Confined (BlamesTypes table generic.methods)
      (orderDoubt? table config generic candidates) := by
  unfold orderDoubt?
  split
  · have defined : ∀ candidate ∈ candidates, candidate.TypesDefined table :=
      fun candidate inside => (belong candidate inside).typesDefined posed
    refine ((Candidate.unorderedPairs_confined defined).imp fun _ => .inl).bind
      fun pairs found => ?_
    split
    · exact .ok none
    · rename_i first second rest
      obtain ⟨isFirst, isSecond⟩ :=
        Candidate.unorderedPairs_subset found (first, second) (by simp)
      have left := label_blames posed (belong first isFirst).isMethod
      have right := label_blames posed (belong second isSecond).isMethod
      exact left.bind fun _ _ => right.bind fun _ _ => .ok _
  · exact .ok none

private theorem ofCandidates_confined (posed : Posed table generic permutation types)
    {candidates : List Candidate}
    (belong : ∀ candidate ∈ candidates, candidate.Belongs table generic permutation types)
    (config : Config) (mayCheck : Bool) :
    Confined (Fault.Blames table generic.methods)
      (ofCandidates table config generic permutation mayCheck candidates) := by
  have doubts := orderDoubt?_confined posed belong config
  obtain ⟨cascade?, emitted⟩ := Cascade.emit_answers posed belong mayCheck
  cases candidates with
  | nil => exact .ok _
  | cons top rest =>
      have named : Confined (Fault.Blames table generic.methods)
          ((top.method.label (.named table) generic.name).mapError .types) :=
        (label_blames posed (belong top (by simp)).isMethod).mapError fun _ blames => blames
      have lifted : Confined (Fault.Blames table generic.methods)
          ((orderDoubt? table config generic (top :: rest)).mapError .types) :=
        doubts.mapError fun _ blames => blames
      simp only [ofCandidates_unfold, lift_types, lift_cascade]
      refine lifted.bind fun doubt _ => ?_
      cases doubt with
      | some abstention => exact .ok _
      | none =>
          rw [emitted]
          cases cascade? with
          | some cascade => exact .ok _
          | none => exact named.bind fun _ _ => .ok _

private theorem ofGeneric_confined (posed : Posed table generic permutation types) (config : Config)
    (checks : Option Bool) :
    Confined (Fault.Blames table generic.methods)
      (ofGeneric table config generic permutation types checks) := by
  simp only [ofGeneric_unfold, lift_candidates, lift_types]
  have collects : Confined (Fault.Blames table generic.methods)
      ((Candidate.collect table generic permutation types).mapError .candidates) :=
    (Candidate.collect_confined posed).mapError fun _ blames => blames
  refine collects.bind fun collected isCollected => ?_
  have belong : ∀ candidate ∈ collected, candidate.Belongs table generic permutation types :=
    fun candidate inside => .of_collect (Traversal.mapError_eq_ok.mp isCollected) inside
  have defined : ∀ candidate ∈ collected, candidate.TypesDefined table :=
    fun candidate inside => (belong candidate inside).typesDefined posed
  have sorts : Confined (Fault.Blames table generic.methods)
      ((Candidate.sort table collected).mapError .types) :=
    (Candidate.sort_confined (Candidate.confines_of_typesDefined defined)).mapError
      fun _ breaks => .inl breaks
  refine sorts.bind fun sorted isSorted => ?_
  have same := Candidate.sort_perm (Traversal.mapError_eq_ok.mp isSorted)
  exact ofCandidates_confined posed (fun candidate inside =>
    belong candidate (same.mem_iff.mp inside)) config _

def answer (registry : Registry) (table : TypeTable) (config : Config) (name : String)
    (types : List TypeId) (checks : Option Bool) : Except Fault Resolution := do
  if !config.isEnabled name then
    return .abstained (.disabled name) []
  let some generic := registry.find? name
    | return .abstained (.unknownGeneric name) []
  if types.length ≠ generic.arity then
    return .abstained (.arity name generic.arity types.length) []
  let informed ← (generic.methods.anyM fun method =>
    carriesInformation table method.specializers types : Except TypeTable.Fault Bool)
  if !informed then
    return .abstained (.noInformation name) []
  let permutation ← Precedence.permutation generic.params.required (some generic.precedence)
  ofGeneric table config generic permutation types checks

/-- **What the cache holds does not show**: resolution answers, or fails, as it does
without a cache. -/
theorem resolve_eq_answer (wellFormed : registry.WellFormed) (faithful : cache.Faithful)
    (table : TypeTable) (config : Config) (name : String) (types : List TypeId)
    (checks : Option Bool) :
    ∃ next, cache.Follows next ∧ resolve registry table config cache name types checks =
      (answer registry table config name types checks).map (·, next) := by
  rw [resolve_eq_unhooked]
  cases enabled : config.isEnabled name with
  | false => exact ⟨cache, .inl rfl, by simp [unhooked, answer, enabled, Except.map]⟩
  | true =>
      cases found : registry.find? name with
      | none => exact ⟨cache, .inl rfl, by simp [unhooked, answer, enabled, found, Except.map]⟩
      | some generic =>
          by_cases count : types.length = generic.arity
          · obtain ⟨permutation, permuted⟩ :=
              (wellFormed generic (Registry.find?_eq_some found).1).permutation
            obtain ⟨next, asked⟩ := Precedence.Cache.permutation_answers name faithful permuted
            have follows : cache.Follows next := .inr ⟨_, _, _, _, asked⟩
            cases informed : generic.methods.anyM (fun method =>
                carriesInformation table method.specializers types) with
            | error fault =>
                exact ⟨cache, .inl rfl, by
                  simp [unhooked, answer, enabled, found, count, lift_types, informed,
                    Except.mapError, bind, Except.bind, Except.map]⟩
            | ok informs =>
                cases informs with
                | false =>
                    exact ⟨cache, .inl rfl, by
                      simp [unhooked, answer, enabled, found, count, lift_types, informed,
                        Except.mapError, Except.map]⟩
                | true =>
                    refine ⟨next, follows, ?_⟩
                    simp only [unhooked, answer, enabled, found, count, lift_types, lift_precedence,
                      informed, asked, permuted, Except.mapError, Traversal.ok_bind, ne_eq,
                      Bool.not_true, Bool.false_eq_true, not_true_eq_false, if_false]
                    cases ofGeneric table config generic permutation types checks <;> rfl
          · exact ⟨cache, .inl rfl, by
              simp [unhooked, answer, enabled, found, count, Except.map]⟩

/-- **Resolution fails only where the table is broken or a method cannot be named.** -/
theorem answer_confined (wellFormed : registry.WellFormed)
    (registered : registry.Speaks (·.Registered table))
    (defined : ∀ type ∈ types, table.Defines type) (config : Config) (name : String)
    (checks : Option Bool) :
    Confined (Fault.Blames table (registry.methods name))
      (answer registry table config name types checks) := by
  unfold answer
  split
  · exact .ok _
  split
  · rename_i generic found
    split
    · exact .ok _
    · rename_i count
      have isGeneric := (Registry.find?_eq_some found).1
      have methods : registry.methods name = generic.methods := by rw [Registry.methods, found]; rfl
      obtain ⟨permutation, permuted⟩ := (wellFormed generic isGeneric).permutation
      have posed : Posed table generic permutation types :=
        ⟨wellFormed generic isGeneric, permuted, by simpa using count, defined,
          registered generic isGeneric⟩
      simp only [lift_types, lift_precedence, anyM_carriesInformation generic.methods defined,
        permuted, Except.mapError, Traversal.ok_bind]
      split
      · exact .ok _
      · exact methods ▸ ofGeneric_confined posed config checks
  · exact .ok _

private theorem isWritable_of_speaks (writable : registry.Speaks (·.isWritable = true))
    {method : Method} (isMethod : method ∈ registry.methods name) : method.isWritable = true := by
  cases found : registry.find? name with
  | none => simp [Registry.methods, found] at isMethod
  | some generic =>
      rw [Registry.methods, found] at isMethod
      exact List.all_eq_true.mpr (writable generic (Registry.find?_eq_some found).1 method isMethod)

/-- Over a whole table resolution answers if all values can be written, and the answer is
not the cache's doing. -/
theorem resolve_answers (whole : table.Whole) (wellFormed : registry.WellFormed)
    (registered : registry.Speaks (·.Registered table))
    (writable : registry.Speaks (·.isWritable = true))
    (defined : ∀ type ∈ types, table.Defines type) (config : Config) (name : String)
    (checks : Option Bool) :
    ∃ resolution, ∀ cache : Precedence.Cache, cache.Faithful →
      ∃ next, next.Faithful ∧
        resolve registry table config cache name types checks = .ok (resolution, next) := by
  obtain ⟨resolution, answered⟩ :=
    (answer_confined wellFormed registered defined config name checks).answers
      (not_blames_of_whole whole fun _ => isWritable_of_speaks writable)
  refine ⟨resolution, fun cache faithful => ?_⟩
  obtain ⟨next, follows, resolved⟩ :=
    resolve_eq_answer wellFormed faithful table config name types checks
  exact ⟨next, follows.faithful faithful, by rw [resolved, answered]; rfl⟩

end Resolution

/-! ## Inliners -/

/-- An inliner whose call site was resolved: the site is counted if it was inlined. -/
def Inliner.after (inliner : Inliner) (resolution : Resolution) (cache : Precedence.Cache) :
    Inliner :=
  { inliner with cache, inlined := Resolution.notified (· + 1) inliner.inlined resolution }

theorem Inliner.resolve_eq (inliner : Inliner) (name : String) (types : List TypeId)
    (checks : Option Bool) :
    inliner.resolve name types checks =
      (Resolution.resolve inliner.registry inliner.table inliner.config inliner.cache name types
        checks).map fun (resolution, next) => (resolution, inliner.after resolution next) := by
  rw [resolve, Resolution.resolveWith_eq]
  cases Resolution.resolve inliner.registry inliner.table inliner.config inliner.cache name types
    checks <;> rfl

private theorem Inliner.resolve_eq_answer (inliner : Inliner)
    (wellFormed : inliner.registry.WellFormed)
    (faithful : inliner.cache.Faithful) (name : String) (types : List TypeId)
    (checks : Option Bool) :
    ∃ next, inliner.cache.Follows next ∧ inliner.resolve name types checks =
      (Resolution.answer inliner.registry inliner.table inliner.config name types checks).map
        fun resolution => (resolution, inliner.after resolution next) := by
  obtain ⟨next, follows, resolved⟩ := Resolution.resolve_eq_answer wellFormed faithful
    inliner.table inliner.config name types checks
  refine ⟨next, follows, ?_⟩
  rw [resolve_eq, resolved]
  cases Resolution.answer inliner.registry inliner.table inliner.config name types checks <;> rfl

/-- **Resolution is total.** Take a registry that declarations and registrations have made,
a table that has the types of its methods, static types of that table, and a cache that was
only ever asked for permutations. Over a whole table the call site is resolved if the values
that its methods ask for can be written. Else a resolution may fail, but only with a fault
that the table or one of these values is to blame for. The outcome is the one of an empty
cache. A resolution leaves the inliner as it was but for the cache, which was again only
asked for permutations, and the count, which is one higher if the call site was inlined.
With any hook in place of the counting one the resolution is the same, and the hook is run
once if the call site was inlined and not at all if not. -/
theorem resolution_is_total (inliner : Inliner) (reached : inliner.registry.Reached)
    (registered : inliner.registry.Speaks (·.Registered inliner.table))
    (cached : inliner.cache.Reached) (name : String) (types : List TypeId)
    (defined : ∀ type ∈ types, inliner.table.Defines type) (checks : Option Bool) :
    (inliner.table.Whole →
      (∀ method ∈ inliner.registry.methods name, method.isWritable = true) →
      ∃ resolution next, inliner.resolve name types checks = .ok (resolution, next)) ∧
    (∀ fault, inliner.resolve name types checks = .error fault →
      fault.Blames inliner.table (inliner.registry.methods name)) ∧
    (inliner.resolve name types checks).map Prod.fst =
      ({ inliner with cache := {} }.resolve name types checks).map Prod.fst ∧
    (∀ resolution next, inliner.resolve name types checks = .ok (resolution, next) →
      next.cache.Reached ∧ next.registry = inliner.registry ∧ next.table = inliner.table ∧
      next.config = inliner.config ∧
      next.inlined = inliner.inlined + if resolution.isInlined then 1 else 0) ∧
    ∀ (σ : Type) (hook : σ → σ) (state : σ),
      Resolution.resolveWith hook state inliner.registry inliner.table inliner.config
        inliner.cache name types checks =
        (inliner.resolve name types checks).map fun (resolution, next) =>
          (resolution, next.cache, if resolution.isInlined then hook state else state) := by
  have wellFormed := reached.wellFormed
  have confined :=
    Resolution.answer_confined wellFormed registered defined inliner.config name checks
  obtain ⟨left, follows, resolved⟩ :=
    inliner.resolve_eq_answer wellFormed cached.faithful name types checks
  obtain ⟨fresh, -, freshResolved⟩ :=
    Inliner.resolve_eq_answer { inliner with cache := {} } wellFormed
      Precedence.Cache.Reached.empty.faithful name types checks
  refine ⟨fun whole writable => ?_, fun fault failed => ?_, ?_,
    fun resolution next answered => ?_, fun σ hook state => ?_⟩
  · obtain ⟨resolution, answered⟩ :=
      confined.answers (Resolution.not_blames_of_whole whole writable)
    exact ⟨resolution, inliner.after resolution left, by rw [resolved, answered]; rfl⟩
  · exact confined.map _ fault (resolved ▸ failed)
  · rw [resolved, freshResolved]
    cases Resolution.answer inliner.registry inliner.table inliner.config name types checks <;> rfl
  · rw [resolved] at answered
    obtain ⟨own, -, same⟩ := Traversal.map_eq_ok.mp answered
    cases same
    refine ⟨follows.reached cached, rfl, rfl, rfl, ?_⟩
    unfold Inliner.after Resolution.notified
    split <;> rfl
  · rw [Resolution.resolveWith_eq, inliner.resolve_eq]
    cases Resolution.resolve inliner.registry inliner.table inliner.config inliner.cache name types
      checks <;> rfl

namespace Sketching

/-- An open world of shapes without host classes. The literal type of five was put over
shapes before there was a type of shapes. -/
def shapes : TypeTable :=
  { TypeTable.empty true with
    definitions := #[.top, .literalType (.int 5) 3, .classType "Shape" [] none,
      .classType "Circle" [3] none] }

/-- What is left of a function of this name that had its parameters in another order. -/
def stale : Precedence.Cache :=
  ⟨[("draw", ⟨["arg0", "arg1"], ["arg1", "arg0"], [1, 0]⟩)]⟩

def sketcher : Inliner where
  registry := Registry.registerAll {} "draw" [([.ofType 3, .exactly (.int 5)], ⟨"five", false⟩),
    ([.ofType 4, .any], ⟨"circle", false⟩)]
  table := shapes
  config := { enableAll := true }
  cache := stale

/-- Drawing a shape and five is inlined: first it is checked for a circle. -/
theorem draw_resolution_is_total :
    sketcher.table.Whole ∧ sketcher.cache.Reached ∧ ∃ resolution next,
      sketcher.resolve "draw" [3, 2] none = .ok (resolution, next) ∧ next.inlined = 1 := by
  have whole : sketcher.table.Whole :=
    .of_measure (fun id => -id) (by decide +kernel) (by decide +kernel)
  have asked : Precedence.Cache.permutation {} "draw" ["arg0", "arg1"] ["arg1", "arg0"] =
      .ok ([1, 0], stale) := by decide +kernel
  have cached : sketcher.cache.Reached := .asked .empty asked
  obtain ⟨answers, -, -, leaves, -⟩ := resolution_is_total sketcher
    (Registry.Reached.empty.registerAll _ _) (by decide +kernel) cached "draw" [3, 2]
    (by decide +kernel) none
  obtain ⟨resolution, next, resolved⟩ := answers whole (by decide +kernel)
  obtain ⟨-, -, -, -, counted⟩ := leaves resolution next resolved
  have inlined : (sketcher.resolve "draw" [3, 2] none).toOption.map (·.1.isInlined) =
      some true := by
    simp only [Inliner.resolve, Resolution.resolveWith, Resolution.ofGenericWith, Candidate.sort,
      Candidate.byOrdinal_eq_insertionSort]
    decide +kernel
  rw [resolved] at inlined
  have isInlined : resolution.isInlined = true := Option.some.inj inlined
  exact ⟨whole, cached, resolution, next, resolved, by rw [counted, isInlined]; rfl⟩

end Sketching

namespace Straying

open TypeTable (stray winding)

def inlinerOver (table : TypeTable) : Inliner where
  registry := Registry.registerAll {} "f" [([.ofType 2], ⟨"two", false⟩),
    ([.ofType 3], ⟨"three", false⟩)]
  table := table
  config := { enableAll := true }

def exactFunction (value : Int) : GenericFunction where
  name := "f"
  params := { required := ["arg0"] }
  precedence := ["arg0"]
  methods := [⟨[.exactly (.int value)], ⟨"exact", false⟩, 0⟩]

def topTable : TypeTable :=
  { TypeTable.empty false with definitions := #[.top] }

def inlinerFor (value : Int) : Inliner where
  registry := { generics := [exactFunction value], nextOrdinal := 1 }
  table := topTable
  config := { enableAll := true }

/-- The method needs a check that may not be made, and cannot be named in the reason. -/
private theorem resolve_inlinerFor {value : Int} (unwritable : Number.isWritable value = false) :
    (inlinerFor value).resolve "f" [1] (some false) = .error (.types (.unwritable {})) := by
  let method : Method := ⟨[.exactly (.int value)], ⟨"exact", false⟩, 0⟩
  let candidate : Candidate := ⟨method, [.exactly (.int value)], [.ambiguous]⟩
  have collected : Candidate.collect (inlinerFor value).table (exactFunction value) [0] [1] =
      .ok [candidate] := rfl
  have sorted : Candidate.sort (inlinerFor value).table [candidate] = .ok [candidate] := by
    simp only [Candidate.sort, Candidate.byOrdinal_eq_insertionSort]
    rfl
  have undoubted : Resolution.orderDoubt? (inlinerFor value).table (inlinerFor value).config
      (exactFunction value) [candidate] = .ok none := rfl
  have unguarded : Cascade.emit (exactFunction value) [0] false [candidate] = .ok none := rfl
  have unnamed : method.label (.named (inlinerFor value).table) (exactFunction value).name =
      .error (.unwritable {}) := by
    simp only [Method.label, method, Naming.label, Specializer.label, Value.display,
      Value.isWritable, unwritable, List.mapM_cons]
    rfl
  have failed : Resolution.ofGeneric (inlinerFor value).table (inlinerFor value).config
      (exactFunction value) [0] [1] (some false) = .error (.types (.unwritable {})) := by
    simp only [Resolution.ofGeneric_unfold, Resolution.ofCandidates_unfold, collected, sorted,
      undoubted, unguarded, unnamed, candidate, Resolution.lift_candidates, Resolution.lift_types,
      Resolution.lift_cascade, Except.mapError, Traversal.ok_bind, Option.getD_some]
    rfl
  have opened : Resolution.unhooked (inlinerFor value).registry (inlinerFor value).table
      (inlinerFor value).config (inlinerFor value).cache "f" [1] (some false) = (do
        let resolution ← Resolution.ofGeneric (inlinerFor value).table (inlinerFor value).config
          (exactFunction value) [0] [1] (some false)
        return (resolution, ⟨[("f", ⟨["arg0"], ["arg0"], [0]⟩)]⟩)) := rfl
  rw [Inliner.resolve_eq, Resolution.resolve_eq_unhooked, opened, failed]
  rfl

private theorem exists_unwritable : ∃ value : Int, Number.isWritable value = false := by
  have long : ∀ limit, 0 < limit → ∃ value : Int, ¬ Number.digitCount value ≤ limit := by
    intro limit positive
    refine ⟨(Nat.pow 10 limit : Nat), ?_⟩
    rw [Number.digitCount, Int.natAbs_natCast, Nat.length_toDigits_le_iff (by decide) positive]
    exact Nat.lt_irrefl _
  obtain ⟨value, isLong⟩ := long Number.digitLimit (by decide)
  exact ⟨value, decide_eq_false isLong⟩

/-- **Resolution can fail.** Both broken tables can be made, because the base of a literal
type is not looked up, and they have all types that the call site and the methods name. Over
a whole table an integer can be too long to be named. -/
theorem resolution_can_fail :
    ((TypeTable.empty false).ensureTop.2.newLiteral (.int 5) (some 99)).2.newClass "A" [1] none =
      .ok (3, stray) ∧
    (((TypeTable.empty false).ensureTop.2.newLiteral (.int 1) (some 3)).2.newLiteral
      (.int 1) (some 2)).2 = winding ∧
    (∀ table ∈ [stray, winding], (inlinerOver table).registry.Reached ∧
      (inlinerOver table).registry.Speaks (·.Registered table) ∧ table.Defines 2) ∧
    (inlinerOver stray).resolve "f" [2] none =
      .error (.candidates (.types (.undefinedType 99))) ∧
    (inlinerOver winding).resolve "f" [2] none =
      .error (.candidates (.types (.endlessBases false))) ∧
    ∃ value, (inlinerFor value).registry.Reached ∧ (inlinerFor value).table.Whole ∧
      (inlinerFor value).resolve "f" [1] (some false) = .error (.types (.unwritable {})) := by
  refine ⟨TypeTable.stray_made, TypeTable.winding_made, fun table isTable => ?_, by rfl, by rfl, ?_⟩
  · refine ⟨Registry.Reached.empty.registerAll _ _, ?_⟩
    rcases List.mem_pair.mp isTable with rfl | rfl
    · decide +kernel
    · decide +kernel
  · obtain ⟨value, unwritable⟩ := exists_unwritable
    have reached : (inlinerFor value).registry.Reached :=
      Registry.Reached.empty.registerAll "f" [([.exactly (.int value)], ⟨"exact", false⟩)]
    have whole : topTable.Whole :=
      .of_measure (fun id => -id) (by decide +kernel) (by decide +kernel)
    exact ⟨value, reached, whole, resolve_inlinerFor unwritable⟩

end Straying

end StaticDispatch
