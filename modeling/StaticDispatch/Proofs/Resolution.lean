import StaticDispatch.Proofs.Candidate.Ranking
import StaticDispatch.Resolution

/-!
Contract: what resolution does at a call site.

At a call site over a mirroring table resolution ranks the candidates. It inlines
exactly if there is a candidate, no two candidates rest on their registration or
the configuration does not care, and the first candidate needs no check or checks
may be made.

Owns: when resolution inlines, and what the cascade then calls.
Does not own: how tables, registries and arguments come about.
-/

namespace StaticDispatch

open Candidate (Settled)
open Traversal (Confined)

variable {table later : TypeTable} {generic : GenericFunction} {permutation : List Nat}
  {types : List TypeId} {arguments ordered : List Value} {sorted : List Candidate}
  {registry : Registry} {config : Config} {cache next : Precedence.Cache} {name : String}
  {checks : Option Bool}

/-- Whether all values that a method asks for can be written. -/
def Method.isWritable (method : Method) : Bool :=
  method.specializers.all (·.isWritable)

namespace Resolution

/-! ## Steps of a resolution -/

section Lifted

variable {α : Type}

theorem lift_types (step : Except TypeTable.Fault α) :
    (liftM step : Except Fault α) = step.mapError .types := rfl

theorem lift_precedence (step : Except Precedence.Fault α) :
    (liftM step : Except Fault α) = step.mapError .precedence := rfl

theorem lift_candidates (step : Except Candidate.Fault α) :
    (liftM step : Except Fault α) = step.mapError .candidates := rfl

theorem lift_cascade (step : Except Cascade.Fault α) :
    (liftM step : Except Fault α) = step.mapError .cascade := rfl

end Lifted

/-! ## Resolution without a hook -/

def ofCandidates (table : TypeTable) (config : Config) (generic : GenericFunction)
    (permutation : List Nat) (checks : Bool) (candidates : List Candidate) :
    Except Fault Resolution :=
  (ofCandidatesWith id () table config generic permutation checks candidates).map Prod.fst

def ofGeneric (table : TypeTable) (config : Config) (generic : GenericFunction)
    (permutation : List Nat) (types : List TypeId) (checks : Option Bool) :
    Except Fault Resolution :=
  (ofGenericWith id () table config generic permutation types checks).map Prod.fst

section Hook

variable {σ : Type} (hook : σ → σ) (state : σ)

/-- What a hook leaves of the state if it is run once for a cascade, and never else. -/
def notified (resolution : Resolution) : σ :=
  if resolution.isInlined then hook state else state

theorem ofCandidatesWith_eq (table : TypeTable) (config : Config) (generic : GenericFunction)
    (permutation : List Nat) (checks : Bool) (candidates : List Candidate) :
    ofCandidatesWith hook state table config generic permutation checks candidates =
      (ofCandidates table config generic permutation checks candidates).map
        fun resolution => (resolution, notified hook state resolution) := by
  unfold ofCandidates
  cases candidates with
  | nil => rfl
  | cons top rest =>
      simp only [ofCandidatesWith, lift_types, lift_cascade]
      cases orderDoubt? table config generic (top :: rest) with
      | error fault => rfl
      | ok doubt =>
          cases doubt with
          | some abstention => rfl
          | none =>
              cases Cascade.emit generic permutation checks (top :: rest) with
              | error fault => rfl
              | ok cascade =>
                  cases cascade with
                  | some cascade => rfl
                  | none => cases top.method.label (.named table) generic.name <;> rfl

theorem ofGenericWith_eq (table : TypeTable) (config : Config) (generic : GenericFunction)
    (permutation : List Nat) (types : List TypeId) (checks : Option Bool) :
    ofGenericWith hook state table config generic permutation types checks =
      (ofGeneric table config generic permutation types checks).map
        fun resolution => (resolution, notified hook state resolution) := by
  simp only [ofGeneric, ofGenericWith, lift_candidates, lift_types]
  cases Candidate.collect table generic permutation types with
  | error fault => rfl
  | ok candidates =>
      simp only [Except.mapError, Traversal.ok_bind]
      cases Candidate.sort table candidates with
      | error fault => rfl
      | ok sorted =>
          simp only [Traversal.ok_bind, ofCandidatesWith_eq]
          cases ofCandidates table config generic permutation
            (checks.getD config.checksRequired) sorted <;> rfl

end Hook

/-- A call site resolved without a hook, step by step. -/
def unhooked (registry : Registry) (table : TypeTable) (config : Config)
    (cache : Precedence.Cache) (name : String) (types : List TypeId) (checks : Option Bool) :
    Except Fault (Resolution × Precedence.Cache) := do
  if !config.isEnabled name then
    return (.abstained (.disabled name) [], cache)
  let some generic := registry.find? name
    | return (.abstained (.unknownGeneric name) [], cache)
  if types.length ≠ generic.arity then
    return (.abstained (.arity name generic.arity types.length) [], cache)
  let informed ← (generic.methods.anyM fun method =>
    carriesInformation table method.specializers types : Except TypeTable.Fault Bool)
  if !informed then
    return (.abstained (.noInformation name) [], cache)
  let (permutation, cache) ← cache.permutation name generic.params.required generic.precedence
  return (← ofGeneric table config generic permutation types checks, cache)

private theorem resolveWith_eq_unhooked {σ : Type} (hook : σ → σ) (state : σ) (registry : Registry)
    (table : TypeTable) (config : Config) (cache : Precedence.Cache) (name : String)
    (types : List TypeId) (checks : Option Bool) :
    resolveWith hook state registry table config cache name types checks =
      (unhooked registry table config cache name types checks).map fun (resolution, next) =>
        (resolution, next, notified hook state resolution) := by
  unfold unhooked resolveWith
  cases config.isEnabled name with
  | false => rfl
  | true =>
      cases registry.find? name with
      | none => rfl
      | some generic =>
          by_cases miscounted : types.length ≠ generic.arity
          · simp only [if_pos miscounted]
            rfl
          · simp only [if_neg miscounted, ofGenericWith_eq, lift_types, lift_precedence]
            cases generic.methods.anyM fun method =>
                carriesInformation table method.specializers types with
            | error fault => rfl
            | ok informed =>
                cases informed with
                | false => rfl
                | true =>
                    cases cache.permutation name generic.params.required generic.precedence with
                    | error fault => rfl
                    | ok permuted =>
                        simp only [Except.mapError, Traversal.ok_bind]
                        cases ofGeneric table config generic permuted.1 types checks <;> rfl

theorem resolve_eq_unhooked (registry : Registry) (table : TypeTable) (config : Config)
    (cache : Precedence.Cache) (name : String) (types : List TypeId) (checks : Option Bool) :
    resolve registry table config cache name types checks =
      unhooked registry table config cache name types checks := by
  rw [resolve, resolveWith_eq_unhooked]
  cases unhooked registry table config cache name types checks <;> rfl

/-- **The hook is run exactly once for a cascade, and never else.** What it is and does
makes no difference to the resolution. -/
theorem resolveWith_eq {σ : Type} (hook : σ → σ) (state : σ) (registry : Registry)
    (table : TypeTable) (config : Config) (cache : Precedence.Cache) (name : String)
    (types : List TypeId) (checks : Option Bool) :
    resolveWith hook state registry table config cache name types checks =
      (resolve registry table config cache name types checks).map fun (resolution, next) =>
        (resolution, next, notified hook state resolution) := by
  rw [resolve_eq_unhooked, resolveWith_eq_unhooked]

theorem ofCandidates_unfold (table : TypeTable) (config : Config) (generic : GenericFunction)
    (permutation : List Nat) (checks : Bool) (top : Candidate) (rest : List Candidate) :
    ofCandidates table config generic permutation checks (top :: rest) = (do
      if let some doubt ← orderDoubt? table config generic (top :: rest) then
        return .abstained doubt (top :: rest)
      match ← Cascade.emit generic permutation checks (top :: rest) with
      | some cascade => return .inlined generic cascade (top :: rest)
      | none =>
          let label ← top.method.label (.named table) generic.name
          return .abstained (.ambiguousTop label) (top :: rest)) := by
  simp only [ofCandidates, ofCandidatesWith, lift_types, lift_cascade]
  cases orderDoubt? table config generic (top :: rest) with
  | error fault => rfl
  | ok doubt =>
      cases doubt with
      | some abstention => rfl
      | none =>
          cases Cascade.emit generic permutation checks (top :: rest) with
          | error fault => rfl
          | ok cascade =>
              cases cascade with
              | some cascade => rfl
              | none => cases top.method.label (.named table) generic.name <;> rfl

theorem ofGeneric_unfold (table : TypeTable) (config : Config) (generic : GenericFunction)
    (permutation : List Nat) (types : List TypeId) (checks : Option Bool) :
    ofGeneric table config generic permutation types checks = (do
      let candidates ← Candidate.collect table generic permutation types
      let sorted ← Candidate.sort table candidates
      ofCandidates table config generic permutation (checks.getD config.checksRequired)
        sorted) := by
  simp only [ofGeneric, ofGenericWith, lift_candidates, lift_types]
  cases Candidate.collect table generic permutation types with
  | error fault => rfl
  | ok candidates =>
      simp only [Except.mapError, Traversal.ok_bind]
      cases Candidate.sort table candidates <;> rfl

/-- The doubts about sorted candidates are those of the configuration. -/
theorem orderDoubt?_eq_none_iff (generic : GenericFunction) (mirrors : table.Mirrors) {arity : Nat}
    (suited : ∀ candidate ∈ sorted, Candidate.Suited table arity candidate) :
    orderDoubt? table config generic sorted = .ok none ↔
      (config.abstainOnUnordered = true → Settled table sorted) := by
  obtain ⟨pairs, pairsAre, pairsIff⟩ := Candidate.unorderedPairs_eq_nil_iff mirrors suited
  unfold orderDoubt?
  cases config.abstainOnUnordered with
  | false => simp
  | true =>
      rw [← pairsIff]
      simp only [if_true, pairsAre, Traversal.ok_bind]
      cases pairs with
      | nil => simp
      | cons pair rest =>
          simp only [reduceCtorEq, imp_false, not_true, iff_false]
          intro noDoubt
          obtain ⟨left, -, next⟩ := Traversal.bind_eq_ok.mp noDoubt
          obtain ⟨right, -, doubt⟩ := Traversal.bind_eq_ok.mp next
          cases doubt

/-- When sorted candidates are inlined, and into which cascade. -/
theorem ofCandidates_eq_inlined_iff {other : GenericFunction} {mayCheck : Bool}
    {cascade : Cascade} {candidates : List Candidate} :
    ofCandidates table config generic permutation mayCheck sorted =
        .ok (.inlined other cascade candidates) ↔
      other = generic ∧ candidates = sorted ∧
        orderDoubt? table config generic sorted = .ok none ∧
        Cascade.emit generic permutation mayCheck sorted = .ok (some cascade) := by
  cases sorted with
  | nil => simp [ofCandidates, ofCandidatesWith, Except.map, Cascade.emit]
  | cons top rest =>
      simp only [ofCandidates_unfold, lift_types, lift_cascade]
      constructor
      · intro inlined
        obtain ⟨doubt, isDoubt, trusted⟩ := Traversal.bind_eq_ok.mp inlined
        rw [Traversal.mapError_eq_ok] at isDoubt
        cases doubt with
        | some abstention => cases trusted
        | none =>
            obtain ⟨emitted, isEmitted, made⟩ := Traversal.bind_eq_ok.mp trusted
            rw [Traversal.mapError_eq_ok] at isEmitted
            cases emitted with
            | none =>
                obtain ⟨label, -, abstained⟩ := Traversal.bind_eq_ok.mp made
                cases abstained
            | some own =>
                cases made
                exact ⟨rfl, rfl, isDoubt, isEmitted⟩
      · rintro ⟨rfl, rfl, noDoubt, emitted⟩
        rw [noDoubt, emitted]
        rfl

/-- What resolution does with the candidates of a call site. -/
theorem ofGeneric_eq (site : Site table generic permutation types) (config : Config)
    (checks : Option Bool) :
    ∃ sorted, Ranking table generic permutation types sorted ∧
      ofGeneric table config generic permutation types checks =
        ofCandidates table config generic permutation (checks.getD config.checksRequired)
          sorted := by
  obtain ⟨sorted, sortedIs, ranking⟩ := Ranking.of_sort site
  refine ⟨sorted, ranking, ?_⟩
  simp only [ofGeneric_unfold, Candidate.collect_eq site, lift_candidates, lift_types,
    Except.mapError,
    Traversal.ok_bind, sortedIs]

/-- A resolution that inlines names the function that it resolves. -/
private theorem ofGeneric_eq_inlined {own : GenericFunction} {cascade : Cascade}
    (resolved : ofGeneric table config own permutation types checks =
      .ok (.inlined generic cascade sorted)) : generic = own := by
  rw [ofGeneric_unfold] at resolved
  obtain ⟨collected, -, remaining⟩ := Traversal.bind_eq_ok.mp resolved
  obtain ⟨candidates, -, ranked⟩ := Traversal.bind_eq_ok.mp remaining
  exact (ofCandidates_eq_inlined_iff.mp ranked).1

/-- What an inlined call site went through. -/
theorem resolve_eq_inlined (faithful : cache.Faithful) {cascade : Cascade}
    (resolved : resolve registry table config cache name types checks =
      .ok (.inlined generic cascade sorted, next)) :
    registry.find? name = some generic ∧ types.length = generic.arity ∧
      ∃ permutation, Precedence.permutation generic.params.required (some generic.precedence) =
          .ok permutation ∧
        ofGeneric table config generic permutation types checks =
          .ok (.inlined generic cascade sorted) := by
  rw [resolve_eq_unhooked, unhooked] at resolved
  split at resolved
  · cases resolved
  · cases found : registry.find? name with
    | none => simp [found] at resolved
    | some own =>
        simp only [found] at resolved
        split at resolved
        · cases resolved
        · rename_i count
          obtain ⟨informed, -, known⟩ := Traversal.bind_eq_ok.mp resolved
          split at known
          · cases known
          · obtain ⟨⟨permutation, left⟩, permuted, ranked⟩ := Traversal.bind_eq_ok.mp known
            rw [lift_precedence, Traversal.mapError_eq_ok] at permuted
            obtain ⟨resolution, isResolution, same⟩ := Traversal.bind_eq_ok.mp ranked
            cases same
            obtain rfl := ofGeneric_eq_inlined isResolution
            exact ⟨rfl, by simpa using count, permutation,
              (Precedence.Cache.permutation_spec faithful permuted).1, isResolution⟩

/-! ## When a call site is inlined -/

def inlines (registry : Registry) (table : TypeTable) (config : Config)
    (cache : Precedence.Cache) (name : String) (types : List TypeId) (checks : Option Bool) :
    Bool :=
  match resolve registry table config cache name types checks with
  | .ok (resolution, _) => resolution.isInlined
  | .error _ => false

theorem inlines_iff :
    inlines registry table config cache name types checks = true ↔
      ∃ generic cascade candidates next,
        resolve registry table config cache name types checks =
          .ok (.inlined generic cascade candidates, next) := by
  unfold inlines
  cases resolve registry table config cache name types checks with
  | error fault => simp
  | ok result =>
      obtain ⟨resolution, next⟩ := result
      cases resolution <;> simp [isInlined]

def callee? (registry : Registry) (table : TypeTable) (config : Config)
    (cache : Precedence.Cache) (name : String) (types : List TypeId) (checks : Option Bool)
    (later : TypeTable) (arguments : List Value) : Option Body :=
  match resolve registry table config cache name types checks with
  | .ok (.inlined _ cascade _, _) =>
      match cascade.select later arguments with
      | .ok (.method method) => some method.body
      | _ => none
  | _ => none

/-- A call site that is inlined names the function that the registry finds. -/
theorem exists_resolve_of_inlines (found : registry.find? name = some generic)
    (faithful : cache.Faithful)
    (inlined : inlines registry table config cache name types checks = true) :
    types.length = generic.arity ∧ ∃ cascade candidates next,
      resolve registry table config cache name types checks =
        .ok (.inlined generic cascade candidates, next) := by
  obtain ⟨own, cascade, candidates, next, resolved⟩ := inlines_iff.mp inlined
  obtain ⟨ownFound, count, -⟩ := resolve_eq_inlined faithful resolved
  rw [found] at ownFound
  cases ownFound
  exact ⟨count, cascade, candidates, next, resolved⟩

/-- Whether the methods of a function or the static types say anything at all. -/
def informs (table : TypeTable) (methods : List Method) (types : List TypeId) : Bool :=
  methods.any fun method =>
    !(method.specializers.all (·.isAny) && types.all fun type => (table.find? type).any (·.isTop))

theorem anyM_carriesInformation (methods : List Method)
    (defined : ∀ type ∈ types, table.Defines type) :
    methods.anyM (fun method => carriesInformation table method.specializers types) =
      .ok (informs table methods types) := by
  have tops : types.allM table.isTop =
      .ok (types.all fun type => (table.find? type).any (·.isTop)) := by
    apply Traversal.allM_ok
    intro type inside
    obtain ⟨definition, found⟩ := defined type inside
    simp only [TypeTable.isTop, TypeTable.get_of_find? found, Except.map, found, Option.any_some]
  apply Traversal.anyM_ok
  intro method _
  rw [carriesInformation, tops]
  rfl

/-- **What resolution does at a call site**: it ranks the candidates, unless the function
is not enabled or nothing is known. -/
theorem resolve_of_site (site : Site table generic permutation types)
    (found : registry.find? name = some generic) (faithful : cache.Faithful) (config : Config)
    (checks : Option Bool) :
    ∃ sorted next, Ranking table generic permutation types sorted ∧
      resolve registry table config cache name types checks =
        if config.isEnabled name = false then .ok (.abstained (.disabled name) [], cache)
        else if informs table generic.methods types = false then
          .ok (.abstained (.noInformation name) [], cache)
        else (ofCandidates table config generic permutation (checks.getD config.checksRequired)
          sorted).map (·, next) := by
  obtain ⟨next, permuted⟩ := Precedence.Cache.permutation_answers name faithful site.permuted
  obtain ⟨sorted, ranking, ofGenericIs⟩ := ofGeneric_eq site config checks
  refine ⟨sorted, next, ranking, ?_⟩
  simp only [resolve_eq_unhooked, unhooked, found, site.count, lift_types, lift_precedence,
    permuted,
    anyM_carriesInformation generic.methods site.defined, Except.mapError, Traversal.ok_bind,
    ofGenericIs]
  cases config.isEnabled name <;> cases informs table generic.methods types <;> simp
  cases ofCandidates table config generic permutation (checks.getD config.checksRequired) sorted <;>
    rfl

/-- A method of a call site can be named, unless it asks for a value that cannot be
written. -/
theorem label_confined (posed : Posed table generic permutation types) {method : Method}
    (isMethod : method ∈ generic.methods) :
    Confined (fun fault => fault = .unwritable {} ∧ method.isWritable = false)
      (method.label (.named table) generic.name) := by
  have labels : Confined (fun fault => fault = .unwritable {} ∧ method.isWritable = false)
      (method.specializers.mapM (Naming.named table).label) := by
    refine .mapM fun specializer inside fault failed => ?_
    obtain ⟨isFault, unwritable⟩ :=
      Specializer.label_confined (posed.registered method isMethod specializer inside) fault failed
    exact ⟨isFault, List.all_eq_false.mpr ⟨specializer, inside, by simp [unwritable]⟩⟩
  exact labels.bind fun texts _ => .ok _

/-- Trusted candidates are inlined if checks may be made or the first needs none; else
resolution abstains because of the first, if that can be named. -/
theorem ofCandidates_of_trusted (site : Site table generic permutation types)
    {top : Candidate} {rest : List Candidate}
    (ranking : Ranking table generic permutation types (top :: rest))
    (trusted : config.abstainOnUnordered = true → Settled table (top :: rest))
    (mayCheck : Bool) :
    if mayCheck || top.isDefinite then
      ∃ cascade, ofCandidates table config generic permutation mayCheck (top :: rest) =
        .ok (.inlined generic cascade (top :: rest))
    else
      (∃ label, ofCandidates table config generic permutation mayCheck (top :: rest) =
        .ok (.abstained (.ambiguousTop label) (top :: rest))) ∨
      top.method.isWritable = false ∧
        ofCandidates table config generic permutation mayCheck (top :: rest) =
          .error (.types (.unwritable {})) := by
  have noDoubt := (orderDoubt?_eq_none_iff generic site.mirrors fun candidate inside =>
    Ranking.suited_of_belongs site (ranking.belong candidate inside)).mpr trusted
  cases mayCheck with
  | true =>
      obtain ⟨cascade, guarded⟩ := Cascade.guarded_answers site.posed ranking.belong
      exact ⟨cascade, ofCandidates_eq_inlined_iff.mpr ⟨rfl, rfl, noDoubt, by
        simp [Cascade.emit, guarded, Except.map]⟩⟩
  | false =>
      cases definite : top.isDefinite with
      | true =>
          exact ⟨⟨generic.name, [], .method top.method⟩,
            ofCandidates_eq_inlined_iff.mpr ⟨rfl, rfl, noDoubt, by simp [Cascade.emit, definite]⟩⟩
      | false =>
          have named := label_confined site.posed (ranking.belong top (by simp)).isMethod
          simp only [ofCandidates_unfold, noDoubt, Cascade.emit, definite, lift_types,
            lift_cascade, Except.mapError, Traversal.ok_bind, Bool.false_eq_true, if_false]
          cases isLabel : top.method.label (.named table) generic.name with
          | ok label => exact Or.inl ⟨label, rfl⟩
          | error fault =>
              obtain ⟨rfl, unwritable⟩ := named fault isLabel
              exact Or.inr ⟨unwritable, rfl⟩

/-- When the ranked candidates of a call site are inlined. -/
private theorem exists_inlined_iff (site : Site table generic permutation types)
    (ranking : Ranking table generic permutation types sorted) {mayCheck : Bool} :
    (∃ cascade, ofCandidates table config generic permutation mayCheck sorted =
        .ok (.inlined generic cascade sorted)) ↔
      ∃ top rest, sorted = top :: rest ∧
        (config.abstainOnUnordered = true → Settled table sorted) ∧
        (mayCheck || top.isDefinite) = true := by
  constructor
  · rintro ⟨cascade, inlined⟩
    obtain ⟨-, -, noDoubt, emitted⟩ := ofCandidates_eq_inlined_iff.mp inlined
    have settled := (orderDoubt?_eq_none_iff generic site.mirrors fun candidate inside =>
      Ranking.suited_of_belongs site (ranking.belong candidate inside)).mp noDoubt
    cases sorted with
    | nil => cases emitted
    | cons top rest =>
        refine ⟨top, rest, rfl, settled, ?_⟩
        by_contra neither
        simp only [Bool.or_eq_true, not_or, Bool.not_eq_true] at neither
        simp [Cascade.emit, neither] at emitted
  · rintro ⟨top, rest, rfl, settled, either⟩
    simpa [either] using ofCandidates_of_trusted site ranking settled mayCheck

/-- **When a call site is inlined.** -/
theorem inlines_iff_of_site (site : Site table generic permutation types)
    (found : registry.find? name = some generic) (faithful : cache.Faithful) (config : Config)
    (checks : Option Bool) :
    ∃ sorted next, Ranking table generic permutation types sorted ∧
      (inlines registry table config cache name types checks = true ↔
        config.isEnabled name = true ∧ informs table generic.methods types = true ∧
          ∃ top rest, sorted = top :: rest ∧
            (config.abstainOnUnordered = true → Settled table sorted) ∧
            (checks.getD config.checksRequired || top.isDefinite) = true) ∧
      (config.isEnabled name = true → informs table generic.methods types = true →
        resolve registry table config cache name types checks =
          (ofCandidates table config generic permutation (checks.getD config.checksRequired)
            sorted).map (·, next)) := by
  obtain ⟨sorted, next, ranking, resolved⟩ := resolve_of_site site found faithful config checks
  refine ⟨sorted, next, ranking, ?_, fun enabled informed => by simp [resolved, enabled, informed]⟩
  rw [inlines_iff, resolved, ← exists_inlined_iff site ranking]
  cases config.isEnabled name with
  | false => simp
  | true =>
      cases informs table generic.methods types with
      | false => simp
      | true =>
          simp only [Bool.true_eq_false, if_false, true_and]
          constructor
          · rintro ⟨own, cascade, candidates, left, inlined⟩
            obtain ⟨resolution, isResolution, same⟩ := Traversal.map_eq_ok.mp inlined
            cases same
            obtain ⟨rfl, rfl, -, -⟩ := ofCandidates_eq_inlined_iff.mp isResolution
            exact ⟨cascade, isResolution⟩
          · rintro ⟨cascade, inlined⟩
            exact ⟨generic, cascade, sorted, next, by rw [inlined]; rfl⟩

end Resolution

/-! ## Inlined call sites -/

structure Inlining (registry : Registry) (table : TypeTable) (config : Config)
    (types : List TypeId) (generic : GenericFunction) (cascade : Cascade)
    (sorted : List Candidate) (permutation : List Nat) : Prop where
  found : registry.find? generic.name = some generic
  site : Site table generic permutation types
  ranking : Ranking table generic permutation types sorted
  settled : config.abstainOnUnordered = true → Settled table sorted
  emitted : ∃ checks, Cascade.emit generic permutation checks sorted = .ok (some cascade)

theorem Inlining.of_site (site : Site table generic permutation types)
    (faithful : cache.Faithful) {cascade : Cascade}
    (resolved : Resolution.resolve registry table config cache name types checks =
      .ok (.inlined generic cascade sorted, next)) :
    Inlining registry table config types generic cascade sorted permutation := by
  obtain ⟨found, -, own, ownPermuted, isResolution⟩ :=
    Resolution.resolve_eq_inlined faithful resolved
  rw [site.permuted] at ownPermuted
  cases ownPermuted
  obtain ⟨ranked, ranking, resolutionIs⟩ := Resolution.ofGeneric_eq site config checks
  rw [resolutionIs, Resolution.ofCandidates_eq_inlined_iff] at isResolution
  obtain ⟨-, rfl, noDoubt, emitted⟩ := isResolution
  have settled := (Resolution.orderDoubt?_eq_none_iff generic site.mirrors fun candidate inside =>
    Ranking.suited_of_belongs site (ranking.belong candidate inside)).mp noDoubt
  exact ⟨(Registry.find?_eq_some found).2 ▸ found, site, ranking, settled, _, emitted⟩

theorem Inlining.of_resolve (mirrors : table.Mirrors) (wellFormed : registry.WellFormed)
    (grounded : ∀ method ∈ generic.methods, AllGrounded table method.specializers)
    (faithful : cache.Faithful)
    (defined : ∀ type ∈ types, table.Defines type)
    {cascade : Cascade}
    (resolved : Resolution.resolve registry table config cache name types checks =
      .ok (.inlined generic cascade sorted, next))
    (permuted : Precedence.permutation generic.params.required (some generic.precedence) =
      .ok permutation) :
    Inlining registry table config types generic cascade sorted permutation := by
  obtain ⟨found, count, -⟩ := Resolution.resolve_eq_inlined faithful resolved
  exact .of_site ⟨mirrors, wellFormed generic (Registry.find?_eq_some found).1, permuted, count,
    defined, grounded⟩ faithful resolved

/-- The method that a call through a cascade ends in, if any. -/
def Cascade.outcome (cascade : Cascade) (registry : Registry) (table : TypeTable)
    (arguments : List Value) : Except Dispatch.Fault (Option Method) :=
  match cascade.select table arguments with
  | .error fault => .error (.types fault)
  | .ok (.method method) => .ok (some method)
  | .ok (.dispatch name) =>
      match registry.find? name with
      | none => .error (.unknownGeneric name)
      | some generic => (Dispatch.applicable table generic arguments).map List.head?

namespace Inlining

variable {cascade : Cascade}
  (inlining : Inlining registry table config types generic cascade sorted permutation)
  (situation : Situation table later generic permutation types arguments ordered)

include inlining situation

theorem select_eq :
    cascade.select later arguments =
      .ok (Candidate.choose later ordered generic.name sorted) := by
  obtain ⟨checks, emitted⟩ := inlining.emitted
  exact Cascade.emit_select situation inlining.ranking.belong emitted

/-- **A cascade ends where dynamic dispatch does**, if no two of its candidates rest
on their registration. -/
theorem outcome_eq_head? (strict : config.abstainOnUnordered = true)
    (nominal : ∀ method ∈ generic.methods, AllNominal table method.specializers) :
    ∃ methods, Dispatch.applicable later generic arguments = .ok methods ∧
      cascade.outcome registry later arguments = .ok methods.head? := by
  obtain ⟨methods, applicableIs, headIs⟩ :=
    inlining.ranking.applicable_head?_eq situation (inlining.settled strict) nominal
  refine ⟨methods, applicableIs, ?_⟩
  rw [Cascade.outcome, inlining.select_eq situation, Candidate.choose]
  cases isBest : sorted.find? (Candidate.isMet later ordered) with
  | none => simp only [inlining.found, applicableIs, Except.map]
  | some best => rw [headIs, isBest, Option.map_some]

/-- **What a cascade calls accepts the arguments**, whatever the order of its
candidates, and it only goes on to dynamic dispatch if no method does. -/
theorem select_accepts :
    ∃ final, cascade.select later arguments = .ok final ∧
      (∀ method, final = .method method →
        method ∈ generic.methods ∧ Dispatch.accepts later method arguments = .ok true) ∧
      ∀ name, final = .dispatch name →
        (∀ method ∈ generic.methods, Dispatch.accepts later method arguments = .ok false) ∧
          Dispatch.applicable later generic arguments = .ok [] := by
  refine ⟨_, inlining.select_eq situation, fun method called => ?_, fun name reached => ?_⟩
  · unfold Candidate.choose at called
    split at called
    · rename_i best isBest
      cases called
      have belongs := inlining.ranking.belong best (List.mem_of_find?_eq_some isBest)
      refine ⟨belongs.isMethod, ?_⟩
      rw [← Dispatch.accepts_required situation belongs.isMethod,
        Dispatch.accepts_eq situation belongs.classified belongs.isMethod,
        List.find?_some isBest]
    · cases called
  · unfold Candidate.choose at reached
    split at reached
    · cases reached
    · rename_i noneMet
      refine ⟨fun method isMethod => ?_, Dispatch.applicable_eq_nil situation fun candidate =>
        inlining.ranking.not_isMet_of_find? situation noneMet⟩
      obtain ⟨-, candidate, rfl, classified, -⟩ :=
        Candidate.ofMethod?_spec inlining.site isMethod
      rw [← Dispatch.accepts_required situation isMethod,
        Dispatch.accepts_eq situation classified isMethod,
        inlining.ranking.not_isMet_of_find? situation noneMet isMethod classified]

end Inlining

end StaticDispatch
