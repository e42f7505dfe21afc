import StaticDispatch.Proofs.Declaration.CallSite
import StaticDispatch.Proofs.Scenario

/-!
Contract: how the order of registration bears on resolution.

Two functions with the same methods in different orders have the same candidates at
a call site, up to their places. With checks they are inlined together. Without
checks the first candidate counts, and the order of registration decides which one
is first among candidates that share no arguments; but one that is in the way is
satisfied by no arguments. Where both are inlined, both cascades call the same
method.

Owns: functions that differ in the order of their methods, and their call sites.
Does not own: what a registry refuses.
-/

namespace StaticDispatch

open Candidate (Settled)
open Declaration (World)

/-- Two functions that differ in the order of their methods only. -/
structure GenericFunction.Reorders (first second : GenericFunction) : Prop where
  name : first.name = second.name
  params : first.params = second.params
  precedence : first.precedence = second.precedence
  methods : (first.methods.map Method.content).Perm (second.methods.map Method.content)

/-- Two candidates that differ in the places of their methods only. -/
structure Candidate.Alike (first second : Candidate) : Prop where
  content : first.method.content = second.method.content
  specializers : first.specializers = second.specializers
  classes : first.classes = second.classes

/-- Two cascades end in the same way: in methods with the same specializers and body, or
in dynamic dispatch of the same function. -/
def Cascade.Final.Agrees : Cascade.Final → Cascade.Final → Prop
  | .method first, .method second => first.content = second.content
  | .dispatch first, .dispatch second => first = second
  | _, _ => False

variable {table later : TypeTable} {first second : GenericFunction} {permutation : List Nat}
  {types : List TypeId} {arguments ordered : List Value} {firsts seconds : List Candidate}

theorem GenericFunction.Reorders.symm (reorders : first.Reorders second) : second.Reorders first :=
  ⟨reorders.name.symm, reorders.params.symm, reorders.precedence.symm, reorders.methods.symm⟩

private theorem Candidate.Alike.isMet_eq {candidate other : Candidate}
    (alike : candidate.Alike other) :
    candidate.isMet later ordered = other.isMet later ordered := by
  rw [Candidate.isMet, Candidate.isMet, alike.specializers]

private theorem informs_eq (reorders : first.Reorders second) :
    Resolution.informs table first.methods types =
      Resolution.informs table second.methods types := by
  have byContent : ∀ methods : List Method, Resolution.informs table methods types =
      (methods.map Method.content).any fun content =>
        !(content.1.all (·.isAny) && types.all fun type => (table.find? type).any (·.isTop)) := by
    intro methods
    rw [List.any_map]
    rfl
  rw [byContent, byContent, reorders.methods.any_eq]

/-- Each candidate of one function has its like among those of the other. -/
theorem exists_alike (reorders : first.Reorders second)
    (ranking : Ranking table second permutation types seconds) {candidate : Candidate}
    (belongs : candidate.Belongs table first permutation types) :
    ∃ other ∈ seconds, candidate.Alike other := by
  have content : candidate.method.content ∈ second.methods.map Method.content :=
    reorders.methods.mem_iff.mp (List.mem_map_of_mem belongs.isMethod)
  obtain ⟨method, isMethod, same⟩ := List.mem_map.mp content
  have sameSpecializers : method.specializers = candidate.method.specializers :=
    congrArg Prod.fst same
  refine ⟨{ candidate with method }, ranking.complete _ ⟨isMethod, ⟨?_, ?_⟩, ?_⟩,
    same.symm, rfl, rfl⟩
  · rw [sameSpecializers]
    exact belongs.classified.arranged
  · exact belongs.classified.classified
  · exact belongs.noneInapplicable

private theorem settled_of_reorders (reorders : first.Reorders second)
    (firstSite : Site table first permutation types)
    (secondSite : Site table second permutation types)
    (firstRanking : Ranking table first permutation types firsts)
    (secondRanking : Ranking table second permutation types seconds)
    (settled : Settled table firsts) : Settled table seconds := by
  rw [firstRanking.settled_iff firstSite] at settled
  rw [secondRanking.settled_iff secondSite]
  intro left leftIn right rightIn different
  obtain ⟨leftLike, leftLikeIn, leftAlike⟩ :=
    exists_alike reorders.symm firstRanking (secondRanking.belong left leftIn)
  obtain ⟨rightLike, rightLikeIn, rightAlike⟩ :=
    exists_alike reorders.symm firstRanking (secondRanking.belong right rightIn)
  rw [leftAlike.specializers, rightAlike.specializers] at different
  have apart := settled leftLike leftLikeIn rightLike rightLikeIn different
  rw [← apart]
  simp only [Candidate.restsOnRegistration, Candidate.areCoApplicable, Candidate.isUndecided,
    leftAlike.specializers, rightAlike.specializers]

/-! ## Calls -/

section Situated

variable (reorders : first.Reorders second)
  (firstSituation : Situation table later first permutation types arguments ordered)
  (secondSituation : Situation table later second permutation types arguments ordered)
  (firstRanking : Ranking table first permutation types firsts)
  (secondRanking : Ranking table second permutation types seconds)
  (firstSettled : Settled table firsts) (secondSettled : Settled table seconds)

include reorders firstSituation secondSituation firstRanking secondRanking
  firstSettled secondSettled

/-- The first candidates that arguments satisfy are alike: each would outrank the
other's like if they were not. -/
theorem alike_of_find? {best other : Candidate}
    (isBest : firsts.find? (Candidate.isMet later ordered) = some best)
    (isOther : seconds.find? (Candidate.isMet later ordered) = some other) : best.Alike other := by
  have site := firstSituation.site
  have bestBelongs := firstRanking.belong best (List.mem_of_find?_eq_some isBest)
  have otherBelongs := secondRanking.belong other (List.mem_of_find?_eq_some isOther)
  obtain ⟨bestLike, bestLikeIn, bestAlike⟩ := exists_alike reorders secondRanking bestBelongs
  obtain ⟨otherLike, otherLikeIn, otherAlike⟩ :=
    exists_alike reorders.symm firstRanking otherBelongs
  have bestLikeMet : bestLike.isMet later ordered = true :=
    bestAlike.isMet_eq ▸ List.find?_some isBest
  have otherLikeMet : otherLike.isMet later ordered = true :=
    otherAlike.isMet_eq ▸ List.find?_some isOther
  rcases secondRanking.outranks_of_find? secondSituation secondSettled isOther bestLikeIn
    bestLikeMet with rfl | outranked
  · exact bestAlike
  · rcases firstRanking.outranks_of_find? firstSituation firstSettled isBest otherLikeIn
      otherLikeMet with rfl | outranks
    · exact ⟨otherAlike.content.symm, otherAlike.specializers.symm, otherAlike.classes.symm⟩
    · rw [← bestAlike.specializers] at outranked
      rw [← otherAlike.specializers] at outranks
      exact absurd outranked (outranks.asymm site.mirrors
        (Ranking.suited_of_belongs site bestBelongs).grounded)

/-- **Both orders choose the same method.** -/
theorem choose_agrees :
    (Candidate.choose later ordered first.name firsts).Agrees
      (Candidate.choose later ordered second.name seconds) := by
  unfold Candidate.choose
  cases isBest : firsts.find? (Candidate.isMet later ordered) with
  | none =>
      cases isOther : seconds.find? (Candidate.isMet later ordered) with
      | none => exact reorders.name
      | some other =>
          obtain ⟨like, likeIn, alike⟩ := exists_alike reorders.symm firstRanking
            (secondRanking.belong other (List.mem_of_find?_eq_some isOther))
          exact absurd (alike.isMet_eq ▸ List.find?_some isOther)
            (List.find?_eq_none.mp isBest like likeIn)
  | some best =>
      cases isOther : seconds.find? (Candidate.isMet later ordered) with
      | none =>
          obtain ⟨like, likeIn, alike⟩ := exists_alike reorders secondRanking
            (firstRanking.belong best (List.mem_of_find?_eq_some isBest))
          exact absurd (alike.isMet_eq ▸ List.find?_some isBest)
            (List.find?_eq_none.mp isOther like likeIn)
      | some other =>
          exact (alike_of_find? reorders firstSituation secondSituation firstRanking secondRanking
            firstSettled secondSettled isBest isOther).content

end Situated

/-! ## Resolution -/

/-- A call site is given up because of a method that needs a check and comes first:
resolution abstains and names the method, or fails because that cannot be named. -/
def Resolution.GivesUp (registry : Registry) (table : TypeTable) (config : Config)
    (cache : Precedence.Cache) (name : String) (types : List TypeId) (checks : Option Bool)
    (method : Method) : Prop :=
  (∃ label top rest next, top.method = method ∧
    resolve registry table config cache name types checks =
      .ok (.abstained (.ambiguousTop label) (top :: rest), next)) ∨
  method.isWritable = false ∧
    resolve registry table config cache name types checks = .error (.types (.unwritable {}))

/-- If the first order is inlined, so is the second, unless its first candidate needs a
check that may not be made. -/
theorem inlines_or_givesUp {left right : Registry} {config : Config}
    {cache otherCache : Precedence.Cache} {name : String} {checks : Option Bool}
    (reorders : first.Reorders second) (firstSite : Site table first permutation types)
    (secondSite : Site table second permutation types)
    (firstFound : left.find? name = some first) (secondFound : right.find? name = some second)
    (faithful : cache.Faithful) (otherFaithful : otherCache.Faithful)
    (strict : config.abstainOnUnordered = true)
    (inlined : Resolution.inlines left table config cache name types checks = true) :
    Resolution.inlines right table config otherCache name types checks = true ∨
      checks.getD config.checksRequired = false ∧ ∃ top rest best others,
        Resolution.GivesUp right table config otherCache name types checks top.method ∧
        Ranking table second permutation types (top :: rest) ∧ Settled table (top :: rest) ∧
        Ranking table first permutation types (best :: others) ∧ Settled table (best :: others) ∧
        best.isDefinite = true ∧ top.isDefinite = false := by
  obtain ⟨firsts, -, firstRanking, firstIff, -⟩ :=
    Resolution.inlines_iff_of_site firstSite firstFound faithful config checks
  obtain ⟨seconds, next, secondRanking, secondIff, secondResolved⟩ :=
    Resolution.inlines_iff_of_site secondSite secondFound otherFaithful config checks
  obtain ⟨enabled, informed, best, others, rfl, firstSettled, mayInline⟩ := firstIff.mp inlined
  have firstSettled := firstSettled strict
  have secondSettled := settled_of_reorders reorders firstSite secondSite firstRanking
    secondRanking firstSettled
  rw [informs_eq reorders] at informed
  obtain ⟨like, likeIn, -⟩ :=
    exists_alike reorders secondRanking (firstRanking.belong best (by simp))
  obtain ⟨top, rest, rfl⟩ := List.exists_cons_of_ne_nil (List.ne_nil_of_mem likeIn)
  rw [secondIff]
  have trusted := Resolution.ofCandidates_of_trusted secondSite secondRanking
    (fun _ : config.abstainOnUnordered = true => secondSettled)
    (checks.getD config.checksRequired)
  cases mayAlso : checks.getD config.checksRequired || top.isDefinite with
  | true => exact Or.inl ⟨enabled, informed, top, rest, rfl, fun _ => secondSettled, mayAlso⟩
  | false =>
      simp only [mayAlso, Bool.false_eq_true, if_false] at trusted
      obtain ⟨noChecks, indefinite⟩ := Bool.or_eq_false_iff.mp mayAlso
      rw [noChecks, Bool.false_or] at mayInline
      refine Or.inr ⟨noChecks, top, rest, best, others, ?_, secondRanking, secondSettled,
        firstRanking, firstSettled, mayInline, indefinite⟩
      have resolved := secondResolved enabled informed
      rcases trusted with ⟨label, abstained⟩ | ⟨unwritable, failed⟩
      · exact Or.inl ⟨label, top, rest, next, rfl, by rw [resolved, abstained]; rfl⟩
      · exact Or.inr ⟨unwritable, by rw [resolved, failed]; rfl⟩

/-- A candidate in front that needs a check is satisfied by no arguments, if the other
order has one in front that needs none. -/
private theorem not_isMet_of_definite (reorders : first.Reorders second)
    (firstSituation : Situation table later first permutation types arguments ordered)
    (secondSituation : Situation table later second permutation types arguments ordered)
    {best top : Candidate} {others rest : List Candidate}
    (firstRanking : Ranking table first permutation types (best :: others))
    (secondRanking : Ranking table second permutation types (top :: rest))
    (firstSettled : Settled table (best :: others)) (secondSettled : Settled table (top :: rest))
    (definite : best.isDefinite = true) (indefinite : top.isDefinite = false) :
    top.isMet later ordered = false := by
  rw [Bool.eq_false_iff]
  intro met
  have belongs := firstRanking.belong best (by simp)
  have bestMet := belongs.classified.isMet_of_isDefinite firstSituation belongs.isMethod definite
  have alike := alike_of_find? reorders firstSituation secondSituation firstRanking secondRanking
    firstSettled secondSettled (List.find?_cons_of_pos bestMet) (List.find?_cons_of_pos met)
  rw [Candidate.isDefinite, alike.classes, ← Candidate.isDefinite, indefinite] at definite
  cases definite

/-! ## Registration -/

/-- A declared type hierarchy and what becomes of it: classes are declared one by one, or
by a text whose call sites are read. -/
inductive TypeTable.Evolves : TypeTable → TypeTable → Prop where
  | scenario {openWorld : Bool} {scenario later : Scenario}
      (built : Scenario.Steps (Scenario.empty openWorld) scenario)
      (used : Scenario.Steps scenario later) : Evolves scenario.table later.table
  | session {file : Option String} {text : String} {world : World} {table later : TypeTable}
      (loaded : World.load file text = .ok world) (opened : Session world.table table)
      (used : Session table later) : Evolves table later

theorem TypeTable.Evolves.spec (evolves : table.Evolves later) :
    table.Mirrors ∧ later.Mirrors ∧ table.Extends later := by
  cases evolves with
  | scenario built used =>
      obtain ⟨aligned, -⟩ := built.spec (Scenario.empty_aligned _)
      obtain ⟨laterAligned, growth⟩ := used.spec aligned
      exact ⟨aligned.mirrors, laterAligned.mirrors, growth⟩
  | session loaded opened used =>
      have invariant := World.Loaded.of_load loaded
      obtain ⟨mirrors, opening⟩ := opened.spec invariant.mirrors invariant.builtin
      obtain ⟨laterMirrors, growth⟩ :=
        used.spec mirrors (invariant.builtin.trans opening.classes)
      exact ⟨mirrors, laterMirrors, growth⟩

/-- A value that the table foresees: in a closed world, its class combines no two registered
classes that no registered class combines. -/
def TypeTable.ForeseesAll (table later : TypeTable) (value : Value) : Prop :=
  ∀ id, table.Foresees later value id

variable {start : Registry} {generic : GenericFunction} {name : String}
  {entries others : List (List Specializer × Body)}

/-- Arguments that may be passed make a situation at every site with the same static
types. -/
theorem situation_of_mayPass (growth : table.Extends later) (laterMirrors : later.Mirrors)
    (permuted : Precedence.permutation generic.params.required (some generic.precedence) =
      .ok permutation)
    (passes : MayPass later generic types (table.ForeseesAll later) arguments) :
    ∃ ordered, ∀ {own : GenericFunction}, Site table own permutation types →
      Situation table later own permutation types arguments ordered := by
  obtain ⟨other, ordered, otherPermuted, consistent, foreseen⟩ := passes
  rw [permuted] at otherPermuted
  cases otherPermuted
  refine ⟨ordered, fun site => ⟨site, growth, laterMirrors, consistent, ?_⟩⟩
  intro method isMethod specializer inside value isArgument
  cases specializer with
  | any => trivial
  | exactly wanted => trivial
  | ofType id => exact foreseen value isArgument id

/-- What is left of methods that are registered in two orders. -/
theorem exists_reorders (found : start.find? name = some generic) (empty : generic.methods = [])
    (same : entries.Perm others)
    (distinct : entries.Pairwise fun first second => ¬ SameKey first.1 second.1) :
    ∃ methods otherMethods,
      (start.registerAll name entries).find? name = some { generic with methods } ∧
      (start.registerAll name others).find? name =
        some { generic with methods := otherMethods } ∧
      { generic with methods }.Reorders { generic with methods := otherMethods } ∧
      (∀ method ∈ methods, method.content ∈ entries) ∧
      ∀ method ∈ otherMethods, method.content ∈ entries := by
  have isNew : ∀ entry : List Specializer × Body, ∀ method ∈ generic.methods,
      ¬ SameKey method.specializers entry.1 := by simp [empty]
  obtain ⟨methods, methodsFound, contents⟩ :=
    Registry.registerAll_spec found distinct fun entry _ => isNew entry
  obtain ⟨otherMethods, othersFound, otherContents⟩ :=
    Registry.registerAll_spec found
      ((same.pairwise_iff fun different equal => different equal.symm).mp distinct)
      fun entry _ => isNew entry
  rw [empty, List.map_nil, List.nil_append] at contents otherContents
  refine ⟨methods, otherMethods, methodsFound, othersFound, ⟨rfl, rfl, rfl, ?_⟩,
    fun method isMethod => ?_, fun method isMethod => ?_⟩
  · rw [contents, otherContents]
    exact same.filter _
  · have inside : method.content ∈ methods.map Method.content := List.mem_map_of_mem isMethod
    rw [contents] at inside
    exact List.mem_of_mem_filter inside
  · have inside : method.content ∈ otherMethods.map Method.content :=
      List.mem_map_of_mem isMethod
    rw [otherContents] at inside
    exact same.mem_iff.mpr (List.mem_of_mem_filter inside)

/-- One function whose methods were registered in two orders. -/
structure Reordering (table : TypeTable) (types : List TypeId) (permutation : List Nat)
    (name : String) (left right : Registry) (first second : GenericFunction) : Prop where
  firstFound : left.find? name = some first
  secondFound : right.find? name = some second
  reorders : first.Reorders second
  firstSite : types.length = first.arity → Site table first permutation types
  secondSite : types.length = first.arity → Site table second permutation types

namespace Reordering

variable {left right : Registry} {config : Config} {cache otherCache : Precedence.Cache}
  {checks : Option Bool}

theorem symm (reordering : Reordering table types permutation name left right first second) :
    Reordering table types permutation name right left second first := by
  have sameArity : second.arity = first.arity := by
    rw [GenericFunction.arity, GenericFunction.arity, reordering.reorders.params]
  exact ⟨reordering.secondFound, reordering.firstFound, reordering.reorders.symm,
    fun count => reordering.secondSite (count.trans sameArity),
    fun count => reordering.firstSite (count.trans sameArity)⟩

/-- The methods of a function that is registered in two orders. -/
private theorem of_registerAll (mirrors : table.Mirrors) (reached : start.Reached)
    (found : start.find? name = some generic) (empty : generic.methods = [])
    (same : entries.Perm others)
    (distinct : entries.Pairwise fun first second => ¬ SameKey first.1 second.1)
    (grounded : ∀ entry ∈ entries, AllGrounded table entry.1)
    (defined : ∀ type ∈ types, table.Defines type)
    (permuted : Precedence.permutation generic.params.required (some generic.precedence) =
      .ok permutation) :
    ∃ first second, Reordering table types permutation name (start.registerAll name entries)
      (start.registerAll name others) first second := by
  obtain ⟨methods, otherMethods, methodsFound, othersFound, reorders, areEntries,
    otherEntries⟩ := exists_reorders found empty same distinct
  -- Whatever the order, a registered method has the specializers of an entry.
  have site : ∀ {registry : Registry} {own : List Method}, registry.Reached →
      registry.find? name = some { generic with methods := own } →
      (∀ method ∈ own, method.content ∈ entries) → types.length = generic.arity →
      Site table { generic with methods := own } permutation types := by
    intro registry own registryReached ownFound isEntry count
    exact ⟨mirrors, registryReached.wellFormed _ (Registry.find?_eq_some ownFound).1, permuted,
      count, defined, fun method isMethod => grounded _ (isEntry method isMethod)⟩
  exact ⟨_, _, methodsFound, othersFound, reorders,
    site (reached.registerAll name entries) methodsFound areEntries,
    site (reached.registerAll name others) othersFound otherEntries⟩

variable (reordering : Reordering table types permutation name left right first second)
  (faithful : cache.Faithful) (otherFaithful : otherCache.Faithful)
  (strict : config.abstainOnUnordered = true)

include reordering faithful

private theorem sites_of_inlines
    (inlined : Resolution.inlines left table config cache name types checks = true) :
    Site table first permutation types ∧ Site table second permutation types := by
  obtain ⟨count, -⟩ :=
    Resolution.exists_resolve_of_inlines reordering.firstFound faithful inlined
  exact ⟨reordering.firstSite count, reordering.secondSite count⟩

include otherFaithful strict

/-- With checks a call site that one order inlines is inlined under the other. -/
theorem inlines_of_inlines (mayCheck : checks.getD config.checksRequired = true)
    (inlined : Resolution.inlines left table config cache name types checks = true) :
    Resolution.inlines right table config otherCache name types checks = true := by
  obtain ⟨firstSite, secondSite⟩ := reordering.sites_of_inlines faithful inlined
  rcases inlines_or_givesUp reordering.reorders firstSite secondSite reordering.firstFound
    reordering.secondFound faithful otherFaithful strict inlined with both | ⟨noChecks, -⟩
  · exact both
  · rw [mayCheck] at noChecks
    cases noChecks

/-- A call site that only one order inlines is given up under the other because of a method
that no arguments satisfy. -/
private theorem givesUp_of_inlines (growth : table.Extends later) (laterMirrors : later.Mirrors)
    (permuted : Precedence.permutation generic.params.required (some generic.precedence) =
      .ok permutation)
    (inlined : Resolution.inlines left table config cache name types checks = true)
    (notInlined : Resolution.inlines right table config otherCache name types checks = false) :
    ∃ method ∈ right.methods name,
      Resolution.GivesUp right table config otherCache name types checks method ∧
      ∀ arguments, MayPass later generic types (table.ForeseesAll later) arguments →
        Dispatch.accepts later method arguments = .ok false := by
  obtain ⟨firstSite, secondSite⟩ := reordering.sites_of_inlines faithful inlined
  rcases inlines_or_givesUp reordering.reorders firstSite secondSite reordering.firstFound
    reordering.secondFound faithful otherFaithful strict inlined with both |
      ⟨-, top, rest, best, others, givesUp, secondRanking, secondSettled, firstRanking,
        firstSettled, definite, indefinite⟩
  · rw [notInlined] at both
    cases both
  · have belongs := secondRanking.belong top (by simp)
    have isMethod : top.method ∈ right.methods name := by
      rw [Registry.methods, reordering.secondFound]
      exact belongs.isMethod
    refine ⟨top.method, isMethod, givesUp, fun arguments passes => ?_⟩
    obtain ⟨ordered, situation⟩ := situation_of_mayPass growth laterMirrors permuted passes
    rw [← Dispatch.accepts_required (situation secondSite) belongs.isMethod,
      Dispatch.accepts_eq (situation secondSite) belongs.classified belongs.isMethod,
      not_isMet_of_definite reordering.reorders (situation firstSite) (situation secondSite)
        firstRanking secondRanking firstSettled secondSettled definite indefinite]

/-- Cascades of both orders call the same method. -/
private theorem select_agrees (growth : table.Extends later) (laterMirrors : later.Mirrors)
    (permuted : Precedence.permutation generic.params.required (some generic.precedence) =
      .ok permutation)
    {own other : GenericFunction} {cascade otherCascade : Cascade}
    {candidates otherCandidates : List Candidate} {next otherNext : Precedence.Cache}
    (resolved : Resolution.resolve left table config cache name types checks =
      .ok (.inlined own cascade candidates, next))
    (otherResolved : Resolution.resolve right table config otherCache name types checks =
      .ok (.inlined other otherCascade otherCandidates, otherNext))
    (passes : MayPass later generic types (table.ForeseesAll later) arguments) :
    ∃ final otherFinal, cascade.select later arguments = .ok final ∧
      otherCascade.select later arguments = .ok otherFinal ∧ final.Agrees otherFinal := by
  obtain ⟨firstSite, secondSite⟩ := reordering.sites_of_inlines faithful
    (Resolution.inlines_iff.mpr ⟨own, cascade, candidates, next, resolved⟩)
  have isFirst := (Resolution.resolve_eq_inlined faithful resolved).1
  have isSecond := (Resolution.resolve_eq_inlined otherFaithful otherResolved).1
  rw [reordering.firstFound] at isFirst
  rw [reordering.secondFound] at isSecond
  cases isFirst
  cases isSecond
  have inlining := Inlining.of_site firstSite faithful resolved
  have otherInlining := Inlining.of_site secondSite otherFaithful otherResolved
  obtain ⟨ordered, situation⟩ := situation_of_mayPass growth laterMirrors permuted passes
  exact ⟨_, _, inlining.select_eq (situation firstSite),
    otherInlining.select_eq (situation secondSite),
    choose_agrees reordering.reorders (situation firstSite) (situation secondSite)
      inlining.ranking otherInlining.ranking (inlining.settled strict)
      (otherInlining.settled strict)⟩

end Reordering

/-- **The order of registration hardly bears on resolution.** With checks both orders are
inlined or neither is. If only one is, the other is given up because of a method that no
arguments satisfy. If both are, both cascades call methods with the same specializers and
body, or both go on to dynamic dispatch. -/
theorem registration_order_agrees {cache otherCache : Precedence.Cache} {config : Config}
    (checks : Option Bool) (evolves : table.Evolves later) (reached : start.Reached)
    (found : start.find? name = some generic) (empty : generic.methods = [])
    (same : entries.Perm others)
    (distinct : entries.Pairwise fun first second => ¬ SameKey first.1 second.1)
    (grounded : ∀ entry ∈ entries, AllGrounded table entry.1)
    (defined : ∀ type ∈ types, table.Defines type)
    (cached : cache.Reached) (otherCached : otherCache.Reached)
    (strict : config.abstainOnUnordered = true) :
    (checks.getD config.checksRequired = true →
      Resolution.inlines (start.registerAll name entries) table config cache name types checks =
        Resolution.inlines (start.registerAll name others) table config otherCache name types
          checks) ∧
    (Resolution.inlines (start.registerAll name entries) table config cache name types checks =
        true →
      Resolution.inlines (start.registerAll name others) table config otherCache name types
        checks = false →
      ∃ method ∈ (start.registerAll name others).methods name,
        Resolution.GivesUp (start.registerAll name others) table config otherCache name types
          checks method ∧
        ∀ arguments, MayPass later generic types (table.ForeseesAll later) arguments →
          Dispatch.accepts later method arguments = .ok false) ∧
    ∀ first cascade candidates next second otherCascade otherCandidates otherNext,
      Resolution.resolve (start.registerAll name entries) table config cache name types checks =
        .ok (.inlined first cascade candidates, next) →
      Resolution.resolve (start.registerAll name others) table config otherCache name types
        checks = .ok (.inlined second otherCascade otherCandidates, otherNext) →
      ∀ arguments, MayPass later generic types (table.ForeseesAll later) arguments →
        ∃ final otherFinal, cascade.select later arguments = .ok final ∧
          otherCascade.select later arguments = .ok otherFinal ∧ final.Agrees otherFinal := by
  obtain ⟨mirrors, laterMirrors, growth⟩ := evolves.spec
  obtain ⟨permutation, permuted⟩ :=
    (reached.wellFormed generic (Registry.find?_eq_some found).1).permutation
  obtain ⟨own, other, reordering⟩ := Reordering.of_registerAll mirrors reached found empty same
    distinct grounded defined permuted
  have faithful := cached.faithful
  have otherFaithful := otherCached.faithful
  refine ⟨fun mayCheck => ?_, fun inlined notInlined => ?_, ?_⟩
  · rw [Bool.eq_iff_iff]
    exact ⟨reordering.inlines_of_inlines faithful otherFaithful strict mayCheck,
      reordering.symm.inlines_of_inlines otherFaithful faithful strict mayCheck⟩
  · exact reordering.givesUp_of_inlines faithful otherFaithful strict growth laterMirrors
      permuted inlined notInlined
  · intro first cascade candidates next second otherCascade otherCandidates otherNext resolved
      otherResolved arguments passes
    exact reordering.select_agrees faithful otherFaithful strict growth laterMirrors permuted
      resolved otherResolved passes

namespace Orders

def fresh : GenericFunction where
  name := "f"
  params := { required := ["x"] }
  precedence := ["x"]

def bare : Registry where
  generics := [fresh]

theorem bare_reached : bare.Reached :=
  .declared .empty (rfl : Registry.declare {} "f" { required := ["x"] } none = .ok (fresh, bare))

/-- A scenario with a literal type for one, and methods for one and for two. -/
def pinned : Scenario :=
  { Scenario.empty false with table := ((Scenario.empty false).table.newLiteral (.int 1) none).2 }

def one : List Specializer × Body :=
  ([.exactly (.int 1)], ⟨"one", false⟩)

def two : List Specializer × Body :=
  ([.exactly (.int 2)], ⟨"two", false⟩)

private theorem pinned_evolves : pinned.table.Evolves pinned.table :=
  .scenario (.single (.pinned (by decide +kernel))) .refl

/-- Without checks only the order that has the method for one in front is inlined. -/
theorem one_inlines :
    Resolution.inlines (bare.registerAll "f" [one, two]) pinned.table { enableAll := true } {} "f"
        [3] (some false) = true ∧
      Resolution.inlines (bare.registerAll "f" [two, one]) pinned.table { enableAll := true } {} "f"
        [3] (some false) = false := by
  refine ⟨?_, ?_⟩
  all_goals
    simp only [Resolution.inlines, Resolution.resolve, Resolution.resolveWith,
      Resolution.ofGenericWith, Candidate.sort, Candidate.byOrdinal_eq_insertionSort]
    decide +kernel

/-- A call with one. With checks both orders are inlined and call the method for one.
Without checks one order is not inlined, because of the method for two. -/
theorem one_registration_order_agrees :
    (∃ own cascade candidates next other otherCascade otherCandidates otherNext final otherFinal,
      Resolution.resolve (bare.registerAll "f" [one, two]) pinned.table { enableAll := true } {} "f"
        [3] (some true) = .ok (.inlined own cascade candidates, next) ∧
      Resolution.resolve (bare.registerAll "f" [two, one]) pinned.table { enableAll := true } {} "f"
        [3] (some true) = .ok (.inlined other otherCascade otherCandidates, otherNext) ∧
      cascade.select pinned.table [.int 1] = .ok final ∧
      otherCascade.select pinned.table [.int 1] = .ok otherFinal ∧ final.Agrees otherFinal) ∧
    ∃ method ∈ (bare.registerAll "f" [two, one]).methods "f",
      Resolution.GivesUp (bare.registerAll "f" [two, one]) pinned.table { enableAll := true } {} "f"
        [3] (some false) method ∧
      Dispatch.accepts pinned.table method [.int 1] = .ok false := by
  have mirrors := pinned_evolves.spec.1
  have distinct : [one, two].Pairwise fun first second => ¬ SameKey first.1 second.1 := by
    simp only [← beq_iff_sameKey]
    decide +kernel
  have grounded : ∀ entry ∈ [one, two], AllGrounded pinned.table entry.1 := by
    intro entry inside specializer isSpecializer
    have nominal : ∀ entry ∈ [one, two], AllNominal pinned.table entry.1 := by decide +kernel
    exact (nominal entry inside specializer isSpecializer).grounded mirrors
  have defined : ∀ type ∈ [3], pinned.table.Defines type := by
    decide +kernel
  have found : bare.find? "f" = some fresh := rfl
  have strict : Config.abstainOnUnordered { enableAll := true } = true := rfl
  have passes :
      MayPass pinned.table fresh [3] (pinned.table.ForeseesAll pinned.table) [.int 1] := by
    have isOne : pinned.table.isInstance (.int 1) 3 = .ok true :=
      Traversal.toOption_eq_some.mp (by decide +kernel)
    have registered : pinned.table.hostAt? 2 = some Hierarchy.intClass := by decide +kernel
    refine ⟨[0], [.int 1], rfl, ⟨rfl, by decide +kernel, .cons isOne .nil⟩, ?_⟩
    exact List.forall_mem_singleton.mpr
      (TypeTable.foresees_of_host mirrors (.refl pinned.table) registered)
  have inlined : Resolution.inlines (bare.registerAll "f" [one, two]) pinned.table
      { enableAll := true } {} "f" [3] (some true) = true := by
    simp only [Resolution.inlines, Resolution.resolve, Resolution.resolveWith,
      Resolution.ofGenericWith, Candidate.sort, Candidate.byOrdinal_eq_insertionSort]
    decide +kernel
  refine ⟨?_, ?_⟩
  · obtain ⟨sameInlining, -, agree⟩ := registration_order_agrees (some true) pinned_evolves
      bare_reached found rfl (.swap two one []) distinct grounded defined .empty .empty strict
    obtain ⟨own, cascade, candidates, next, resolved⟩ := Resolution.inlines_iff.mp inlined
    obtain ⟨other, otherCascade, otherCandidates, otherNext, otherResolved⟩ :=
      Resolution.inlines_iff.mp ((sameInlining rfl).symm.trans inlined)
    obtain ⟨final, otherFinal, selected, otherSelected, same⟩ := agree _ _ _ _ _ _ _ _ resolved
      otherResolved _ passes
    exact ⟨own, cascade, candidates, next, other, otherCascade, otherCandidates, otherNext, final,
      otherFinal, resolved, otherResolved, selected, otherSelected, same⟩
  · obtain ⟨onlyFirst, notSecond⟩ := one_inlines
    obtain ⟨-, givesUp, -⟩ := registration_order_agrees (some false) pinned_evolves bare_reached
      found rfl (.swap two one []) distinct grounded defined .empty .empty strict
    obtain ⟨method, isMethod, given, refuses⟩ := givesUp onlyFirst notSecond
    exact ⟨method, isMethod, given, refuses _ passes⟩

/-- Two classes, and a method for each. -/
def lone : TypeId × Scenario :=
  ((Scenario.empty false).declareClass "A" []).toOption.get (by decide +kernel)

def apart : TypeId × Scenario :=
  (lone.2.declareClass "B" []).toOption.get (by decide +kernel)

def left : List Specializer × Body :=
  ([.ofType 2], ⟨"left", false⟩)

def right : List Specializer × Body :=
  ([.ofType 3], ⟨"right", false⟩)

/-- A class that combines the two and is not registered. -/
def both : ClassId × Hierarchy :=
  (apart.2.table.classes.create "C" "user" (apart.2.classes.map (·.2))).toOption.get
    (by decide +kernel)

def combined : Scenario :=
  { apart.2 with table := { apart.2.table with classes := both.2 } }

def unforeseen : Value :=
  .object (.make both.2 0 both.1)

theorem apart_evolves : apart.2.table.Evolves combined.table := by
  have built : Scenario.Steps (Scenario.empty false) apart.2 :=
    .tail (.single (.declared (Traversal.eq_ok_get _))) (.declared (Traversal.eq_ok_get _))
  have used : Scenario.Steps apart.2 combined :=
    .single (.made (by decide +kernel) (Traversal.eq_ok_get _))
  exact .scenario built used

/-- Two literal types of one list. A list is no key, so the second one is not recognized. -/
def twins : Scenario :=
  let first := (Scenario.empty false).table.newLiteral (.list [.int 1]) none
  { Scenario.empty false with table := (first.2.newLiteral (.list [.int 1]) none).2 }

def twin : List Specializer × Body :=
  ([.ofType 4], ⟨"twin", false⟩)

private theorem twins_evolve : twins.table.Evolves twins.table := by
  have built : Scenario.Steps (Scenario.empty false) twins :=
    .tail (.single (.pinned (by decide +kernel))) (.pinned (by decide +kernel))
  exact .scenario built .refl

/-- **The order of registration can matter.** Without checks it decides which of two values
comes first. It decides between classes that only an unforeseen class combines, and between
types that are held twice. -/
theorem registration_order_matters :
    (pinned.table.Evolves pinned.table ∧ ¬ SameKey one.1 two.1 ∧
      Resolution.inlines (bare.registerAll "f" [one, two]) pinned.table { enableAll := true } {} "f"
        [3] (some false) = true ∧
      Resolution.inlines (bare.registerAll "f" [two, one]) pinned.table { enableAll := true } {} "f"
        [3] (some false) = false) ∧
    (apart.2.table.Evolves combined.table ∧ ¬ SameKey left.1 right.1 ∧
      combined.table.isInstance unforeseen 1 = .ok true ∧
      Resolution.callee? (bare.registerAll "f" [left, right]) apart.2.table { enableAll := true } {}
        "f" [1] none combined.table [unforeseen] = some left.2 ∧
      Resolution.callee? (bare.registerAll "f" [right, left]) apart.2.table { enableAll := true } {}
        "f" [1] none combined.table [unforeseen] = some right.2) ∧
    twins.table.Evolves twins.table ∧ ¬ SameKey right.1 twin.1 ∧
      twins.table.isInstance (.list [.int 1]) 1 = .ok true ∧
      Resolution.callee? (bare.registerAll "f" [right, twin]) twins.table { enableAll := true } {}
        "f" [1] none twins.table [.list [.int 1]] = some right.2 ∧
      Resolution.callee? (bare.registerAll "f" [twin, right]) twins.table { enableAll := true } {}
        "f" [1] none twins.table [.list [.int 1]] = some twin.2 := by
  simp only [← beq_iff_sameKey, ← Traversal.toOption_eq_some]
  refine ⟨⟨pinned_evolves, by decide +kernel, one_inlines⟩,
    ⟨apart_evolves, by decide +kernel, by decide +kernel, ?_, ?_⟩,
    twins_evolve, by decide +kernel, by decide +kernel, ?_, ?_⟩
  all_goals
    simp only [Resolution.callee?, Resolution.resolve, Resolution.resolveWith,
      Resolution.ofGenericWith, Candidate.sort, Candidate.byOrdinal_eq_insertionSort]
    decide +kernel

end Orders

end StaticDispatch
