import StaticDispatch.Candidate.Order
import StaticDispatch.Cascade.Description
import StaticDispatch.Config
import StaticDispatch.Diagnostic

/-!
Contract: one call site in, a cascade or an abstention out.

Resolution abstains, with a reason, from every call site that it cannot improve.
The reasons are tried in a fixed order: the function is not enabled, not known,
or takes another number of arguments; nothing is known; nothing applies; the
order of two candidates rests on registration alone; a check would be needed.

A hook is told of every call site that is inlined. What it does is up to the
caller: it changes a state of the caller's own.

Owns: resolutions, abstentions with their texts, and inliners, which keep what
stays fixed across call sites and count the sites that they inline.
Does not own: the wrapper of a cascade.
-/

namespace StaticDispatch

inductive Abstention where
  | disabled (name : String)
  | unknownGeneric (name : String)
  | arity (name : String) (expected given : Nat)
  | noInformation (name : String)
  | noCandidates (name : String)
  | unordered (first second : String)
  | ambiguousTop (label : String)
deriving DecidableEq, Repr

namespace Abstention

def code : Abstention → String
  | .disabled _ => "disabled"
  | .unknownGeneric _ => "unknown-generic"
  | .arity .. => "arity"
  | .noInformation _ => "no-information"
  | .noCandidates _ => "no-candidates"
  | .unordered .. => "unordered"
  | .ambiguousTop _ => "ambiguous-top"

def reason : Abstention → String
  | .disabled name => s!"inlining is not enabled for '{name}'"
  | .unknownGeneric name => s!"no generic function named '{name}'"
  | .arity name expected given =>
      s!"'{name}' takes {expected} required argument(s), call site supplies {given}"
  | .noInformation name =>
      s!"neither the methods of '{name}' nor the static types carry information"
  | .noCandidates name => s!"no method of '{name}' is applicable to the static types"
  | .unordered first second => s!"{first} and {second} overlap but have no specificity order"
  | .ambiguousTop label => s!"most specific candidate {label} needs a runtime check"

def diagnostic (abstention : Abstention) : Diagnostic where
  message := "not inlined: " ++ abstention.reason
  code := some abstention.code
  phase := some "inline"
  severity := "note"

end Abstention

inductive Resolution where
  | inlined (generic : GenericFunction) (cascade : Cascade) (candidates : List Candidate)
  | abstained (abstention : Abstention) (candidates : List Candidate)

namespace Resolution

/-- What a registry and a whole table that belong together hardly ever cause. -/
inductive Fault where
  | types (fault : TypeTable.Fault)
  | precedence (fault : Precedence.Fault)
  | candidates (fault : Candidate.Fault)
  | cascade (fault : Cascade.Fault)

def Fault.message : Fault → String
  | .types fault => fault.message
  | .precedence fault => fault.message
  | .candidates fault => fault.message
  | .cascade fault => fault.message

instance : MonadLift (Except TypeTable.Fault) (Except Fault) := ⟨Except.mapError .types⟩
instance : MonadLift (Except Precedence.Fault) (Except Fault) := ⟨Except.mapError .precedence⟩
instance : MonadLift (Except Candidate.Fault) (Except Fault) := ⟨Except.mapError .candidates⟩
instance : MonadLift (Except Cascade.Fault) (Except Fault) := ⟨Except.mapError .cascade⟩

def isInlined : Resolution → Bool
  | .inlined .. => true
  | .abstained .. => false

/-- The first reason to distrust the order of sorted candidates. -/
def orderDoubt? (table : TypeTable) (config : Config) (generic : GenericFunction)
    (candidates : List Candidate) : Except TypeTable.Fault (Option Abstention) := do
  if config.abstainOnUnordered then
    match ← Candidate.unorderedPairs table candidates with
    | [] => return none
    | (first, second) :: _ =>
        let left ← first.method.label (.named table) generic.name
        let right ← second.method.label (.named table) generic.name
        return some (.unordered left right)
  else
    return none

section Hooked

variable {σ : Type} (hook : σ → σ) (state : σ)

/-- Resolves a call site from its sorted candidates. The hook is run on the state
when a cascade is about to be returned. -/
def ofCandidatesWith (table : TypeTable) (config : Config) (generic : GenericFunction)
    (permutation : List Nat) (checks : Bool) (candidates : List Candidate) :
    Except Fault (Resolution × σ) := do
  match candidates with
  | [] => return (.abstained (.noCandidates generic.name) [], state)
  | top :: _ =>
      if let some doubt ← orderDoubt? table config generic candidates then
        return (.abstained doubt candidates, state)
      match ← Cascade.emit generic permutation checks candidates with
      | some cascade => return (.inlined generic cascade candidates, hook state)
      | none =>
          let label ← top.method.label (.named table) generic.name
          return (.abstained (.ambiguousTop label) candidates, state)

def ofGenericWith (table : TypeTable) (config : Config) (generic : GenericFunction)
    (permutation : List Nat) (types : List TypeId) (checks : Option Bool) :
    Except Fault (Resolution × σ) := do
  let candidates ← Candidate.collect table generic permutation types
  let sorted ← Candidate.sort table candidates
  ofCandidatesWith hook state table config generic permutation
    (checks.getD config.checksRequired) sorted

/-- Resolves a call site. Static types are in precedence order, and the policy on
checks is that of the configuration unless one is given. -/
def resolveWith (registry : Registry) (table : TypeTable) (config : Config)
    (cache : Precedence.Cache) (name : String) (types : List TypeId) (checks : Option Bool) :
    Except Fault (Resolution × Precedence.Cache × σ) := do
  if !config.isEnabled name then
    return (.abstained (.disabled name) [], cache, state)
  let some generic := registry.find? name
    | return (.abstained (.unknownGeneric name) [], cache, state)
  if types.length ≠ generic.arity then
    return (.abstained (.arity name generic.arity types.length) [], cache, state)
  let informed ← (generic.methods.anyM fun method =>
    carriesInformation table method.specializers types : Except TypeTable.Fault Bool)
  if !informed then
    return (.abstained (.noInformation name) [], cache, state)
  let (permutation, cache) ← cache.permutation name generic.params.required generic.precedence
  let (resolution, state) ←
    ofGenericWith hook state table config generic permutation types checks
  return (resolution, cache, state)

end Hooked

def resolve (registry : Registry) (table : TypeTable) (config : Config)
    (cache : Precedence.Cache) (name : String) (types : List TypeId) (checks : Option Bool) :
    Except Fault (Resolution × Precedence.Cache) := do
  let (resolution, cache, _) ← resolveWith id () registry table config cache name types checks
  return (resolution, cache)

end Resolution

/-- What stays fixed across the call sites of one compilation. -/
structure Inliner where
  registry : Registry
  table : TypeTable
  config : Config
  cache : Precedence.Cache := {}
  /-- How many call sites were inlined. -/
  inlined : Nat := 0

/-- Resolves a call site; the hook counts the sites that are inlined. -/
def Inliner.resolve (inliner : Inliner) (name : String) (types : List TypeId)
    (checks : Option Bool) : Except Resolution.Fault (Resolution × Inliner) := do
  let (resolution, cache, inlined) ← Resolution.resolveWith (· + 1) inliner.inlined
    inliner.registry inliner.table inliner.config inliner.cache name types checks
  return (resolution, { inliner with cache, inlined })

end StaticDispatch
