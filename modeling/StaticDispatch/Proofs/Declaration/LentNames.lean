import StaticDispatch.Declaration.CallSite
import StaticDispatch.Proofs.Declaration.LiteralFaults
import StaticDispatch.Proofs.Declaration.Names

/-!
Contract: the names of types that a call site may use.

A call site may name the top type and the declared types. Reading a literal leaves the
types of its class and of the classes above it in the table, so these names may be used
from then on: in later arguments and in later call sites. A survey tells what may be
named from the declared types and the literals met, without a table that changes.

Owns: surveys, and that reading refuses exactly what a survey refuses.
Does not own: what the static types are.
-/

namespace StaticDispatch

open Declaration

namespace CallSite

/-! ## Surveys -/

/-- The names that a literal lends: those of its class and of the classes above it. -/
def lentNames (start : TypeTable) (value : Value) : List String :=
  ((start.classes.linearization value.cls).filter (· != Hierarchy.objectClass)).map
    start.nameForHost

/-- Whether a name can be used once some literals were met. -/
def mayName (start : TypeTable) (met : List Value) (name : String) : Bool :=
  (start.lookup? name).isSome || met.any fun value => (lentNames start value).contains name

/-- The literals met so far, and the fault that ended a call site. -/
structure Survey where
  met : List Value
  fault? : Option Fault

def surveyArgs (start : TypeTable) : List Value → List ArgDecl → Survey
  | met, [] => ⟨met, none⟩
  | met, arg :: rest =>
      match arg.kind with
      | .top => surveyArgs start met rest
      | .literal value => surveyArgs start (met ++ [value]) rest
      | .ofType name =>
          if mayName start met name then
            surveyArgs start met rest
          else
            ⟨met, some (.unknownType name arg.position)⟩

def survey (start : TypeTable) (met : List Value) (source : String) : Survey :=
  match CallDecl.read source with
  | .error (.language fault) => ⟨met, some (.malformed source fault)⟩
  | .error (.literal fault) => ⟨met, some (.literal fault)⟩
  | .ok decl => surveyArgs start met decl.args

/-- The literals that call sites have met one after another. -/
def literalsMet (start : TypeTable) (sources : List String) : List Value :=
  sources.foldl (fun met source => (survey start met source).met) []

/-- The table that call sites leave one after another, accepted or not. -/
def readAll (start : TypeTable) (sources : List String) : TypeTable :=
  sources.foldl (fun table source => (CallSite.read table source).2) start

end CallSite

open CallSite

namespace TypeTable

variable {start left later : TypeTable} {met : List Value} {name : String} {id : TypeId}

/-! ## Tables and the literals met -/

/-- The table has the types of the literals met, and no other types of built-in classes than
those that these literals lend. -/
structure Meets (start : TypeTable) (met : List Value) (left : TypeTable) : Prop where
  grown : start.LiteralGrowth left
  lent : ∀ id cls, left.hostAt? id = some cls → start.hostAt? id = some cls ∨
    ∃ value ∈ met, cls ∈ Hierarchy.builtin.linearization value.cls
  typed : ∀ value ∈ met, IsScalar value ∧ ∃ id, left.hostAt? id = some value.cls

theorem Meets.refl (pristine : start.Pristine) : start.Meets [] start :=
  ⟨.refl pristine, fun _ _ host => .inl host, by simp⟩

/-- A class type that is not declared is of a class that was lent. -/
theorem Meets.hosts_cases (meets : start.Meets met left) (pristine : start.Pristine)
    {supertypes : List TypeId} {host : Option ClassId}
    (found : left.find? id = some (.classType name supertypes host)) :
    start.find? id = some (.classType name supertypes host) ∨
      ∃ cls, host = some cls ∧ Hierarchy.builtin.Knows cls ∧ name = start.nameForHost cls ∧
        cls ≠ Hierarchy.objectClass ∧
        ∃ value ∈ met, cls ∈ Hierarchy.builtin.linearization value.cls := by
  obtain ⟨cls, rfl, stands⟩ := meets.grown.mirrors.standsFor found
  rcases meets.grown.hosts _ _ _ _ found with isDeclared | ⟨known, isName⟩
  · exact Or.inl isDeclared
  · rcases meets.lent id cls (hostAt?_eq_some_iff.mpr ⟨_, _, found⟩) with older | lent
    · obtain ⟨_, _, present⟩ := hostAt?_eq_some_iff.mp older
      exact absurd known (pristine.declared _ _ _ _ present).2
    · exact Or.inr ⟨cls, rfl, known, isName, stands.proper, lent⟩

/-- A literal lends the types of its class and of the classes above it. -/
private theorem Meets.exists_lent (meets : start.Meets met left) (pristine : start.Pristine)
    {value : Value}
    (isMet : value ∈ met) {cls : ClassId} (above : cls ∈ Hierarchy.builtin.linearization value.cls)
    (proper : cls ≠ Hierarchy.objectClass) :
    ∃ id supertypes, left.find? id = some (.classType (start.nameForHost cls) supertypes
      (some cls)) := by
  obtain ⟨scalar, own, ownHost⟩ := meets.typed value isMet
  have leftBuiltin := meets.grown.builtin pristine
  rw [← leftBuiltin.linearization_eq scalar.isPlain] at above
  have everything : left.Closed fun _ => True := fun _ _ _ _ _ _ _ => trivial
  obtain ⟨id, host, -⟩ :=
    meets.grown.mirrors.closed_upward everything ownHost trivial above proper
  obtain ⟨name, supertypes, found⟩ := hostAt?_eq_some_iff.mp host
  rcases meets.grown.hosts _ _ _ _ found with isDeclared | ⟨-, rfl⟩
  · rw [leftBuiltin.linearization_eq scalar.isPlain] at above
    have known := Hierarchy.builtin_wellFormed.knows_of_mem above
    exact absurd known (pristine.declared _ _ _ _ isDeclared).2
  · exact ⟨id, supertypes, found⟩

private theorem mem_lentNames_iff (pristine : start.Pristine) {value : Value}
    (scalar : IsScalar value) :
    name ∈ lentNames start value ↔ ∃ cls ∈ Hierarchy.builtin.linearization value.cls,
      cls ≠ Hierarchy.objectClass ∧ name = start.nameForHost cls := by
  simp only [lentNames, pristine.builtin.linearization_eq scalar.isPlain, List.mem_map,
    List.mem_filter, bne_iff_ne, and_assoc]
  simp only [eq_comm]

/-- **What may be named is what the table looks up.** -/
theorem Meets.isSome_lookup? (meets : start.Meets met left) (pristine : start.Pristine)
    (name : String) : (left.lookup? name).isSome = mayName start met name := by
  obtain ⟨top, isTop⟩ := pristine.hasTop
  rw [Bool.eq_iff_iff, mayName, Bool.or_eq_true, List.any_eq_true, Option.isSome_iff_exists,
    Option.isSome_iff_exists]
  simp only [List.contains_iff_mem]
  constructor
  · rintro ⟨id, found⟩
    rcases find?_of_lookup? found with ⟨rfl, -⟩ | ⟨supertypes, host, present⟩
    · obtain ⟨own, isOwn, -⟩ := (LiteralGrowth.refl pristine).topId?_eq_some pristine
      exact Or.inl ⟨own, isOwn⟩
    · rcases meets.hosts_cases pristine present with older |
        ⟨cls, rfl, -, isName, proper, value, isMet, above⟩
      · exact Or.inl (exists_lookup? pristine.hasTop older)
      · refine Or.inr ⟨value, isMet, ?_⟩
        exact (mem_lentNames_iff pristine (meets.typed value isMet).1).mpr
          ⟨cls, above, proper, isName⟩
  · rintro (⟨id, declared⟩ | ⟨value, isMet, lent⟩)
    · exact ⟨id, meets.grown.growth.lookup? declared⟩
    · obtain ⟨cls, above, proper, rfl⟩ :=
        (mem_lentNames_iff pristine (meets.typed value isMet).1).mp lent
      obtain ⟨id, supertypes, found⟩ := meets.exists_lent pristine isMet above proper
      exact exists_lookup? ⟨top, meets.grown.growth.definitions _ _ isTop⟩ found

end TypeTable

namespace CallSite

open TypeTable (Meets Brings)

variable {start left : TypeTable} {met : List Value}

/-! ## Reading -/

/-- A literal is met by the table that reading it leaves. -/
private theorem meets_of_brings (meets : start.Meets met left) {value : Value}
    (scalar : IsScalar value) {later : TypeTable} (brought : Brings start left [value.cls] later)
    (typed : ∃ id, later.hostAt? id = some value.cls) : start.Meets (met ++ [value]) later := by
  refine ⟨brought.grown, fun id cls host => ?_, fun own isOwn => ?_⟩
  · rcases brought.fresh id cls host with older | ⟨own, isOwn, above⟩
    · rcases meets.lent id cls older with oldest | ⟨other, isOther, above⟩
      · exact Or.inl oldest
      · exact Or.inr ⟨other, by simp [isOther], above⟩
    · rw [List.mem_singleton.mp isOwn] at above
      exact Or.inr ⟨value, by simp, above⟩
  · rcases List.mem_append.mp isOwn with older | isValue
    · obtain ⟨ownScalar, id, host⟩ := meets.typed own older
      exact ⟨ownScalar, id, brought.within.hostAt? host⟩
    · rw [List.mem_singleton.mp isValue]
      exact ⟨scalar, typed⟩

section Argument

variable {arg : ArgDecl}

theorem argType_top (pristine : start.Pristine) (meets : start.Meets met left)
    (isKind : arg.kind = .top) :
    ∃ id, argType left arg = (.ok id, left) ∧ left.find? id = some .top := by
  obtain ⟨id, isTop, found⟩ := meets.grown.topId?_eq_some pristine
  exact ⟨id, by simp only [argType, isKind, TypeTable.ensureTop, isTop], found⟩

theorem argType_literal (pristine : start.Pristine) (meets : start.Meets met left)
    (scalar : arg.IsScalar) {value : Value} (isKind : arg.kind = .literal value) :
    ∃ id later, argType left arg = (.ok id, later) ∧ start.Meets (met ++ [value]) later ∧
      left.Extends later ∧
      ∃ pinned base, later.find? id = some (.literalType pinned base) ∧
        pinned.eql value = true := by
  obtain ⟨id, later, made, brought, pins, typed⟩ :=
    TypeTable.newLiteral_brings pristine meets.grown (scalar value isKind)
  exact ⟨id, later, by simp only [argType, isKind, made, Except.mapError],
    meets_of_brings meets (scalar value isKind) brought typed, brought.within, pins⟩

theorem argType_ofType (pristine : start.Pristine) (meets : start.Meets met left)
    {name : String} (isKind : arg.kind = .ofType name) :
    if mayName start met name then
      ∃ id, argType left arg = (.ok id, left) ∧ left.lookup? name = some id
    else
      argType left arg = (.error (.unknownType name arg.position), left) := by
  have known := meets.isSome_lookup? pristine name
  cases found : left.lookup? name with
  | none =>
      rw [found] at known
      simp [← known, argType, isKind, found]
  | some id =>
      rw [found] at known
      simp [← known, argType, isKind, found]

end Argument

/-- **Reading arguments meets and refuses what a survey of them does.** -/
theorem argTypes_survey (pristine : start.Pristine) (meets : start.Meets met left)
    {args : List ArgDecl} (scalars : ∀ arg ∈ args, arg.IsScalar) :
    start.Meets (surveyArgs start met args).met (argTypes left args).2 ∧
      Traversal.error? (argTypes left args).1 = (surveyArgs start met args).fault? := by
  induction args generalizing met left with
  | nil => exact ⟨meets, rfl⟩
  | cons arg rest inductionHypothesis =>
      have restScalars : ∀ other ∈ rest, other.IsScalar := fun other inside =>
        scalars other (by simp [inside])
      cases isKind : arg.kind with
      | top =>
          obtain ⟨id, read, -⟩ := argType_top pristine meets isKind
          simp only [argTypes, surveyArgs, isKind, read, Traversal.error?_map]
          exact inductionHypothesis meets restScalars
      | literal value =>
          obtain ⟨id, later, read, laterMeets, -⟩ :=
            argType_literal pristine meets (scalars arg (by simp)) isKind
          simp only [argTypes, surveyArgs, isKind, read, Traversal.error?_map]
          exact inductionHypothesis laterMeets restScalars
      | ofType name =>
          have step := argType_ofType pristine meets isKind
          split at step
          · rename_i known
            obtain ⟨id, read, -⟩ := step
            simp only [argTypes, surveyArgs, isKind, read, known, if_true, Traversal.error?_map]
            exact inductionHypothesis meets restScalars
          · rename_i unknown
            simp only [argTypes, surveyArgs, isKind, step, unknown]
            exact ⟨meets, rfl⟩

/-- **One call site**: reading it does what a survey of it does. -/
theorem read_survey (pristine : start.Pristine) (meets : start.Meets met left) (source : String) :
    start.Meets (survey start met source).met (CallSite.read left source).2 ∧
      Traversal.error? (CallSite.read left source).1 = (survey start met source).fault? := by
  cases spelled : CallDecl.read source with
  | error fault =>
      cases fault with
      | language fault =>
          simp only [CallSite.read, survey, spelled]
          exact ⟨meets, rfl⟩
      | literal fault =>
          simp only [CallSite.read, survey, spelled]
          exact ⟨meets, rfl⟩
  | ok decl =>
      simp only [CallSite.read, survey, spelled, Traversal.error?_map]
      exact argTypes_survey pristine meets (CallDecl.isScalar_of_read spelled)

/-- **Every history of call sites** meets what surveys of them do. -/
theorem readAll_meets (pristine : start.Pristine) (sources : List String) :
    start.Meets (literalsMet start sources) (readAll start sources) := by
  have run : ∀ {met : List Value} {left : TypeTable}, start.Meets met left →
      start.Meets (sources.foldl (fun met source => (survey start met source).met) met)
        (sources.foldl (fun table source => (CallSite.read table source).2) left) := by
    induction sources with
    | nil => exact fun meets => meets
    | cons source rest inductionHypothesis =>
        exact fun meets => inductionHypothesis (read_survey pristine meets source).1
  exact run (.refl pristine)

/-! ## Refusals -/

/-- The faults of surveyed arguments are reported. -/
private theorem report?_of_surveyArgs {args : List ArgDecl} {fault : Fault}
    (refused : (surveyArgs start met args).fault? = some fault) :
    ∃ report, fault.report? = some report := by
  induction args generalizing met with
  | nil => cases refused
  | cons arg rest inductionHypothesis =>
      unfold surveyArgs at refused
      split at refused
      · exact inductionHypothesis refused
      · exact inductionHypothesis refused
      · split at refused
        · exact inductionHypothesis refused
        · cases refused
          exact ⟨_, rfl⟩

/-- A name that is neither declared nor lent does not get past a survey. -/
private theorem surveyArgs_refuses {before after : List ArgDecl} {arg : ArgDecl} {name : String}
    (isKind : arg.kind = .ofType name) (undeclared : start.lookup? name = none)
    (unmet : ∀ value ∈ met, name ∉ lentNames start value)
    (unlent : ∀ other ∈ before, ∀ value, other.kind = .literal value →
      name ∉ lentNames start value) :
    (surveyArgs start met (before ++ arg :: after)).fault? ≠ none := by
  induction before generalizing met with
  | nil =>
      have unknown : mayName start met name = false := by
        simpa [mayName, undeclared] using unmet
      simp [surveyArgs, isKind, unknown]
  | cons other rest inductionHypothesis =>
      have restUnlent := fun own inside => unlent own (List.mem_cons_of_mem other inside)
      rw [List.cons_append, surveyArgs]
      split
      · exact inductionHypothesis unmet restUnlent
      · rename_i value isLiteral
        refine inductionHypothesis (fun own inside => ?_) restUnlent
        rcases List.mem_append.mp inside with isMet | isValue
        · exact unmet own isMet
        · rw [List.mem_singleton.mp isValue]
          exact unlent other (by simp) value isLiteral
      · split
        · exact inductionHypothesis unmet restUnlent
        · simp

/-- **A call site may only name declared types and what literals have lent.** After any
call sites that are spelled out, reading another one fails exactly with the fault of its
survey, and else it is accepted. A call site that the grammar accepts cannot be read
exactly if a literal has no value. One that can be read and names a type that is neither
the top type nor declared gets a report, unless a literal before it, of an earlier call
site or of an earlier argument, has lent that name. -/
theorem undeclared_names_are_lent {file : Option String} {text : String} {world : World}
    (isLoaded : World.load file text = .ok world) (earlier : List String) (source : String)
    (spelledOut : ∀ spelled ∈ source :: earlier, spellsOut .call .callName spelled = true) :
    let met := literalsMet world.table earlier
    let outcome := (CallSite.read (readAll world.table earlier) source).1
    Traversal.error? outcome = (survey world.table met source).fault? ∧
    (∀ spelled ∈ source :: earlier, ∀ fault,
      CallDecl.read spelled = .error (.literal fault) ↔
        ∃ accepted, tokens .call .callName spelled.toList = .ok accepted ∧
          FirstLacks accepted fault) ∧
    ∀ decl before arg after name, CallDecl.read source = .ok decl →
      decl.args = before ++ arg :: after → arg.kind = .ofType name →
      world.table.lookup? name = none →
      (∀ value ∈ met, name ∉ lentNames world.table value) →
      (∀ other ∈ before, ∀ value, other.kind = .literal value →
        name ∉ lentNames world.table value) →
      ∃ fault report, outcome = .error fault ∧ fault.report? = some report := by
  intro met outcome
  have pristine := World.pristine_of_load isLoaded
  have same := (read_survey pristine (readAll_meets pristine earlier) source).2
  refine ⟨same, fun spelled inside fault =>
    CallDecl.read_eq_literal_iff (spelledOut spelled inside), ?_⟩
  intro decl before arg after name spelled isArgs isKind undeclared unmet unlent
  have surveyed : (survey world.table met source).fault? =
      (surveyArgs world.table met (before ++ arg :: after)).fault? := by
    rw [survey, spelled, ← isArgs]
  obtain ⟨fault, isFault⟩ := Option.ne_none_iff_exists'.mp
    (surveyArgs_refuses isKind undeclared unmet unlent)
  obtain ⟨report, isReport⟩ := report?_of_surveyArgs isFault
  exact ⟨fault, report, Traversal.error?_eq_some.mp (same.trans (surveyed.trans isFault)), isReport⟩

namespace Lending

def text : String :=
  "type Shape\ngeneric f(first, second)"

def program : Program where
  types := [⟨"Shape", [], ⟨1, 1⟩⟩]
  generics := [⟨"f", [⟨.plain, some "first", ⟨2, 11⟩⟩, ⟨.plain, some "second", ⟨2, 18⟩⟩], none,
    ⟨2, 1⟩⟩]
  methods := []

def lendingWorld : World :=
  (World.empty none).addProgram program

private theorem load_lending : World.load none text = .ok lendingWorld := by
  have read : Program.read text = .ok program := by with_unfolding_all rfl
  rw [World.load, read]
  rfl

/-- A truth value lends its class and the integers; the other literal is not met. -/
def earlier : List String :=
  ["f(true, Shape)", "f(Nope, \"x\")", "f("]

/-- A text lends its class, but not to the arguments before it. -/
theorem str_not_lent_yet :
    lendingWorld.table.lookup? "str" = none ∧
    (∀ value ∈ literalsMet lendingWorld.table earlier,
      "str" ∉ lentNames lendingWorld.table value) ∧
    ∃ fault report, (CallSite.read (readAll lendingWorld.table earlier) "f(str, \"x\")").1 =
      .error fault ∧ fault.report? = some report := by
  have spelled : CallDecl.read "f(str, \"x\")" = .ok
      ⟨"f", [⟨.ofType "str", ⟨1, 3⟩⟩, ⟨.literal (.str "x"), ⟨1, 8⟩⟩], ⟨1, 1⟩⟩ := by
    with_unfolding_all rfl
  have undeclared : lendingWorld.table.lookup? "str" = none := by decide +kernel
  have unmet : ∀ value ∈ literalsMet lendingWorld.table earlier,
      "str" ∉ lentNames lendingWorld.table value := by decide +kernel
  have spelledOut : ("f(str, \"x\")" :: earlier).all (spellsOut .call .callName) = true := by
    with_unfolding_all rfl
  obtain ⟨-, -, refuses⟩ :=
    undeclared_names_are_lent load_lending earlier _ (List.all_eq_true.mp spelledOut)
  exact ⟨undeclared, unmet,
    refuses _ [] _ _ _ spelled rfl rfl undeclared unmet (List.forall_mem_nil _)⟩

/-- The integers are not declared, and a call site may name them after a literal. -/
theorem int_named_after_literal :
    World.load none text = .ok lendingWorld ∧ lendingWorld.table.lookup? "int" = none ∧
    (CallSite.read lendingWorld.table "f(int, Shape)").1.toOption = none ∧
    (CallSite.read (readAll lendingWorld.table ["f(3, Shape)"]) "f(int, Shape)").1.toOption =
      some ⟨"f", [3, 2]⟩ :=
  ⟨load_lending, by decide +kernel⟩

end Lending

end CallSite

end StaticDispatch
