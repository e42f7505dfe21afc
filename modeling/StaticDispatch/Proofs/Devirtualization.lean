import StaticDispatch.Proofs.Declaration.CallSite
import StaticDispatch.Proofs.Scenario

/-!
Contract: an inlined call does what dynamic dispatch does.

In a world that is loaded from a text, and in an open world that is built class by
class, a call through the cascade of an inlined call site ends in the method that
dynamic dispatch finds first. If the order of candidates may rest on registration,
the cascade still calls only methods that accept the arguments.

Owns: the agreement of cascades with dynamic dispatch.
Does not own: how the order of registration bears on resolution.
-/

namespace StaticDispatch

open Declaration (Program World)

variable {table later : TypeTable} {generic : GenericFunction} {cascade : Cascade}
  {candidates : List Candidate} {arguments : List Value} {config : Config} {checks : Option Bool}
  {cache next : Precedence.Cache}

/-! ## Loaded worlds -/

section Loaded

variable {world : World} {site : CallSite}

private theorem situation_of_loaded (offers : world.Offers table site) (reached : cache.Reached)
    (resolved : Resolution.resolve world.registry table config cache site.name site.types checks =
      .ok (.inlined generic cascade candidates, next))
    (used : Session table later)
    (passes : MayPass later generic site.types (world.Admits later) arguments) :
    ∃ permutation ordered,
      Inlining world.registry table config site.types generic cascade candidates permutation ∧
      Situation table later generic permutation site.types arguments ordered ∧
      ∀ method ∈ generic.methods, AllNominal table method.specializers := by
  obtain ⟨⟨file, text, loaded⟩, before, source, opened, read⟩ := offers
  obtain ⟨permutation, ordered, permuted, consistent, admitted⟩ := passes
  have invariant := World.Loaded.of_load loaded
  obtain ⟨beforeMirrors, beforeGrowth⟩ := opened.spec invariant.mirrors invariant.builtin
  have reading := CallSite.read_spec beforeMirrors
    (invariant.builtin.trans beforeGrowth.classes) source
  rw [read] at reading
  have growth := beforeGrowth.trans reading.growth
  obtain ⟨laterMirrors, laterGrowth⟩ :=
    used.spec reading.mirrors (invariant.builtin.trans growth.classes)
  have isGeneric := (Registry.find?_eq_some
    (Resolution.resolve_eq_inlined reached.faithful resolved).1).1
  have declared := invariant.nominal generic isGeneric
  have nominal : ∀ method ∈ generic.methods, AllNominal table method.specializers :=
    fun method isMethod specializer inside =>
      (declared method isMethod specializer inside).extend growth
  have inlining := Inlining.of_resolve reading.mirrors invariant.reached.wellFormed
    (fun method isMethod specializer inside =>
      (nominal method isMethod specializer inside).grounded reading.mirrors)
    reached.faithful (reading.types site rfl) resolved permuted
  refine ⟨permutation, ordered, inlining,
    ⟨inlining.site, laterGrowth, laterMirrors, consistent, ?_⟩, nominal⟩
  intro method isMethod specializer inside value isArgument
  exact (admitted value isArgument).foreseen growth laterGrowth reading.mirrors
    (declared method isMethod specializer inside)

/-- **In a loaded world a cascade ends where dynamic dispatch does**: in the method that
dispatch finds first, or in none if nothing is applicable. -/
theorem loaded_outcome_eq_dispatch (offers : world.Offers table site) (reached : cache.Reached)
    (strict : config.abstainOnUnordered = true)
    (resolved : Resolution.resolve world.registry table config cache site.name site.types checks =
      .ok (.inlined generic cascade candidates, next))
    (used : Session table later)
    (passes : MayPass later generic site.types (world.Admits later) arguments) :
    ∃ methods, Dispatch.applicable later generic arguments = .ok methods ∧
      cascade.outcome world.registry later arguments = .ok methods.head? := by
  obtain ⟨permutation, ordered, inlining, situation, nominal⟩ :=
    situation_of_loaded offers reached resolved used passes
  exact inlining.outcome_eq_head? situation strict nominal

namespace Jewels

/-- A text with a function whose precedence is not the order of its parameters, and with
another one whose methods overlap. -/
def text : String :=
  "type Shape type Round : Shape type Red type Ruby : Round, Red\n" ++
  "generic area(shape, unit) precedence(unit, shape)\n" ++
  "method area(Shape, _) method area(Round, 1)\n" ++
  "generic paint(shape) method paint(Round) method paint(Red)"

def program : Program where
  types := [⟨"Shape", [], ⟨1, 1⟩⟩, ⟨"Round", ["Shape"], ⟨1, 12⟩⟩, ⟨"Red", [], ⟨1, 31⟩⟩,
    ⟨"Ruby", ["Round", "Red"], ⟨1, 40⟩⟩]
  generics := [
    ⟨"area", [⟨.plain, some "shape", ⟨2, 14⟩⟩, ⟨.plain, some "unit", ⟨2, 21⟩⟩],
      some ["unit", "shape"], ⟨2, 1⟩⟩,
    ⟨"paint", [⟨.plain, some "shape", ⟨4, 15⟩⟩], none, ⟨4, 1⟩⟩]
  methods := [
    ⟨"area", [⟨.ofType "Shape", ⟨3, 13⟩⟩, ⟨.any, ⟨3, 20⟩⟩], ⟨3, 1⟩⟩,
    ⟨"area", [⟨.ofType "Round", ⟨3, 35⟩⟩, ⟨.exactly (.int 1), ⟨3, 42⟩⟩], ⟨3, 23⟩⟩,
    ⟨"paint", [⟨.ofType "Round", ⟨4, 35⟩⟩], ⟨4, 22⟩⟩,
    ⟨"paint", [⟨.ofType "Red", ⟨4, 55⟩⟩], ⟨4, 42⟩⟩]

def jewelWorld : World :=
  (World.empty none).addProgram program

set_option maxRecDepth 20000 in
private theorem load_text : World.load none text = .ok jewelWorld := by
  have read : Program.read text = .ok program := by with_unfolding_all rfl
  rw [World.load, read]
  rfl

def areaTable : TypeTable :=
  (CallSite.read jewelWorld.table "area(?, Round)").2

/-- A class of lengths that is made below the integers, once the call site was read. -/
def meter : ClassId × Hierarchy :=
  (areaTable.classes.create "Meter" "user" [Hierarchy.intClass]).toOption.get (by decide +kernel)

def areaLater : TypeTable :=
  { areaTable with classes := meter.2 }

def area : GenericFunction :=
  (jewelWorld.registry.find? "area").get (by decide +kernel)

def ruby : Value :=
  .object (.make jewelWorld.table.classes 0
    ((jewelWorld.table.hostAt? 5).get (by decide +kernel)))

def oneMeter : Value :=
  .object (.make areaLater.classes 1 meter.1)

private theorem area_mayPass :
    MayPass areaLater area [1, 3] (jewelWorld.Admits areaLater) [ruby, oneMeter] := by
  have permuted : Precedence.permutation area.params.required
      (some area.precedence) = .ok [1, 0] :=
    Traversal.toOption_eq_some.mp (by decide +kernel)
  have meterIsAny : areaLater.isInstance oneMeter 1 = .ok true :=
    Traversal.toOption_eq_some.mp (by decide +kernel)
  have rubyIsRound : areaLater.isInstance ruby 3 = .ok true :=
    Traversal.toOption_eq_some.mp (by decide +kernel)
  exact ⟨[1, 0], [oneMeter, ruby], permuted,
    ⟨rfl, by decide +kernel, .cons meterIsAny (.cons rubyIsRound .nil)⟩, by decide +kernel⟩

/-- A ruby and a length of a class that was made after the call site was read. -/
theorem area_outcome_eq_dispatch :
    ∃ cascade candidates next methods,
      Resolution.resolve jewelWorld.registry areaTable { enableAll := true } {} "area" [1, 3] none =
        .ok (.inlined area cascade candidates, next) ∧
      Dispatch.applicable areaLater area [ruby, oneMeter] = .ok methods ∧
      cascade.outcome jewelWorld.registry areaLater [ruby, oneMeter] = .ok methods.head? := by
  have offers : jewelWorld.Offers areaTable ⟨"area", [1, 3]⟩ :=
    ⟨⟨none, text, load_text⟩, jewelWorld.table, "area(?, Round)", .start,
      Prod.ext (Traversal.toOption_eq_some.mp (by decide +kernel)) rfl⟩
  have used : Session areaTable areaLater :=
    .made .start (by decide +kernel) (Traversal.eq_ok_get _)
  have inlined : Resolution.inlines jewelWorld.registry areaTable { enableAll := true } {} "area"
      [1, 3] none = true := by
    simp only [Resolution.inlines, Resolution.resolve, Resolution.resolveWith,
      Resolution.ofGenericWith, Candidate.sort, Candidate.byOrdinal_eq_insertionSort]
    decide +kernel
  obtain ⟨-, cascade, candidates, next, resolved⟩ := Resolution.exists_resolve_of_inlines
    (Option.some_get _).symm Precedence.Cache.Reached.empty.faithful inlined
  obtain ⟨methods, applicable, outcome⟩ :=
    loaded_outcome_eq_dispatch offers .empty rfl resolved used area_mayPass
  exact ⟨cascade, candidates, next, methods, resolved, applicable, outcome⟩

end Jewels

/-- **In a loaded world a cascade calls only methods that accept the arguments**, under
every configuration, and goes on to dynamic dispatch only if nothing is applicable. -/
theorem loaded_select_accepts (offers : world.Offers table site) (reached : cache.Reached)
    (resolved : Resolution.resolve world.registry table config cache site.name site.types checks =
      .ok (.inlined generic cascade candidates, next))
    (used : Session table later)
    (passes : MayPass later generic site.types (world.Admits later) arguments) :
    ∃ final, cascade.select later arguments = .ok final ∧
      (∀ method, final = .method method →
        method ∈ generic.methods ∧ Dispatch.accepts later method arguments = .ok true) ∧
      ∀ name, final = .dispatch name →
        (∀ method ∈ generic.methods, Dispatch.accepts later method arguments = .ok false) ∧
          Dispatch.applicable later generic arguments = .ok [] := by
  obtain ⟨permutation, ordered, inlining, situation, -⟩ :=
    situation_of_loaded offers reached resolved used passes
  exact inlining.select_accepts situation

namespace Jewels

def paintTable : TypeTable :=
  (CallSite.read jewelWorld.table "paint(?)").2

def paint : GenericFunction :=
  (jewelWorld.registry.find? "paint").get (by decide +kernel)

/-- Both methods accept a ruby and neither comes first. -/
theorem paint_select_accepts :
    ∃ cascade candidates next final,
      Resolution.inlines jewelWorld.registry paintTable { enableAll := true } {} "paint" [1] none =
        false ∧
      Resolution.resolve jewelWorld.registry paintTable
        { enableAll := true, abstainOnUnordered := false } {} "paint" [1] none =
          .ok (.inlined paint cascade candidates, next) ∧
      cascade.select paintTable [ruby] = .ok final ∧
      (∀ method, final = .method method →
        method ∈ paint.methods ∧ Dispatch.accepts paintTable method [ruby] = .ok true) ∧
      ∀ name, final = .dispatch name →
        (∀ method ∈ paint.methods, Dispatch.accepts paintTable method [ruby] = .ok false) ∧
          Dispatch.applicable paintTable paint [ruby] = .ok [] := by
  have offers : jewelWorld.Offers paintTable ⟨"paint", [1]⟩ :=
    ⟨⟨none, text, load_text⟩, jewelWorld.table, "paint(?)", .start,
      Prod.ext (Traversal.toOption_eq_some.mp (by decide +kernel)) rfl⟩
  have unordered : Resolution.inlines jewelWorld.registry paintTable { enableAll := true } {}
      "paint" [1] none = false := by
    simp only [Resolution.inlines, Resolution.resolve, Resolution.resolveWith,
      Resolution.ofGenericWith, Candidate.sort, Candidate.byOrdinal_eq_insertionSort]
    decide +kernel
  have inlined : Resolution.inlines jewelWorld.registry paintTable
      { enableAll := true, abstainOnUnordered := false } {} "paint" [1] none = true := by
    simp only [Resolution.inlines, Resolution.resolve, Resolution.resolveWith,
      Resolution.ofGenericWith, Candidate.sort, Candidate.byOrdinal_eq_insertionSort]
    decide +kernel
  have passes : MayPass paintTable paint [1] (jewelWorld.Admits paintTable) [ruby] :=
    ⟨[0], [ruby], Traversal.toOption_eq_some.mp (by decide +kernel),
      ⟨rfl, by decide +kernel, .cons (Traversal.toOption_eq_some.mp (by decide +kernel)) .nil⟩,
      by decide +kernel⟩
  obtain ⟨-, cascade, candidates, next, resolved⟩ := Resolution.exists_resolve_of_inlines
    (Option.some_get _).symm Precedence.Cache.Reached.empty.faithful inlined
  obtain ⟨final, selected, called, left⟩ :=
    loaded_select_accepts offers .empty resolved .start passes
  exact ⟨cascade, candidates, next, final, unordered, resolved, selected, called, left⟩

end Jewels

end Loaded

/-! ## Open worlds -/

/-- **In an open world a cascade ends where dynamic dispatch does**, also for arguments
of classes that were never registered or that were made after the call site was
resolved. -/
theorem open_outcome_eq_dispatch {scenario later : Scenario}
    (built : Scenario.Steps (Scenario.empty true) scenario)
    {registry : Registry} (reached : registry.Reached) (cached : cache.Reached)
    (strict : config.abstainOnUnordered = true) {name : String} {types : List TypeId}
    (defined : ∀ type ∈ types, scenario.table.Defines type)
    (resolved : Resolution.resolve registry scenario.table config cache name types checks =
      .ok (.inlined generic cascade candidates, next))
    (nominal : ∀ method ∈ generic.methods, AllNominal scenario.table method.specializers)
    (used : Scenario.Steps scenario later)
    (passes : MayPass later.table generic types (fun _ => True) arguments) :
    ∃ methods, Dispatch.applicable later.table generic arguments = .ok methods ∧
      cascade.outcome registry later.table arguments = .ok methods.head? := by
  obtain ⟨aligned, growth⟩ := built.spec (Scenario.empty_aligned true)
  obtain ⟨laterAligned, laterGrowth⟩ := used.spec aligned
  obtain ⟨permutation, ordered, permuted, consistent, -⟩ := passes
  have inlining := Inlining.of_resolve aligned.mirrors reached.wellFormed
    (fun method isMethod specializer inside =>
      (nominal method isMethod specializer inside).grounded aligned.mirrors)
    cached.faithful defined resolved permuted
  have isOpen : scenario.table.openWorld = true :=
    growth.openWorld.trans (Scenario.openWorld_empty true)
  have foreseen : ForeseenBy scenario.table later.table generic ordered :=
    fun _ _ specializer _ _ _ => specializer.foreseen_of_openWorld isOpen
  exact inlining.outcome_eq_head?
    ⟨inlining.site, laterGrowth, laterAligned.mirrors, consistent, foreseen⟩ strict nominal

namespace Counting

/-- An open scenario that has types for texts and for integers. -/
def openScenario : Scenario :=
  let texts := (Scenario.empty true).table.ensureClass Hierarchy.strClass
  { Scenario.empty true with table := (texts.2.ensureClass Hierarchy.intClass).2 }

def showRegistry : Registry :=
  Registry.registerAll {} "show" [([.ofType 2], ⟨"text", false⟩), ([.ofType 3], ⟨"number", false⟩),
    ([.any], ⟨"other", false⟩)]

def showFunction : GenericFunction :=
  (showRegistry.find? "show").get (by decide +kernel)

/-- A class of counts that is made below the integers, once the call site was resolved. -/
def count : ClassId × Hierarchy :=
  (openScenario.table.classes.create "Count" "user" [Hierarchy.intClass]).toOption.get
    (by decide +kernel)

def openLater : Scenario :=
  { openScenario with table := { openScenario.table with classes := count.2 } }

def oneCount : Value :=
  .object (.make count.2 0 count.1)

/-- A count, of a class that no type stands for and that was made last. -/
theorem show_outcome_eq_dispatch :
    ∃ cascade candidates next methods,
      Resolution.resolve showRegistry openScenario.table { enableAll := true } {} "show" [1] none =
        .ok (.inlined showFunction cascade candidates, next) ∧
      Dispatch.applicable openLater.table showFunction [oneCount] = .ok methods ∧
      cascade.outcome showRegistry openLater.table [oneCount] = .ok methods.head? := by
  have built : Scenario.Steps (Scenario.empty true) openScenario :=
    .tail (.tail .refl (.ensured (by decide +kernel))) (.ensured (by decide +kernel))
  have used : Scenario.Steps openScenario openLater :=
    .single (.made (by decide +kernel) (Traversal.eq_ok_get _))
  have defined : ∀ type ∈ [1], openScenario.table.Defines type := by
    decide +kernel
  have inlined : Resolution.inlines showRegistry openScenario.table { enableAll := true } {} "show"
      [1] none = true := by
    simp only [Resolution.inlines, Resolution.resolve, Resolution.resolveWith,
      Resolution.ofGenericWith, Candidate.sort, Candidate.byOrdinal_eq_insertionSort]
    decide +kernel
  have passes : MayPass openLater.table showFunction [1] (fun _ => True) [oneCount] :=
    ⟨[0], [oneCount], Traversal.toOption_eq_some.mp (by decide +kernel),
      ⟨rfl, by decide +kernel, .cons (Traversal.toOption_eq_some.mp (by decide +kernel)) .nil⟩,
      by simp⟩
  obtain ⟨-, cascade, candidates, next, resolved⟩ := Resolution.exists_resolve_of_inlines
    (Option.some_get _).symm Precedence.Cache.Reached.empty.faithful inlined
  obtain ⟨methods, applicable, outcome⟩ := open_outcome_eq_dispatch built
    (Registry.Reached.empty.registerAll _ _) .empty rfl defined resolved (by decide +kernel) used
    passes
  exact ⟨cascade, candidates, next, methods, resolved, applicable, outcome⟩

end Counting

end StaticDispatch
