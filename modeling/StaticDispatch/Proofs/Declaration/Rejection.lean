import StaticDispatch.Declaration.World
import StaticDispatch.Proofs.RegistryHistory

/-!
Contract: a declaration that is reported has no effect.

Loading takes one declaration after the other. Each is accepted without a report, or
it is reported once and leaves the types and the registry as they were. So a program
without its reported declarations loads to the same world, and nothing is reported.

Owns: the journal of loading a program, and the program that loads without a report.
Does not own: which declarations are reported.
-/

namespace StaticDispatch.Declaration

def Program.items (program : Program) : List Item :=
  program.types.map .type ++ program.generics.map .generic ++ program.methods.map .method

/-- Declarations that are some of a program's, in its order, make up a program. -/
private theorem Program.items_ofItems {program : Program} {kept : List Item}
    (some : kept.Sublist program.items) : (Program.ofItems kept).items = kept := by
  obtain ⟨front, methods, rfl, isFront, areMethods⟩ := List.sublist_append_iff.mp some
  obtain ⟨types, generics, rfl, areTypes, areGenerics⟩ := List.sublist_append_iff.mp isFront
  obtain ⟨typeDecls, -, rfl⟩ := List.sublist_map_iff.mp areTypes
  obtain ⟨genericDecls, -, rfl⟩ := List.sublist_map_iff.mp areGenerics
  obtain ⟨methodDecls, -, rfl⟩ := List.sublist_map_iff.mp areMethods
  simp [Program.items, Program.ofItems, List.filterMap_append, List.filterMap_map]

/-- A refused method leaves the registry as it was: its function has its parameters. -/
private theorem declareMethod_refused {table : TypeTable} {registry left : Registry}
    {decl : MethodDecl}
    {located : Located} (refused : declareMethod table registry decl = (.error located, left)) :
    left = registry := by
  unfold declareMethod at refused
  split at refused
  · cases refused
    rfl
  · split at refused
    · cases refused
      rfl
    · rename_i specializers named
      dsimp only at refused
      split at refused
      · cases refused
      · rename_i fault registered answered
        cases refused
        have isFault : (Registry.Call.register decl.generic (specializers.map .specializer)
            { label := decl.label } none none).fault? registry = some fault := by
          rw [Registry.Call.fault?, answered]
        have unchanged := Registry.after_of_fault isFault
        rw [Registry.Call.after, answered] at unchanged
        rcases unchanged with same | ⟨generic, -, ⟨params, given, -⟩, -⟩
        · exact same
        · cases given

namespace World

variable {world : World}

def addItem (world : World) : Item → World
  | .type decl => world.addType decl
  | .generic decl => world.addGeneric decl
  | .method decl => world.addMethod decl

theorem addProgram_eq (world : World) (program : Program) :
    world.addProgram program = program.items.foldl addItem world := by
  rw [Program.items, List.foldl_append, List.foldl_append, List.foldl_map, List.foldl_map,
    List.foldl_map]
  rfl

def journal : World → List Item → List (Item × List Diagnostic)
  | _, [] => []
  | world, item :: rest =>
      let next := world.addItem item
      (item, next.diagnostics.drop world.diagnostics.length) :: journal next rest

/-- The declarations of a journal that nothing was reported about. -/
def accepted (journal : List (Item × List Diagnostic)) : List Item :=
  (journal.filter (·.2.isEmpty)).map (·.1)

private theorem map_journal (world : World) (items : List Item) :
    (world.journal items).map (·.1) = items := by
  induction items generalizing world with
  | nil => rfl
  | cons item rest inductionHypothesis =>
      rw [journal, List.map_cons, inductionHypothesis]

private theorem accepted_sublist (world : World) (items : List Item) :
    (accepted (world.journal items)).Sublist items := by
  have kept : (accepted (world.journal items)).Sublist ((world.journal items).map (·.1)) :=
    List.filter_sublist.map _
  rwa [map_journal] at kept

def reportOf (world : World) (located : Located) : Diagnostic where
  message := located.fault.message
  phase := some "declare"
  span := world.span located.position

private theorem reject_eq (world : World) (located : Located) (diagnostics : List Diagnostic) :
    { world with diagnostics }.reject located =
      { world with diagnostics := diagnostics ++ [world.reportOf located] } := rfl

/-- **What one declaration does**, whatever was reported before it: it is accepted, or it
is reported once and changes nothing else. -/
theorem addItem_cases (world : World) (item : Item) :
    (∃ table registry, ∀ diagnostics, { world with diagnostics }.addItem item =
        { world with table, registry, diagnostics }) ∨
      ∃ located, ∀ diagnostics, { world with diagnostics }.addItem item =
        { world with diagnostics := diagnostics ++ [world.reportOf located] } := by
  cases item with
  | type decl =>
      cases declared : declareType world.table decl with
      | ok table =>
          refine Or.inl ⟨table, world.registry, fun diagnostics => ?_⟩
          simp [addItem, addType, declared]
      | error fault =>
          refine Or.inr ⟨{ fault, position := decl.position }, fun diagnostics => ?_⟩
          simp [addItem, addType, declared, reject_eq]
  | generic decl =>
      cases declared : declareGeneric world.registry decl with
      | ok registry =>
          refine Or.inl ⟨world.table, registry, fun diagnostics => ?_⟩
          simp [addItem, addGeneric, declared]
      | error located =>
          refine Or.inr ⟨located, fun diagnostics => ?_⟩
          simp [addItem, addGeneric, declared, reject_eq]
  | method decl =>
      rcases declared : declareMethod world.table world.registry decl with ⟨_ | located, left⟩
      · obtain rfl := declareMethod_refused declared
        rename_i located
        refine Or.inr ⟨located, fun diagnostics => ?_⟩
        simp [addItem, addMethod, declared, reject_eq]
      · refine Or.inl ⟨world.table, left, fun diagnostics => ?_⟩
        simp [addItem, addMethod, declared]

/-- A declaration adds its report to what was reported before. -/
private theorem diagnostics_addItem (world : World) (item : Item) :
    ∃ reports, (world.addItem item).diagnostics = world.diagnostics ++ reports ∧
      (reports = [] ∨ ∃ located, reports = [world.reportOf located]) := by
  rcases addItem_cases world item with ⟨table, registry, isAccepted⟩ | ⟨located, isRejected⟩
  · exact ⟨[], by simp [isAccepted world.diagnostics], Or.inl rfl⟩
  · exact ⟨[world.reportOf located], by simp [isRejected world.diagnostics], Or.inr ⟨located, rfl⟩⟩

/-- A journal has all reports, and at most one for each declaration. -/
private theorem journal_spec (world : World) (items : List Item) :
    (items.foldl addItem world).diagnostics =
        world.diagnostics ++ (world.journal items).flatMap (·.2) ∧
      ∀ entry ∈ world.journal items, entry.2 = [] ∨
        ∃ diagnostic, entry.2 = [diagnostic] ∧ diagnostic.phase = some "declare" := by
  induction items generalizing world with
  | nil => simp [journal]
  | cons item rest inductionHypothesis =>
      obtain ⟨all, each⟩ := inductionHypothesis (world.addItem item)
      obtain ⟨reports, added, single⟩ := diagnostics_addItem world item
      have own : (world.addItem item).diagnostics.drop world.diagnostics.length = reports := by
        rw [added, List.drop_left]
      rw [List.foldl_cons, journal, List.flatMap_cons, all, own, added, List.append_assoc]
      refine ⟨rfl, fun entry inside => ?_⟩
      rcases List.mem_cons.mp inside with rfl | inRest
      · rcases single with none | ⟨located, one⟩
        · exact Or.inl none
        · exact Or.inr ⟨_, one, rfl⟩
      · exact each entry inRest

/-- **The accepted declarations alone make the same world**, whatever is reported before
them, and add no report. -/
theorem foldl_accepted (world : World) (items : List Item) (diagnostics : List Diagnostic) :
    (accepted (world.journal items)).foldl addItem { world with diagnostics } =
      { items.foldl addItem world with diagnostics } := by
  induction items generalizing world with
  | nil => rfl
  | cons item rest inductionHypothesis =>
      have later := inductionHypothesis (world.addItem item)
      rcases addItem_cases world item with ⟨table, registry, isAccepted⟩ | ⟨located, isRejected⟩
      · have own : world.addItem item = { world with table, registry } :=
          isAccepted world.diagnostics
        have kept : accepted (world.journal (item :: rest)) =
            item :: accepted ((world.addItem item).journal rest) := by
          simp [accepted, journal, own]
        rw [kept, List.foldl_cons, List.foldl_cons, isAccepted, ← later, own]
      · have own : world.addItem item =
            { world with diagnostics := world.diagnostics ++ [world.reportOf located] } :=
          isRejected world.diagnostics
        have left : accepted (world.journal (item :: rest)) =
            accepted ((world.addItem item).journal rest) := by
          simp [accepted, journal, own]
        rw [left, List.foldl_cons, ← later, own]

/-- **Reported declarations have no effect.** Loading a program reports each declaration at
most once, and the program without the reported ones loads to the same types and the same
registry without a report. -/
theorem reported_declarations_without_effect (file : Option String) (program : Program) :
    let journal := (World.empty file).journal program.items
    let world := (World.empty file).addProgram program
    let repaired := (World.empty file).addProgram (Program.ofItems (accepted journal))
    (∀ text, Program.read text = .ok program → World.load file text = .ok world) ∧
      journal.map (·.1) = program.items ∧
      world.diagnostics = journal.flatMap (·.2) ∧
      (∀ entry ∈ journal, entry.2 = [] ∨
        ∃ diagnostic, entry.2 = [diagnostic] ∧ diagnostic.phase = some "declare") ∧
      (Program.ofItems (accepted journal)).items = accepted journal ∧
      repaired.diagnostics = [] ∧ repaired.table = world.table ∧
      repaired.registry = world.registry := by
  intro journal world repaired
  have loads : ∀ text, Program.read text = .ok program → World.load file text = .ok world := by
    intro text spelled
    rw [World.load, spelled]
  obtain ⟨all, each⟩ := journal_spec (World.empty file) program.items
  have items := Program.items_ofItems (accepted_sublist (World.empty file) program.items)
  have same : repaired = { world with diagnostics := [] } := by
    show (World.empty file).addProgram _ = { (World.empty file).addProgram program with
      diagnostics := [] }
    rw [addProgram_eq, addProgram_eq, items]
    exact foldl_accepted (World.empty file) program.items []
  refine ⟨loads, map_journal _ _, ?_, each, items, ?_, ?_, ?_⟩
  · show ((World.empty file).addProgram program).diagnostics = _
    rw [addProgram_eq, all]
    rfl
  all_goals rw [same]

end World

end StaticDispatch.Declaration
