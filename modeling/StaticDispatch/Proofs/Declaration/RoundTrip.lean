import StaticDispatch.Proofs.Declaration.Acceptance
import StaticDispatch.Proofs.Declaration.Reading

/-!
Contract: printed declarations and call sites are read back.

A program may be printed with its declarations of different kinds in any order, and with
any blanks and comments between its words. Reading the text gives the program again,
with each declaration and each part of a list at the place where its first word was
printed. The same holds of call sites.

Owns: programs and call sites without their places, and the round trip.
Does not own: what the declarations mean.
-/

namespace StaticDispatch.Declaration

/-! ## Without places -/

def TypeDecl.unplaced (decl : TypeDecl) : TypeDecl :=
  { decl with position := .start }

def GenericDecl.unplaced (decl : GenericDecl) : GenericDecl :=
  { decl with position := .start, params := decl.params.map (·.moved .start) }

def MethodDecl.unplaced (decl : MethodDecl) : MethodDecl :=
  { decl with position := .start, specs := decl.specs.map (·.moved .start) }

/-- A program in which all places are the start. -/
def Program.unplaced (program : Program) : Program where
  types := program.types.map TypeDecl.unplaced
  generics := program.generics.map GenericDecl.unplaced
  methods := program.methods.map MethodDecl.unplaced

def CallDecl.unplaced (decl : CallDecl) : CallDecl :=
  { decl with position := .start, args := decl.args.map (·.moved .start) }

def Item.unplaced : Item → Item
  | .type decl => .type decl.unplaced
  | .generic decl => .generic decl.unplaced
  | .method decl => .method decl.unplaced

/-- Where parts stand is all that placing them changes. -/
theorem map_placedParts {α : Type} (words : α → List Word) (move : α → Position → α)
    (again : ∀ part first second, move (move part first) second = move part second)
    (place : Nat → Position) (number : Nat) (parts : List α) :
    (placedParts words move place number parts).map (move · .start) =
      parts.map (move · .start) := by
  induction parts generalizing number with
  | nil => rfl
  | cons part rest inductionHypothesis =>
      rw [placedParts, List.map_cons, List.map_cons, again, inductionHypothesis]

private theorem Item.unplaced_placed (item : Item) (place : Nat → Position) (number : Nat) :
    (item.placed place number).unplaced = item.unplaced := by
  cases item with
  | type decl => rfl
  | generic decl =>
      have params := map_placedParts ParamDecl.words ParamDecl.moved (fun _ _ _ => rfl) place
        (number + 3) decl.params
      simp only [placed, unplaced, GenericDecl.unplaced, params]
  | method decl =>
      have specs := map_placedParts SpecDecl.words SpecDecl.moved (fun _ _ _ => rfl) place
        (number + 3) decl.specs
      simp only [placed, unplaced, MethodDecl.unplaced, specs]

private theorem map_placedItems (place : Nat → Position) (number : Nat) (items : List Item) :
    (placedItems place number items).map Item.unplaced = items.map Item.unplaced := by
  induction items generalizing number with
  | nil => rfl
  | cons item rest inductionHypothesis =>
      rw [placedItems, List.map_cons, List.map_cons, Item.unplaced_placed, inductionHypothesis]

private theorem Program.unplaced_ofItems (items : List Item) :
    (ofItems items).unplaced = ofItems (items.map Item.unplaced) := by
  simp only [unplaced, ofItems, List.map_filterMap, List.filterMap_map]
  congr 1 <;>
    · apply List.filterMap_congr
      intro item _
      cases item <;> rfl

private theorem CallDecl.unplaced_placed (decl : CallDecl) (place : Nat → Position) :
    (decl.placed place).unplaced = decl.unplaced := by
  have args := map_placedParts ArgDecl.words ArgDecl.moved (fun _ _ _ => rfl) place 2 decl.args
  simp only [placed, unplaced, args]

/-! ## The round trip -/

/-- The declarations of a spellable program are spellable in whatever order. -/
private theorem Program.isSpellable_of_mem {items : List Item}
    (spellable : (ofItems items).isSpellable = true) {item : Item} (inside : item ∈ items) :
    item.isSpellable = true := by
  simp only [isSpellable, Bool.and_eq_true, List.all_eq_true] at spellable
  obtain ⟨⟨types, generics⟩, methods⟩ := spellable
  cases item with
  | type decl => exact types decl (List.mem_filterMap.mpr ⟨_, inside, rfl⟩)
  | generic decl => exact generics decl (List.mem_filterMap.mpr ⟨_, inside, rfl⟩)
  | method decl => exact methods decl (List.mem_filterMap.mpr ⟨_, inside, rfl⟩)

private theorem Program.read_print {layout : Layout} {items : List Item}
    (spellable : (ofItems items).isSpellable = true)
    (separates : layout.separates 0 (items.flatMap Item.words) = true) :
    read (layout.print (items.flatMap Item.words)) =
      .ok (ofItems (placedItems (layout.place (items.flatMap Item.words)) 0 items)) := by
  have each : ∀ item ∈ items, item.isSpellable = true := fun _ => isSpellable_of_mem spellable
  rw [read, tokens_items each separates]
  simp only [mapM_groups each]

private theorem CallDecl.read_print {layout : Layout} {decl : CallDecl}
    (spellable : decl.isSpellable = true) (separates : layout.separates 0 decl.words = true) :
    read (layout.print decl.words) = .ok (decl.placed (layout.place decl.words)) := by
  rw [read, tokens_call spellable separates]
  simp only [ofTokens_tokensAt spellable]
  rfl

/-- **Printed programs and call sites are read back.** The declarations of a program are
printed in any order that keeps those of each kind in theirs. -/
theorem printed_text_reads_back :
    (∀ (program : Program) (items : List Item) (layout : Layout),
      Program.ofItems items = program → program.isSpellable = true →
      layout.separates 0 (items.flatMap Item.words) = true →
        ∃ found, Program.read (layout.print (items.flatMap Item.words)) = .ok found ∧
          found.unplaced = program.unplaced ∧
          found = .ofItems (placedItems (layout.place (items.flatMap Item.words)) 0 items)) ∧
    ∀ (call : CallDecl) (layout : Layout),
      call.isSpellable = true → layout.separates 0 call.words = true →
        ∃ found, CallDecl.read (layout.print call.words) = .ok found ∧
          found.unplaced = call.unplaced ∧ found = call.placed (layout.place call.words) := by
  refine ⟨?_, ?_⟩
  · intro program items layout isProgram spellable separates
    subst isProgram
    refine ⟨_, Program.read_print spellable separates, ?_, rfl⟩
    rw [Program.unplaced_ofItems, map_placedItems, ← Program.unplaced_ofItems]
  · intro call layout spellable separates
    exact ⟨_, CallDecl.read_print spellable separates, call.unplaced_placed _, rfl⟩

namespace Sample

/-- A function with parameters of each kind, a method with a value that needs escapes, and
a type behind the method that names it. -/
def items : List Item :=
  [.generic ⟨"area", [⟨.plain, some "s", .start⟩, ⟨.fallback (.int (-3)), some "k", .start⟩,
      ⟨.star, none, .start⟩, ⟨.doubleStar, some "more", .start⟩], some ["s"], .start⟩,
    .method ⟨"area", [⟨.ofType "Disc", .start⟩, ⟨.any, .start⟩,
      ⟨.exactly (.str "a\\\"\n"), .start⟩], .start⟩,
    .type ⟨"Disc", ["Shape", "Round"], .start⟩]

/-- A word that opens declarations is a name in a call site. -/
def call : CallDecl :=
  ⟨"type", [⟨.top, .start⟩, ⟨.literal (.bool true), .start⟩, ⟨.ofType "Disc", .start⟩], .start⟩

/-- Comments first and last, and gaps where words in letters meet. -/
def layout : Layout where
  before
    | 0 => [.comment ⟨[' ', 'a'], by decide⟩]
    | 1 => [.blank ⟨' ', rfl⟩]
    | 18 => [.blank ⟨'\n', rfl⟩]
    | 19 => [.blank ⟨'\r', rfl⟩]
    | 28 => [.blank ⟨'\t', rfl⟩]
    | _ => []
  behind := []
  remark := some ⟨['z'], by decide⟩

theorem sample_text_reads_back :
    ((Program.ofItems items).isSpellable = true ∧
      layout.separates 0 (items.flatMap Item.words) = true ∧
      Program.read ("# a\ngeneric area(s,k=-3,*,**more)precedence(s)\n" ++
          "method\rarea(Disc,_,\"a\\\\\\\"\\n\")type\tDisc:Shape,Round#z") =
        .ok {
          types := [⟨"Disc", ["Shape", "Round"], ⟨3, 30⟩⟩]
          generics := [⟨"area", [⟨.plain, some "s", ⟨2, 14⟩⟩,
            ⟨.fallback (.int (-3)), some "k", ⟨2, 16⟩⟩, ⟨.star, none, ⟨2, 21⟩⟩,
            ⟨.doubleStar, some "more", ⟨2, 23⟩⟩], some ["s"], ⟨2, 1⟩⟩]
          methods := [⟨"area", [⟨.ofType "Disc", ⟨3, 13⟩⟩, ⟨.any, ⟨3, 18⟩⟩,
            ⟨.exactly (.str "a\\\"\n"), ⟨3, 20⟩⟩], ⟨3, 1⟩⟩] }) ∧
    call.isSpellable = true ∧ layout.separates 0 call.words = true ∧
      CallDecl.read "# a\ntype (?,true,Disc)#z" =
        .ok ⟨"type", [⟨.top, ⟨2, 7⟩⟩, ⟨.literal (.bool true), ⟨2, 9⟩⟩,
          ⟨.ofType "Disc", ⟨2, 14⟩⟩], ⟨2, 1⟩⟩ := by
  have spellable : (Program.ofItems items).isSpellable = true := by decide
  have separates : layout.separates 0 (items.flatMap Item.words) = true := by decide
  have callSpellable : call.isSpellable = true := by decide
  have callSeparates : layout.separates 0 call.words = true := by decide
  obtain ⟨program, programRead, -, isProgram⟩ :=
    printed_text_reads_back.1 _ items layout rfl spellable separates
  obtain ⟨site, siteRead, -, isSite⟩ :=
    printed_text_reads_back.2 call layout callSpellable callSeparates
  have programText : layout.print (items.flatMap Item.words) =
      "# a\ngeneric area(s,k=-3,*,**more)precedence(s)\n" ++
        "method\rarea(Disc,_,\"a\\\\\\\"\\n\")type\tDisc:Shape,Round#z" := by decide +kernel
  have siteText : layout.print call.words = "# a\ntype (?,true,Disc)#z" := by decide +kernel
  refine ⟨⟨spellable, separates, ?_⟩, callSpellable, callSeparates, ?_⟩
  · rw [← programText, programRead, isProgram]
    rfl
  · rw [← siteText, siteRead, isSite]
    rfl

end Sample

end StaticDispatch.Declaration
