import StaticDispatch.Proofs.Declaration.LiteralGrowth
import StaticDispatch.Proofs.Declaration.Loading
import StaticDispatch.Proofs.Declaration.Spelling

/-!
Contract: the names of declared types, from the text to the table.

The rule for names takes letters, digits and underscores, and no other rule makes a
name. So no declared type has a name with a dot, and a loaded table has declared types
only: each with a host class that was made for it.

Owns: the characters of names, and the types of a loaded table.
Does not own: what literals add to the table.
-/

namespace StaticDispatch.Declaration

/-- Letters, digits and underscores only. -/
def IsWordy (text : String) : Prop :=
  ∀ character ∈ text.toList, isNameCharacter character = true

private theorem IsWordy.no_dot {text : String} (wordy : IsWordy text) : '.' ∉ text.toList := by
  intro dotted
  have wrong := wordy '.' dotted
  cases wrong

theorem IsWordy.of_isLettered {text : String} (lettered : isLettered text = true) :
    IsWordy text := by
  unfold isLettered at lettered
  intro character inside
  cases characters : text.toList with
  | nil => simp [characters] at inside
  | cons first rest =>
      rw [characters, Bool.and_eq_true, List.all_eq_true] at lettered
      rw [characters] at inside
      rcases List.mem_cons.mp inside with rfl | later
      · simp [isNameCharacter, lettered.1]
      · exact lettered.2 character later

variable {vocabulary : Vocabulary} {lexeme : Lexeme} {count : Nat} {character : Char}
  {rest : List Char} {token : Token}

private theorem isLettered_of_token? (unnamed : ∀ mark ∈ vocabulary.marks, mark.2 ≠ .name)
    {position : Position} (fits : lexeme? vocabulary character rest = some (lexeme, count))
    (made : lexeme.token? vocabulary position (String.ofList (character :: rest.take count)) =
      some token) (isName : token.terminal = .name) : isLettered token.text = true := by
  rcases lexeme?_cases fits with ⟨rfl, -⟩ | ⟨rfl, letter, rfl⟩ | rfl | rfl | ⟨mark, isMark, rfl⟩
  · cases made
    cases isName
  · cases made
    rw [← List.prefix_iff_eq_take.mp (List.takeWhile_prefix _)]
    simp only [isLettered, String.toList_ofList, letter, List.all_takeWhile, Bool.and_self]
  · cases made
  · cases made
    cases isName
  · cases made
    exact absurd isName (unnamed mark isMark)

/-! ## Declarations -/

/-- **A name is a letter with letters, digits and underscores behind it.** -/
theorem isLettered_of_tokens (unnamed : ∀ mark ∈ vocabulary.marks, mark.2 ≠ .name)
    {start : Point} {text : List Char} {accepted : List Token}
    (scanned : tokens vocabulary start text = .ok accepted) :
    ∀ name ∈ names accepted, isLettered name = true := by
  intro name inside
  obtain ⟨token, kept, rfl⟩ := List.mem_map.mp inside
  obtain ⟨isToken, isName⟩ := List.mem_filter.mp kept
  rw [eq_scan_of_tokens scanned] at isToken
  exact forall_mem_scanFrom (isLettered_of_token? unnamed) _ _ text token isToken
    (of_decide_eq_true isName)

theorem names_subset_of_mem_groups {group : Token × List Token} {all : List Token}
    (inside : group ∈ groups all) : ∀ name ∈ names group.2, name ∈ names all := by
  intro name isName
  obtain ⟨token, kept, rfl⟩ := List.mem_map.mp isName
  exact List.mem_map_of_mem (List.filter_subset _ (subset_of_mem_groups inside) kept)

private theorem isWordy_of_read {text : String} {program : Program}
    (spelled : Program.read text = .ok program) : ∀ decl ∈ program.types, IsWordy decl.name := by
  obtain ⟨accepted, items, scanned, itemsAre, rfl⟩ := Program.exists_of_read spelled
  intro decl isType
  obtain ⟨item, inside, isDecl⟩ := List.mem_filterMap.mp isType
  obtain ⟨group, isGroup, isItem⟩ :=
    Traversal.exists_of_mem_right (Traversal.mapM_eq_ok_iff.mp itemsAre) inside
  have wordy : ∀ name ∈ names group.2, IsWordy name := fun name isName =>
    .of_isLettered (isLettered_of_tokens (by decide) scanned name
      (names_subset_of_mem_groups isGroup name isName))
  rcases Item.ofGroup_cases isItem with rfl | ⟨_, rfl, -⟩ | ⟨_, rfl, -⟩
  · cases isDecl
    change IsWordy ((names group.2).headD "")
    cases isNames : names group.2 with
    | nil => exact fun character inside => by cases inside
    | cons name others => exact wordy name (by simp [isNames])
  · cases isDecl
  · cases isDecl

/-! ## The loaded table -/

variable {table later : TypeTable} {world : World}

private theorem pristine_declareType (pristine : table.Pristine) {decl : TypeDecl}
    (wordy : IsWordy decl.name) (declared : declareType table decl = .ok later) :
    later.Pristine := by
  obtain ⟨mirrors, growth⟩ := declareType_spec pristine.mirrors declared
  obtain ⟨proper, bases, cls, classes, id, basesOf, created, added⟩ :=
    declareType_eq_ok pristine.mirrors declared
  obtain ⟨-, isNew, -⟩ := Hierarchy.created_spec pristine.mirrors.wellFormed
    (fun _ => basesOf.knows pristine.mirrors) created
  obtain ⟨top, isTop⟩ := pristine.hasTop
  refine ⟨mirrors, pristine.builtin.trans growth.classes,
    ⟨top, growth.definitions _ _ isTop⟩, ?_⟩
  intro own name supertypes host found
  obtain ⟨-, rfl⟩ := Prod.mk.inj (TypeTable.newClass_eq_ok added)
  rcases TypeTable.find?_add_eq_some_iff.mp found with ⟨-, isAdded⟩ | older
  · cases isAdded
    exact ⟨wordy.no_dot, fun builtin => isNew (pristine.builtin.knows builtin)⟩
  · exact pristine.declared own name supertypes host older

private theorem pristine_empty (file : Option String) : (World.empty file).table.Pristine := by
  have loaded := World.Loaded.empty file
  obtain ⟨registered, isTop⟩ := TypeTable.ensureTop_spec (TypeTable.empty_mirrors false) 0
  refine ⟨loaded.mirrors, loaded.builtin, ⟨_, isTop⟩, ?_⟩
  intro id name supertypes cls found
  rcases registered.fresh id cls (TypeTable.hostAt?_eq_some_iff.mpr ⟨_, _, found⟩) with
    older | isBelow
  · simp [TypeTable.hostAt?, TypeTable.find?_empty] at older
  · exact absurd isBelow (Nat.not_lt_zero cls)

/-- Every declaration of a type, accepted or not, leaves declared types only. -/
private theorem pristine_foldl {decls : List TypeDecl} (wordy : ∀ decl ∈ decls, IsWordy decl.name)
    (pristine : world.table.Pristine) : (decls.foldl World.addType world).table.Pristine := by
  induction decls generalizing world with
  | nil => exact pristine
  | cons decl rest inductionHypothesis =>
      apply inductionHypothesis fun other inside => wordy other (by simp [inside])
      unfold World.addType
      split
      · rename_i table declared
        exact pristine_declareType pristine (wordy decl (by simp)) declared
      · exact pristine

/-- **A loaded table has declared types only.** -/
theorem World.pristine_of_load {file : Option String} {text : String}
    (isLoaded : World.load file text = .ok world) : world.table.Pristine := by
  unfold World.load at isLoaded
  split at isLoaded
  · rename_i program spelled
    cases isLoaded
    rw [World.table_addProgram]
    exact pristine_foldl (isWordy_of_read spelled) (pristine_empty file)
  · cases isLoaded
    exact pristine_empty file
  · cases isLoaded

end StaticDispatch.Declaration
