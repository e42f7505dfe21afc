import StaticDispatch.Proofs.Declaration.Layout
import StaticDispatch.Proofs.Declaration.LiteralFaults
import StaticDispatch.Proofs.Declaration.Names
import StaticDispatch.Proofs.Declaration.ParamGroups

/-!
Contract: the parameters that a text spells, and which of their lists are loaded.

The grammar lets a list close only behind a whole parameter, so every parameter but a star
has a name, and names are letters with letters, digits and underscores behind them. Of such
names validation can only say that two are equal or that one is a reserved word. What is
left to decide whether a list loads is the order of the forms.

Owns: the parameters of a read text, and when and how their list is loaded.
Does not own: how parameters are put into groups.
-/

namespace StaticDispatch.Declaration

variable {decl : GenericDecl}

/-! ## The points of a list -/

namespace Point

variable {point next last : Point} {terminal : Terminal} {tokens : List Token}

/-- Whether the list of a generic function is being read. -/
def inParams : Point → Bool
  | .firstParam | .param | .afterPlain | .fallback | .afterParam | .afterStar | .otherKeysName =>
      true
  | _ => false

def mayClose (point : Point) : Bool :=
  (point.step .closeParen).isSome

/-- A comma ends a parameter, and another one follows. -/
private theorem step_comma (steps : point.step .comma = some next)
    (isInside : point.inParams = true) :
    point.mayClose = true ∧ next = .param := by
  cases point <;> cases isInside <;> cases steps <;> decide

private theorem step_inParams (steps : point.step terminal = some next)
    (isInside : point.inParams = true)
    (notClosed : terminal ≠ .closeParen) : next.inParams = true := by
  cases point <;> cases isInside <;> cases terminal <;> cases steps <;>
    first | rfl | exact absurd rfl notClosed

/-- A parameter starts with its name or with a star. -/
private theorem step_param (starts : point = .firstParam ∨ point = .param)
    (steps : point.step terminal = some next) (notClosed : terminal ≠ .closeParen) :
    terminal = .name ∧ next = .afterPlain ∨ terminal = .star ∧ next = .afterStar ∨
      terminal = .doubleStar ∧ next = .otherKeysName := by
  rcases starts with rfl | rfl <;> cases terminal <;> cases steps <;> simp_all

private theorem step_otherKeysName (steps : Point.otherKeysName.step terminal = some next) :
    terminal = .name := by
  cases terminal <;> cases steps
  rfl

/-- A declaration ends only where its list is behind it. -/
private theorem phase_of_opener (steps : point.step terminal = some next)
    (opens : terminal.opensDeclaration = true) : point.phase = .after := by
  cases terminal <;> cases opens <;> cases point <;> cases steps <;> rfl

private theorem phase_of_mayEnd (ends : point.mayEnd = true) : point.phase = .after := by
  cases point <;> cases ends <;> rfl

/-- A list that is left was read up to where it may close. -/
private theorem run_takeWhile (ran : point.run tokens = .ok last) (isInside : point.phase = .inside)
    (isAfter : last.phase = .after) :
    ∃ middle, point.run (tokens.takeWhile (·.terminal ≠ .closeParen)) = .ok middle ∧
      middle.mayClose = true := by
  induction tokens generalizing point with
  | nil =>
      cases ran
      rw [isInside] at isAfter
      cases isAfter
  | cons token rest inductionHypothesis =>
      obtain ⟨next, steps, later⟩ := run_cons ran
      by_cases closes : token.terminal = .closeParen
      · rw [List.takeWhile_cons_of_neg (by simp [closes])]
        exact ⟨point, rfl, by rw [mayClose, ← closes, steps]; rfl⟩
      · have nextInside := step_inside steps isInside
        rw [if_neg closes] at nextInside
        obtain ⟨middle, taken, mayClose⟩ := inductionHypothesis later nextInside
        rw [List.takeWhile_cons_of_pos (by simp [closes]), run, steps]
        exact ⟨middle, taken, mayClose⟩

/-- Each part of a list of parameters is one parameter. -/
private theorem run_splitCommas (ran : point.run tokens = .ok last)
    (isInside : point.inParams = true)
    (notClosed : ∀ token ∈ tokens, token.terminal ≠ .closeParen) (closes : last.mayClose = true)
    {first : List Token} {others : List (List Token)}
    (split : splitCommas tokens = first :: others) :
    (∃ middle, point.run first = .ok middle ∧ middle.mayClose = true) ∧
      ∀ part ∈ others, ∃ middle, Point.param.run part = .ok middle ∧ middle.mayClose = true := by
  induction tokens generalizing point first others with
  | nil =>
      cases ran
      cases split
      exact ⟨⟨_, rfl, closes⟩, by simp⟩
  | cons token rest inductionHypothesis =>
      obtain ⟨next, steps, later⟩ := run_cons ran
      obtain ⟨restFirst, restOthers, restSplit⟩ := exists_splitCommas rest
      have nextInside := step_inParams steps isInside (notClosed token (by simp))
      obtain ⟨⟨middle, taken, mayClose⟩, areParams⟩ := inductionHypothesis later nextInside
        (fun other inside => notClosed other (by simp [inside])) restSplit
      by_cases isComma : token.terminal = .comma
      · rw [splitCommas, if_pos isComma, restSplit] at split
        cases split
        rw [isComma] at steps
        obtain ⟨pointCloses, rfl⟩ := step_comma steps isInside
        exact ⟨⟨point, rfl, pointCloses⟩,
          List.forall_mem_cons.mpr ⟨⟨middle, taken, mayClose⟩, areParams⟩⟩
      · rw [splitCommas_cons isComma restSplit] at split
        cases split
        exact ⟨⟨middle, by rw [run, steps]; exact taken, mayClose⟩, areParams⟩

end Point

/-! ## Parameters and their names -/

private theorem names_cons_of_name {token : Token} (isName : token.terminal = .name)
    (rest : List Token) : names (token :: rest) = token.text :: names rest := by
  simp [names, isName]

private theorem names_cons_of_ne {token : Token} (other : token.terminal ≠ .name)
    (rest : List Token) :
    names (token :: rest) = names rest := by
  simp [names, other]

private theorem ParamDecl.name_of_part {token : Token} {rest : List Token} {own : ParamDecl}
    (spelled : ParamDecl.ofPart? (token :: rest) = .ok (some own)) :
    own.name = (names (token :: rest)).head? ∧ (token.terminal = .star → own.form = .star) := by
  obtain ⟨value, -, made⟩ := Traversal.bind_eq_ok.mp spelled
  simp only [List.head?_cons, Option.map_some, Traversal.pure_eq_ok, Except.ok.injEq,
    Option.some.injEq] at made
  split at made <;> subst made <;> simp_all [ParamDecl.form]

/-- **A parameter other than a star has a name.** -/
theorem ParamDecl.isNamed_of_part {part : List Token} {point last : Point} {own : ParamDecl}
    (starts : point = .firstParam ∨ point = .param) (ran : point.run part = .ok last)
    (notClosed : ∀ token ∈ part, token.terminal ≠ .closeParen) (closes : last.mayClose = true)
    (spelled : ParamDecl.ofPart? part = .ok (some own)) : own.IsNamed := by
  cases part with
  | nil => cases spelled
  | cons token rest =>
      obtain ⟨next, steps, later⟩ := Point.run_cons ran
      obtain ⟨isName, isStar⟩ := ParamDecl.name_of_part spelled
      intro notStar
      rw [isName]
      rcases Point.step_param starts steps (notClosed token (by simp)) with
        ⟨isTerminal, -⟩ | ⟨isTerminal, -⟩ | ⟨isTerminal, rfl⟩
      · rw [names_cons_of_name isTerminal]
        rfl
      · exact absurd (isStar isTerminal) notStar
      · -- Behind a double star only a name goes on, and the list may not close before it.
        cases rest with
        | nil =>
            cases later
            cases closes
        | cons following others =>
            obtain ⟨second, goesOn, -⟩ := Point.run_cons later
            rw [names_cons_of_ne (by simp [isTerminal]),
              names_cons_of_name (Point.step_otherKeysName goesOn)]
            rfl

/-! ## Declarations -/

/-- The declarations of an accepted text have their lists behind them. -/
private theorem run_of_mem_groups_after {point last : Point} {tokens : List Token}
    (ran : point.run tokens = .ok last) (isAfter : last.phase = .after)
    {group : Token × List Token} (isGroup : group ∈ groups tokens) :
    ∃ first final, Point.open? group.1.terminal = some first ∧ first.run group.2 = .ok final ∧
      final.phase = .after := by
  induction tokens generalizing point with
  | nil => cases isGroup
  | cons token rest inductionHypothesis =>
      obtain ⟨next, steps, later⟩ := Point.run_cons ran
      rw [groups] at isGroup
      split at isGroup
      next opens =>
        rcases List.mem_cons.mp isGroup with rfl | inRest
        · rw [← List.takeWhile_append_dropWhile (p := (!·.terminal.opensDeclaration)) (l := rest)]
            at later
          obtain ⟨final, taken, left⟩ := Point.run_append later
          refine ⟨next, final, Point.step_opener steps opens, taken, ?_⟩
          cases isLeft : rest.dropWhile (!·.terminal.opensDeclaration) with
          | nil =>
              rw [isLeft] at left
              cases left
              exact isAfter
          | cons following others =>
              rw [isLeft] at left
              obtain ⟨second, goesOn, -⟩ := Point.run_cons left
              have opensNext := List.head?_dropWhile_not (!·.terminal.opensDeclaration) rest
              rw [isLeft] at opensNext
              exact Point.phase_of_opener goesOn (by simpa using opensNext)
        · exact inductionHypothesis later inRest
      next => exact inductionHypothesis later isGroup

theorem mem_names_iff {name : String} {tokens : List Token} :
    name ∈ names tokens ↔ ∃ token ∈ tokens, token.terminal = .name ∧ token.text = name := by
  simp [names, and_assoc]

/-- Behind the parenthesis that opens the list of a generic function, the list starts. -/
private theorem run_behind_open {tokens : List Token} {final : Point}
    (ran : Point.genericName.run tokens = .ok final) (isAfter : final.phase = .after) :
    Point.firstParam.run ((tokens.dropWhile (·.terminal ≠ .openParen)).drop 1) = .ok final := by
  cases tokens with
  | nil =>
      cases ran
      cases isAfter
  | cons name others =>
      obtain ⟨afterName, isName, ranOthers⟩ := Point.run_cons ran
      have named : name.terminal = .name ∧ afterName = .genericOpen := by
        cases isTerminal : name.terminal <;> rw [isTerminal] at isName <;> cases isName
        simp
      obtain ⟨isTerminal, rfl⟩ := named
      cases others with
      | nil =>
          cases ranOthers
          cases isAfter
      | cons paren rest =>
          obtain ⟨afterParen, isParen, ranRest⟩ := Point.run_cons ranOthers
          have opened : paren.terminal = .openParen ∧ afterParen = .firstParam := by
            cases isOther : paren.terminal <;> rw [isOther] at isParen <;> cases isParen
            simp
          obtain ⟨isOpen, rfl⟩ := opened
          simpa [List.dropWhile, isTerminal, isOpen] using ranRest

/-- The parts of a generic function's list are its parameters. -/
private theorem run_of_mem_parts {tokens part : List Token} {final : Point}
    (ran : Point.genericName.run tokens = .ok final) (isAfter : final.phase = .after)
    (isPart : part ∈ parts tokens) :
    part ⊆ tokens ∧ (∀ token ∈ part, token.terminal ≠ .closeParen) ∧
      ∃ point last : Point, (point = .firstParam ∨ point = .param) ∧ point.run part = .ok last ∧
        last.mayClose = true := by
  obtain ⟨last, taken, closes⟩ := Point.run_takeWhile (run_behind_open ran isAfter) rfl isAfter
  unfold parts at isPart
  dsimp only at isPart
  set inside := ((tokens.dropWhile (·.terminal ≠ .openParen)).drop 1).takeWhile
    (·.terminal ≠ .closeParen) with isInside
  have notClosed : ∀ token ∈ inside, token.terminal ≠ .closeParen :=
    fun token isIn => by simpa using List.mem_takeWhile_imp isIn
  have insideTokens : inside ⊆ tokens :=
    ((List.takeWhile_sublist _).trans ((List.drop_sublist _ _).trans
      (List.dropWhile_sublist _))).subset
  split at isPart
  · cases isPart
  · have partInside := subset_of_mem_splitCommas isPart
    refine ⟨List.Subset.trans partInside insideTokens,
      fun token isIn => notClosed token (partInside isIn), ?_⟩
    obtain ⟨first, others, split⟩ := exists_splitCommas inside
    obtain ⟨⟨middle, ranFirst, mayClose⟩, areParams⟩ :=
      Point.run_splitCommas taken rfl notClosed closes split
    rw [split] at isPart
    rcases List.mem_cons.mp isPart with rfl | later
    · exact ⟨.firstParam, middle, .inl rfl, ranFirst, mayClose⟩
    · obtain ⟨ending, ranPart, endCloses⟩ := areParams part later
      exact ⟨.param, ending, .inr rfl, ranPart, endCloses⟩

/-- The parameters of a declaration have names of its text, stars apart. -/
private theorem GenericDecl.params_of_ofTokens {position : Position} {tokens : List Token}
    {final : Point}
    (ran : Point.genericName.run tokens = .ok final) (isAfter : final.phase = .after)
    (spelled : GenericDecl.ofTokens position tokens = .ok decl) :
    ∀ own ∈ decl.params, own.IsNamed ∧ ∀ name ∈ own.name, name ∈ names tokens := by
  obtain ⟨params, areParams, made⟩ := Traversal.bind_eq_ok.mp spelled
  cases made
  intro own inside
  obtain ⟨part, isPart, isOwn⟩ := Traversal.exists_of_mem_filterMapM areParams inside
  obtain ⟨partTokens, notClosed, point, last, starts, ranPart, closes⟩ :=
    run_of_mem_parts ran isAfter isPart
  refine ⟨ParamDecl.isNamed_of_part starts ranPart notClosed closes isOwn, fun name isName => ?_⟩
  cases part with
  | nil => cases isOwn
  | cons token rest =>
      rw [(ParamDecl.name_of_part isOwn).1] at isName
      obtain ⟨source, isIn, isSpelled⟩ := mem_names_iff.mp (List.mem_of_head? isName)
      exact mem_names_iff.mpr ⟨source, partTokens isIn, isSpelled⟩

/-- **The parameters of a text have lettered names, stars apart.** -/
theorem GenericDecl.params_of_read {text : String} {program : Program}
    (spelled : Program.read text = .ok program) (isGeneric : decl ∈ program.generics) :
    ∀ own ∈ decl.params, own.IsNamed ∧ ∀ name ∈ own.name, isLettered name = true := by
  obtain ⟨accepted, items, scanned, itemsAre, rfl⟩ := Program.exists_of_read spelled
  obtain ⟨last, ran, ends⟩ := run_of_tokens scanned
  obtain ⟨item, inside, isDecl⟩ := List.mem_filterMap.mp isGeneric
  obtain ⟨group, isGroup, isItem⟩ :=
    Traversal.exists_of_mem_right (Traversal.mapM_eq_ok_iff.mp itemsAre) inside
  obtain ⟨first, final, opened, taken, isAfter⟩ :=
    run_of_mem_groups_after ran (Point.phase_of_mayEnd ends) isGroup
  rcases Item.ofGroup_cases isItem with rfl | ⟨own, rfl, isWord, made⟩ | ⟨_, rfl, -⟩
  · cases isDecl
  · cases isDecl
    rw [isWord] at opened
    cases opened
    intro param isParam
    obtain ⟨named, fromText⟩ := GenericDecl.params_of_ofTokens taken isAfter made param isParam
    exact ⟨named, fun name isName => isLettered_of_tokens (by decide) scanned name
      (names_subset_of_mem_groups isGroup name (fromText name isName))⟩
  · cases isDecl

/-! ## Lettered names -/

/-- The letters of a name are those of the alphabet, in both cases. -/
theorem isAlpha_of_isLetter {character : Char} (letter : isLetter character = true) :
    character.isAlpha = true := by
  simp only [isLetter, Bool.or_eq_true, Bool.and_eq_true, decide_eq_true_eq] at letter
  rcases letter with lower | upper
  · have isLower : character.isLower = true :=
      Bool.and_eq_true_iff.mpr ⟨decide_eq_true lower.1, decide_eq_true lower.2⟩
    exact Bool.or_eq_true_iff.mpr (.inr isLower)
  · have isUpper : character.isUpper = true := decide_eq_true upper
    exact Bool.or_eq_true_iff.mpr (.inl isUpper)

private theorem isPlain_of_isNameCharacter {character : Char}
    (fits : isNameCharacter character = true) :
    Text.isPlain character = true := by
  simp only [isNameCharacter, Bool.or_eq_true, decide_eq_true_eq] at fits
  rcases fits with (letter | digit) | rfl
  · simp [Text.isPlain, Char.isAlphanum, isAlpha_of_isLetter letter]
  · have isDigit : character.isDigit = true := digit
    simp [Text.isPlain, Char.isAlphanum, isDigit]
  · rfl

/-- A lettered name can name a variable, and does not start with an underscore. -/
theorem isIdentifier_of_isLettered {name : String} (lettered : isLettered name = true) :
    Text.isIdentifier name = true ∧ name.toList.head? ≠ some '_' := by
  cases characters : name.toList with
  | nil => simp [isLettered, characters] at lettered
  | cons first rest =>
      have isHead : name.toList.head? = some first := by rw [characters]; rfl
      have letter := isLetter_of_isLettered lettered isHead
      have plain : ∀ character ∈ name.toList, Text.isPlain character = true := by
        rw [isLettered, characters, Bool.and_eq_true, List.all_eq_true] at lettered
        rw [characters, List.forall_mem_cons]
        exact ⟨isPlain_of_isNameCharacter (by simp [isNameCharacter, letter]),
          fun character inside => isPlain_of_isNameCharacter (lettered.2 character inside)⟩
      have starts : Text.isIdentifierStart first = true := by
        rw [Text.isIdentifierStart,
          if_pos (Text.ascii_of_isPlain (plain first (by simp [characters]))),
          isAlpha_of_isLetter letter]
        rfl
      refine ⟨Text.isIdentifier_of_isWord ⟨by simp [characters], plain⟩ isHead starts, ?_⟩
      rintro ⟨⟩
      cases letter

/-- Of lettered names, validation asks only that they differ and are not reserved. -/
private theorem wellNamed_iff_of_isLettered {names : List String}
    (lettered : ∀ name ∈ names, isLettered name = true) :
    ParamList.WellNamed names ↔
      names.Nodup ∧ ∀ name ∈ names, Text.isReservedWord name = false := by
  constructor
  · exact fun wellNamed => ⟨wellNamed.distinct, wellNamed.unreserved⟩
  · rintro ⟨distinct, unreserved⟩
    exact ⟨fun name inside => (isIdentifier_of_isLettered (lettered name inside)).1, unreserved,
      fun name inside => (isIdentifier_of_isLettered (lettered name inside)).2, distinct⟩

/-- **A declaration loads its parameters exactly if they have the shape and good names.**
The shape is that of plain parameters, parameters with a default, at most one star with
keyword parameters of both forms behind it, and at most one parameter for other keys; and
the names, that of the star included, differ from each other and from the reserved words.
The list then has each group in its place: required, optional, the star's name, the keyword
parameters and the other keys, with their defaults, which for a plain keyword parameter is
nil. -/
theorem GenericDecl.paramList_succeeds_iff_shape {text : String} {program : Program}
    (spelled : Program.read text = .ok program) (isGeneric : decl ∈ program.generics) :
    ((∃ params, decl.paramList = .ok params) ↔
      decl.params.map ParamDecl.form ∈ paramShape.matches' ∧
        (decl.params.filterMap (·.name)).Nodup ∧
        ∀ name ∈ decl.params.filterMap (·.name), Text.isReservedWord name = false) ∧
      ∀ params, decl.paramList = .ok params →
        ∃ groups : ParamGroups, groups.Proper ∧ groups.all = decl.params ∧
          groups.Spells params := by
  have areParams := GenericDecl.params_of_read spelled isGeneric
  have named : ∀ own ∈ decl.params, own.IsNamed := fun own inside => (areParams own inside).1
  have lettered : ∀ name ∈ decl.params.filterMap (·.name), isLettered name = true := by
    intro name inside
    obtain ⟨own, isOwn, isName⟩ := List.mem_filterMap.mp inside
    exact (areParams own isOwn).2 name isName
  rw [← wellNamed_iff_of_isLettered lettered, ParamGroups.mem_paramShape_iff]
  refine ⟨⟨?_, ?_⟩, ?_⟩
  · rintro ⟨params, loaded⟩
    obtain ⟨groups, proper, allAre, rfl, wellNamed⟩ :=
      (GenericDecl.paramList_eq_ok_iff named).mp loaded
    rw [ParamGroups.names_state proper (allAre ▸ named), allAre] at wellNamed
    exact ⟨⟨groups, proper, allAre⟩, wellNamed⟩
  · rintro ⟨⟨groups, proper, allAre⟩, wellNamed⟩
    refine ⟨groups.state.params, (GenericDecl.paramList_eq_ok_iff named).mpr
      ⟨groups, proper, allAre, rfl, ?_⟩⟩
    rwa [ParamGroups.names_state proper (allAre ▸ named), allAre]
  · intro params loaded
    obtain ⟨groups, proper, allAre, rfl, -⟩ :=
      (GenericDecl.paramList_eq_ok_iff named).mp loaded
    exact ⟨groups, proper, allAre, ParamGroups.spells_state proper (allAre ▸ named)⟩

def everyForm : GenericDecl where
  name := "f"
  params := [⟨.plain, some "a", ⟨1, 11⟩⟩, ⟨.fallback (.int 1), some "b", ⟨1, 14⟩⟩,
    ⟨.star, some "c", ⟨1, 21⟩⟩, ⟨.fallback .nil, some "d", ⟨1, 25⟩⟩, ⟨.plain, some "e", ⟨1, 34⟩⟩,
    ⟨.doubleStar, some "g", ⟨1, 37⟩⟩]
  precedence := none
  position := ⟨1, 1⟩

/-- Plain keyword parameters may stand behind those with a default. -/
theorem everyForm_loads :
    Program.read "generic f(a, b = 1, *c, d = nil, e, **g)" = .ok ⟨[], [everyForm], []⟩ ∧
      everyForm.params.map ParamDecl.form ∈ paramShape.matches' ∧
      ∃ params, everyForm.paramList = .ok params ∧
        ∃ groups : ParamGroups, groups.Proper ∧ groups.all = everyForm.params ∧
          groups.Spells params := by
  have spelled : Program.read "generic f(a, b = 1, *c, d = nil, e, **g)" =
      .ok ⟨[], [everyForm], []⟩ := by with_unfolding_all rfl
  have shaped : everyForm.params.map ParamDecl.form ∈ paramShape.matches' := by decide
  obtain ⟨succeeds, segments⟩ :=
    GenericDecl.paramList_succeeds_iff_shape spelled (List.mem_singleton.mpr rfl)
  obtain ⟨params, loaded⟩ := succeeds.mpr ⟨shaped, by decide, by decide⟩
  exact ⟨spelled, shaped, params, loaded, segments params loaded⟩

end StaticDispatch.Declaration
