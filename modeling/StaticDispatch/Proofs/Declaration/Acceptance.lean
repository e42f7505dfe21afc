import StaticDispatch.Declaration.Grammar
import StaticDispatch.Proofs.Declaration.Layout

/-!
Contract: the grammar accepts the words of declarations and call sites.

The words of a declaration lead from a point between declarations to another one, and
those of a call site lead to its end. Words that the grammar accepts one behind the other
never run into each other unless both are in letters, and each is a word of the
vocabulary.

Owns: walks of the grammar over words, and the walks of spelled declarations.
Does not own: what the words mean.
-/

namespace StaticDispatch.Declaration

namespace Point

variable {point next : Point} {terminal : Terminal}

def walk (point : Point) (words : List Word) : Option Point :=
  words.foldlM (fun point word => point.step word.terminal) point

private theorem walk_cons (point : Point) (word : Word) (rest : List Word) :
    point.walk (word :: rest) = (point.step word.terminal).bind (·.walk rest) := rfl

private theorem walk_append (point : Point) (first second : List Word) :
    point.walk (first ++ second) = (point.walk first).bind (·.walk second) :=
  List.foldlM_append

private theorem run_of_walk {words : List Word} (walks : point.walk words = some next)
    (place : Nat → Position) (number : Nat) :
    point.run (tokensAt place number words) = .ok next := by
  induction words generalizing point number with
  | nil =>
      cases walks
      rfl
  | cons word rest inductionHypothesis =>
      obtain ⟨middle, steps, later⟩ := Option.bind_eq_some_iff.mp walks
      rw [tokensAt, run]
      simp only [Word.tokenAt, steps]
      exact inductionHypothesis later (number + 1)

/-! ## Words that do not clash -/

/-- A point at which a part of a list, or a value, starts. -/
def opensPart : Point → Bool
  | .firstParam => true
  | .param => true
  | .fallback => true
  | .firstSpec => true
  | .spec => true
  | .firstArg => true
  | .arg => true
  | _ => false

private theorem opensPart_of_step (steps : point.step terminal = some next)
    (isPart : terminal ∈ [.number, .underscore, .star, .doubleStar]) :
    point.opensPart = true := by
  simp only [List.mem_cons, List.not_mem_nil, or_false] at isPart
  rcases isPart with rfl | rfl | rfl | rfl <;> cases point <;> cases steps <;> rfl

private theorem step_opensPart (steps : point.step terminal = some next)
    (opens : next.opensPart = true) :
    terminal = .equal ∨ terminal = .openParen ∨ terminal = .comma := by
  cases point <;> cases terminal <;> cases steps <;> cases opens <;> decide

/-- Terminals that may follow each other do not clash. -/
private theorem clashes_eq_false {first second : Terminal} {last : Point}
    (steps : point.step first = some next) (goesOn : next.step second = some last) :
    first.clashes second = false := by
  rw [Bool.eq_false_iff]
  intro clash
  have isPart : second ∈ [.number, .underscore, .star, .doubleStar] := by
    grind [Terminal.clashes]
  rcases step_opensPart steps (opensPart_of_step goesOn isPart) with rfl | rfl | rfl <;>
    simp [Terminal.clashes, Terminal.isLettered] at clash

private theorem fits_of_walk {words : List Word} (walks : point.walk words = some next) :
    Fits words := by
  induction words generalizing point with
  | nil => exact .nil
  | cons word rest inductionHypothesis =>
      obtain ⟨middle, steps, later⟩ := Option.bind_eq_some_iff.mp walks
      cases rest with
      | nil => exact .singleton word
      | cons second others =>
          obtain ⟨last, goesOn, -⟩ := Option.bind_eq_some_iff.mp later
          exact .cons_cons (clashes_eq_false steps goesOn) (inductionHypothesis later)

/-! ## Lists -/

/-- Parts with commas between them lead to where the last part leads. -/
theorem walk_listed {good : Point → Prop} {parts : List (List Word)}
    (goesOn : ∀ last, good last → last.step .comma = some point)
    (each : ∀ part ∈ parts, ∃ last, point.walk part = some last ∧ good last)
    (nonempty : parts ≠ []) : ∃ last, point.walk (listed parts) = some last ∧ good last := by
  induction parts with
  | nil => exact absurd rfl nonempty
  | cons part rest inductionHypothesis =>
      cases rest with
      | nil => exact each part (by simp)
      | cons second others =>
          obtain ⟨middle, walks, isGood⟩ := each part (by simp)
          obtain ⟨last, later, lastGood⟩ :=
            inductionHypothesis (fun other inside => each other (by simp [inside])) (by simp)
          refine ⟨last, ?_, lastGood⟩
          rw [listed, walk_append, walks, Option.bind_some, walk_cons]
          simp only [Word.fixed, goesOn middle isGood]
          exact later

private theorem walk_listedNames {names : List String} (takesName : point.step .name = some next)
    (goesOn : next.step .comma = some point) (nonempty : names ≠ []) :
    point.walk (listedNames names) = some next := by
  have each : ∀ part ∈ names.map fun name => [Word.name name],
      ∃ last, point.walk part = some last ∧ last = next := by
    intro part inside
    obtain ⟨name, -, rfl⟩ := List.mem_map.mp inside
    exact ⟨next, by simp [walk, Word.name, takesName], rfl⟩
  obtain ⟨last, walks, rfl⟩ := walk_listed (by rintro last rfl; exact goesOn) each
    (by simpa using nonempty)
  exact walks

/-- A list in parentheses. Its first point differs from the later ones in that the list
may end there. -/
theorem walk_parenthesized (next : Point) {first finish : Point} {parts : List (List Word)}
    (closes : first.step .closeParen = some finish) (noEnd : next.step .closeParen = none)
    (same : ∀ terminal ≠ .closeParen, first.step terminal = next.step terminal)
    (each : ∀ part ∈ parts, ∃ last, next.walk part = some last ∧
      last.step .comma = some next ∧ last.step .closeParen = some finish) :
    first.walk (listed parts ++ [.fixed .closeParen]) = some finish := by
  by_cases empty : parts = []
  · subst empty
    rw [listed, List.nil_append, walk_cons]
    simp only [Word.fixed, closes]
    rfl
  · obtain ⟨last, walks, -, lastCloses⟩ : ∃ last, next.walk (listed parts) = some last ∧
        last.step .comma = some next ∧ last.step .closeParen = some finish :=
      walk_listed (fun last good => good.1) each empty
    have fromFirst : first.walk (listed parts) = some last := by
      cases whole : listed parts with
      | nil =>
          rw [whole] at walks
          cases walks
          rw [noEnd] at lastCloses
          cases lastCloses
      | cons word rest =>
          rw [whole, walk_cons] at walks
          have notClosing : word.terminal ≠ .closeParen := by
            intro closing
            rw [closing, noEnd] at walks
            cases walks
          rw [walk_cons, same word.terminal notClosing, walks]
    rw [walk_append, fromFirst, Option.bind_some, walk_cons]
    simp only [Word.fixed, lastCloses]
    rfl

/-! ## Declarations -/

/-- A point at which a declaration is complete and another may start. -/
def betweenDeclarations : Point → Bool
  | .declaration => true
  | .afterTypeName => true
  | .afterSupertype => true
  | .afterGeneric => true
  | _ => false

private theorem step_between (between : point.betweenDeclarations = true)
    (opens : terminal.opensDeclaration = true) : point.step terminal = open? terminal := by
  cases point <;> cases between <;> cases terminal <;> cases opens <;> rfl

private theorem mayEnd_of_between (between : point.betweenDeclarations = true) :
    point.mayEnd = true := by
  cases point <;> cases between <;> rfl

private theorem walk_type (between : point.betweenDeclarations = true) (decl : TypeDecl) :
    ∃ last, point.walk decl.words = some last ∧ last.betweenDeclarations = true := by
  have opens : point.step .typeWord = some .typeName := step_between between rfl
  rw [TypeDecl.words, walk_cons]
  simp only [Word.fixed, opens]
  split
  · exact ⟨.afterTypeName, rfl, rfl⟩
  · rename_i supertypes nonempty
    exact ⟨.afterSupertype, walk_listedNames rfl rfl nonempty, rfl⟩

private theorem walk_param {decl : ParamDecl} (spellable : decl.isSpellable = true) :
    ∃ last, Point.param.walk decl.words = some last ∧
      last.step .comma = some .param ∧ last.step .closeParen = some .afterGeneric := by
  obtain ⟨kind, name, position⟩ := decl
  rw [ParamDecl.isSpellable, Bool.and_eq_true] at spellable
  cases kind with
  | plain =>
      obtain ⟨own, rfl⟩ := Option.isSome_iff_exists.mp spellable.2
      exact ⟨.afterPlain, rfl, rfl, rfl⟩
  | fallback value =>
      obtain ⟨own, rfl⟩ := Option.isSome_iff_exists.mp ((Bool.and_eq_true _ _).mp spellable.2).1
      refine ⟨.afterParam, ?_, rfl, rfl⟩
      show Point.fallback.walk [.literal value] = some .afterParam
      rw [walk_cons, step, if_pos (Word.isLiteral_literal value)]
      rfl
  | star =>
      cases name with
      | none => exact ⟨.afterStar, rfl, rfl, rfl⟩
      | some own => exact ⟨.afterParam, rfl, rfl, rfl⟩
  | doubleStar =>
      obtain ⟨own, rfl⟩ := Option.isSome_iff_exists.mp spellable.2
      exact ⟨.afterParam, rfl, rfl, rfl⟩

private theorem walk_precedence {precedence : Option (List String)}
    (nonempty : ∀ names ∈ precedence, names ≠ []) :
    ∃ last, Point.afterGeneric.walk (precedenceWords precedence) = some last ∧
      last.betweenDeclarations = true := by
  cases precedence with
  | none => exact ⟨.afterGeneric, rfl, rfl⟩
  | some names =>
      have walks : Point.precedenceName.walk (listedNames names) = some .afterPrecedence :=
        walk_listedNames rfl rfl (nonempty names rfl)
      refine ⟨.declaration, ?_, rfl⟩
      show Point.precedenceName.walk (listedNames names ++ [.fixed .closeParen]) =
        some .declaration
      rw [walk_append, walks]
      rfl

private theorem walk_generic (between : point.betweenDeclarations = true) {decl : GenericDecl}
    (spellable : decl.isSpellable = true) :
    ∃ last, point.walk decl.words = some last ∧ last.betweenDeclarations = true := by
  have opens : point.step .genericWord = some .genericName := step_between between rfl
  simp only [GenericDecl.isSpellable, Bool.and_eq_true, List.all_eq_true] at spellable
  obtain ⟨⟨-, params⟩, precedence⟩ := spellable
  have walks : Point.firstParam.walk (listed (decl.params.map ParamDecl.words) ++
      [.fixed .closeParen]) = some .afterGeneric := by
    refine walk_parenthesized .param rfl rfl ?_ ?_
    · intro terminal notClosing
      simp [step, only, notClosing]
    · intro part inside
      obtain ⟨param, isParam, rfl⟩ := List.mem_map.mp inside
      exact walk_param (params param isParam)
  have nonempty : ∀ names ∈ decl.precedence, names ≠ [] := by
    intro names isNames
    rw [Option.mem_def.mp isNames] at precedence
    simp at precedence
    exact precedence.1
  obtain ⟨last, later, lastBetween⟩ := walk_precedence nonempty
  refine ⟨last, ?_, lastBetween⟩
  rw [GenericDecl.words, walk_cons]
  simp only [Word.fixed, opens]
  show Point.firstParam.walk (listed (decl.params.map ParamDecl.words) ++
    .fixed .closeParen :: precedenceWords decl.precedence) = some last
  rw [List.append_cons, walk_append, walks]
  exact later

private theorem walk_spec (decl : SpecDecl) : Point.spec.walk decl.words = some .afterSpec := by
  unfold SpecDecl.words
  split
  · rfl
  · rfl
  · rename_i value isExactly
    simp [walk, step, spec?, Word.isLiteral_literal]

private theorem walk_method (between : point.betweenDeclarations = true) (decl : MethodDecl) :
    point.walk decl.words = some .declaration := by
  have opens : point.step .methodWord = some .methodName := step_between between rfl
  rw [MethodDecl.words, walk_cons]
  simp only [Word.fixed, opens]
  show Point.firstSpec.walk (listed (decl.specs.map SpecDecl.words) ++ [.fixed .closeParen]) =
    some .declaration
  refine walk_parenthesized .spec rfl rfl ?_ ?_
  · intro terminal notClosing
    simp [step, only, notClosing]
  · intro part inside
    obtain ⟨spec, -, rfl⟩ := List.mem_map.mp inside
    exact ⟨.afterSpec, walk_spec spec, rfl, rfl⟩

/-- **A declaration leads from one point between declarations to another.** -/
theorem walk_item (between : point.betweenDeclarations = true) {item : Item}
    (spellable : item.isSpellable = true) :
    ∃ last, point.walk item.words = some last ∧ last.betweenDeclarations = true := by
  cases item with
  | type decl => exact walk_type between decl
  | generic decl => exact walk_generic between spellable
  | method decl => exact ⟨.declaration, walk_method between decl, rfl⟩

private theorem walk_items (between : point.betweenDeclarations = true) {items : List Item}
    (spellable : ∀ item ∈ items, item.isSpellable = true) :
    ∃ last, point.walk (items.flatMap Item.words) = some last ∧
      last.betweenDeclarations = true := by
  induction items generalizing point with
  | nil => exact ⟨point, rfl, between⟩
  | cons item rest inductionHypothesis =>
      obtain ⟨middle, walks, middleBetween⟩ := walk_item between (spellable item (by simp))
      obtain ⟨last, later, lastBetween⟩ := inductionHypothesis middleBetween
        fun other inside => spellable other (by simp [inside])
      refine ⟨last, ?_, lastBetween⟩
      rw [List.flatMap_cons, walk_append, walks]
      exact later

private theorem walk_arg (decl : ArgDecl) : Point.arg.walk decl.words = some .afterArg := by
  unfold ArgDecl.words
  split
  · rfl
  · rfl
  · rename_i value isLiteral
    simp [walk, step, arg?, Word.isLiteral_literal]

/-- A call site leads to its end. -/
private theorem walk_call (decl : CallDecl) : Point.callName.walk decl.words = some .callEnd := by
  show Point.firstArg.walk (listed (decl.args.map ArgDecl.words) ++ [.fixed .closeParen]) =
    some .callEnd
  refine walk_parenthesized .arg rfl rfl ?_ ?_
  · intro terminal notClosing
    simp [step, only, notClosing]
  · intro part inside
    obtain ⟨arg, -, rfl⟩ := List.mem_map.mp inside
    exact ⟨.afterArg, walk_arg arg, rfl, rfl⟩

end Point

/-! ## Words of the vocabulary -/

section Spelled

variable {vocabulary : Vocabulary}

def AllSpelled (vocabulary : Vocabulary) (words : List Word) : Prop :=
  ∀ word ∈ words, word.Spelled vocabulary

namespace AllSpelled

theorem nil : AllSpelled vocabulary [] := by
  intro word inside
  cases inside

theorem cons {word : Word} {rest : List Word} (spelled : word.Spelled vocabulary)
    (others : AllSpelled vocabulary rest) : AllSpelled vocabulary (word :: rest) :=
  List.forall_mem_cons.mpr ⟨spelled, others⟩

theorem append {first second : List Word} (spelled : AllSpelled vocabulary first)
    (others : AllSpelled vocabulary second) : AllSpelled vocabulary (first ++ second) :=
  List.forall_mem_append.mpr ⟨spelled, others⟩

theorem listed (hasComma : vocabulary.HasMark .comma) {α : Type} {words : α → List Word}
    {parts : List α} (each : ∀ part ∈ parts, AllSpelled vocabulary (words part)) :
    AllSpelled vocabulary (listed (parts.map words)) :=
  forall_mem_listed (Word.Spelled vocabulary) (.mark hasComma) each

end AllSpelled

private theorem spelled_name {text : String} (isName : isNameOf vocabulary text = true) :
    (Word.name text).Spelled vocabulary := by
  rw [isNameOf, Bool.and_eq_true, Option.isNone_iff_eq_none] at isName
  exact .lettered isName.1 (by rw [isName.2]; rfl) rfl

private theorem spelled_listedNames (hasComma : vocabulary.HasMark .comma) {names : List String}
    (areNames : ∀ name ∈ names, isNameOf vocabulary name = true) :
    AllSpelled vocabulary (listedNames names) :=
  .listed hasComma fun name inside => .cons (spelled_name (areNames name inside)) .nil

/-- The words of truth values and nil are words of the vocabulary. -/
def Vocabulary.HasLiterals (vocabulary : Vocabulary) : Prop :=
  ∀ terminal ∈ [Terminal.trueWord, .falseWord, .nilWord],
    (vocabulary.words.lookup terminal.spelling).getD .name = terminal

private theorem program_hasLiterals : Vocabulary.program.HasLiterals := by
  unfold Vocabulary.HasLiterals
  decide

private theorem call_hasLiterals : Vocabulary.call.HasLiterals := by
  unfold Vocabulary.HasLiterals
  decide

private theorem spelled_literal (hasLiterals : vocabulary.HasLiterals) (value : Value) :
    (Word.literal value).Spelled vocabulary := by
  unfold Word.literal
  split
  · exact .lettered rfl (hasLiterals .trueWord (by simp)) rfl
  · exact .lettered rfl (hasLiterals .falseWord (by simp)) rfl
  · exact .number _
  · exact .text _
  · exact .lettered rfl (hasLiterals .nilWord (by simp)) rfl

private theorem spelled_names {name : Option String}
    (areNames : name.all (isNameOf vocabulary) = true) :
    AllSpelled vocabulary (name.toList.map Word.name) := by
  cases name with
  | none => exact .nil
  | some own => exact .cons (spelled_name areNames) .nil

/-- A mark of a program that nothing goes on with. -/
theorem spelled_programMark {terminal : Terminal}
    (isMark : terminal ∈ [.doubleStar, .colon, .comma, .equal, .openParen, .closeParen,
      .underscore]) : (Word.fixed terminal).Spelled .program :=
  .mark (program_hasMark isMark)

theorem TypeDecl.spelled {decl : TypeDecl} (spellable : decl.isSpellable = true) :
    AllSpelled .program decl.words := by
  rw [isSpellable, Bool.and_eq_true, List.all_eq_true] at spellable
  refine .cons (.lettered rfl rfl rfl) (.cons (spelled_name spellable.1) ?_)
  split
  · exact .nil
  · exact .cons (spelled_programMark (by decide))
      (spelled_listedNames (program_hasMark (by decide)) spellable.2)

theorem ParamDecl.spelled {decl : ParamDecl} (spellable : decl.isSpellable = true) :
    AllSpelled .program decl.words := by
  rw [isSpellable, Bool.and_eq_true] at spellable
  have named := spelled_names spellable.1
  unfold words
  cases decl.kind with
  | plain => exact named
  | fallback value =>
      exact named.append (.cons (spelled_programMark (by decide))
        (.cons (spelled_literal program_hasLiterals value) .nil))
  | star => exact .cons (.mark program_hasStar) named
  | doubleStar => exact .cons (spelled_programMark (by decide)) named

private theorem spelled_precedenceWords {precedence : Option (List String)}
    (areNames : ∀ names ∈ precedence, ∀ name ∈ names, isNameOf .program name = true) :
    AllSpelled .program (precedenceWords precedence) := by
  cases precedence with
  | none => exact .nil
  | some names =>
      exact .cons (.lettered rfl rfl rfl) (.cons (spelled_programMark (by decide))
        ((spelled_listedNames (program_hasMark (by decide)) (areNames names rfl)).append
          (.cons (spelled_programMark (by decide)) .nil)))

theorem GenericDecl.spelled {decl : GenericDecl} (spellable : decl.isSpellable = true) :
    AllSpelled .program decl.words := by
  simp only [isSpellable, Bool.and_eq_true, List.all_eq_true, Option.all_eq_true] at spellable
  obtain ⟨⟨isName, params⟩, precedence⟩ := spellable
  have listed : AllSpelled .program (listed (decl.params.map ParamDecl.words)) :=
    .listed (program_hasMark (by decide)) fun param inside =>
      ParamDecl.spelled (params param inside)
  have ordered : AllSpelled .program (precedenceWords decl.precedence) :=
    spelled_precedenceWords fun names isNames => (precedence names isNames).2
  exact .cons (.lettered rfl rfl rfl) (.cons (spelled_name isName)
    (.cons (spelled_programMark (by decide))
      (listed.append (.cons (spelled_programMark (by decide)) ordered))))

theorem SpecDecl.spelled {decl : SpecDecl} (spellable : decl.isSpellable = true) :
    AllSpelled .program decl.words := by
  obtain ⟨kind, position⟩ := decl
  cases kind with
  | any => exact .cons (spelled_programMark (by decide)) .nil
  | ofType name => exact .cons (spelled_name spellable) .nil
  | exactly value => exact .cons (spelled_literal program_hasLiterals value) .nil

theorem MethodDecl.spelled {decl : MethodDecl} (spellable : decl.isSpellable = true) :
    AllSpelled .program decl.words := by
  rw [isSpellable, Bool.and_eq_true, List.all_eq_true] at spellable
  have listed : AllSpelled .program (listed (decl.specs.map SpecDecl.words)) :=
    .listed (program_hasMark (by decide))
      fun spec inside => SpecDecl.spelled (spellable.2 spec inside)
  exact .cons (.lettered rfl rfl rfl) (.cons (spelled_name spellable.1)
    (.cons (spelled_programMark (by decide))
      (listed.append (.cons (spelled_programMark (by decide)) .nil))))

theorem Item.spelled {item : Item} (spellable : item.isSpellable = true) :
    AllSpelled .program item.words := by
  cases item with
  | type decl => exact TypeDecl.spelled spellable
  | generic decl => exact GenericDecl.spelled spellable
  | method decl => exact MethodDecl.spelled spellable

theorem ArgDecl.spelled {decl : ArgDecl} (spellable : decl.isSpellable = true) :
    AllSpelled .call decl.words := by
  obtain ⟨kind, position⟩ := decl
  cases kind with
  | top => exact .cons (.mark (call_hasMark (by decide))) .nil
  | ofType name => exact .cons (spelled_name spellable) .nil
  | literal value => exact .cons (spelled_literal call_hasLiterals value) .nil

theorem CallDecl.spelled {decl : CallDecl} (spellable : decl.isSpellable = true) :
    AllSpelled .call decl.words := by
  rw [isSpellable, Bool.and_eq_true, List.all_eq_true] at spellable
  have listed : AllSpelled .call (listed (decl.args.map ArgDecl.words)) :=
    .listed (call_hasMark (by decide)) fun arg inside => ArgDecl.spelled (spellable.2 arg inside)
  exact .cons (spelled_name spellable.1) (.cons (.mark (call_hasMark (by decide)))
    (listed.append (.cons (.mark (call_hasMark (by decide))) .nil)))

end Spelled

/-! ## Accepted texts -/

/-- A laid out text is accepted when the grammar leads its words to an end. -/
theorem tokens_print {vocabulary : Vocabulary} {layout : Layout} {words : List Word}
    {start last : Point} (spelled : AllSpelled vocabulary words)
    (walks : start.walk words = some last) (ends : last.mayEnd = true)
    (separates : layout.separates 0 words = true) :
    tokens vocabulary start (layout.print words).toList =
      .ok (tokensAt (layout.place words) 0 words) := by
  have cut := scan_print spelled (clears_of_fits spelled (Point.fits_of_walk walks) separates)
  rw [tokens, cut]
  simp only [Point.run_of_walk walks, ends, if_true]

theorem tokens_items {layout : Layout} {items : List Item}
    (spellable : ∀ item ∈ items, item.isSpellable = true)
    (separates : layout.separates 0 (items.flatMap Item.words) = true) :
    tokens .program .declaration (layout.print (items.flatMap Item.words)).toList =
      .ok (tokensAt (layout.place (items.flatMap Item.words)) 0 (items.flatMap Item.words)) := by
  have spelled : AllSpelled .program (items.flatMap Item.words) := by
    intro word inside
    obtain ⟨item, isItem, ofItem⟩ := List.mem_flatMap.mp inside
    exact Item.spelled (spellable item isItem) word ofItem
  have start : Point.declaration.betweenDeclarations = true := rfl
  obtain ⟨last, walks, between⟩ := Point.walk_items start spellable
  exact tokens_print spelled walks (Point.mayEnd_of_between between) separates

theorem tokens_call {layout : Layout} {decl : CallDecl} (spellable : decl.isSpellable = true)
    (separates : layout.separates 0 decl.words = true) :
    tokens .call .callName (layout.print decl.words).toList =
      .ok (tokensAt (layout.place decl.words) 0 decl.words) :=
  tokens_print (CallDecl.spelled spellable) (Point.walk_call decl) rfl separates

end StaticDispatch.Declaration
