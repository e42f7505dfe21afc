import Mathlib.Data.List.Chain
import StaticDispatch.Proofs.Declaration.Spelling

/-!
Contract: words laid out with blanks and comments between them.

A layout says what stands before each word and behind the last one. Words that are
written in letters need something between them. Cutting a laid out text gives back its
words, each with the line and the column at which it was written.

Owns: gaps, layouts, the text of laid out words, and cutting it.
Does not own: which words may follow each other.
-/

namespace StaticDispatch.Declaration

/-! ## Places in a text -/

/-- The place behind a text: its line ends are counted, and what follows the last. -/
def Position.behind (text : List Char) : Position where
  line := 1 + text.count '\n'
  column := 1 + (text.reverse.takeWhile (· ≠ '\n')).length

private theorem Position.step_behind (text : List Char) (character : Char) :
    (behind text).step character = behind (text ++ [character]) := by
  unfold step behind
  by_cases lineFeed : character = '\n'
  · subst lineFeed
    simp [List.count_append]
    omega
  · rw [if_neg lineFeed, List.reverse_append, List.reverse_singleton, List.singleton_append,
      List.takeWhile_cons_of_pos (by simpa using lineFeed), List.count_append]
    simp [lineFeed]
    omega

private theorem Position.advance_behind (before text : List Char) :
    (behind before).advance text = behind (before ++ text) := by
  induction text generalizing before with
  | nil => simp [advance]
  | cons character rest inductionHypothesis =>
      have later := inductionHypothesis (before ++ [character])
      rw [← step_behind, List.append_assoc] at later
      exact later

private theorem Position.advance_append (position : Position) (first second : List Char) :
    position.advance (first ++ second) = (position.advance first).advance second :=
  List.foldl_append

/-! ## Layouts -/

/-- A blank, or a comment with the line end behind it. -/
inductive Filler where
  | blank (character : { character : Char // isBlank character = true })
  | comment (text : { text : List Char // '\n' ∉ text })

def Filler.characters : Filler → List Char
  | .blank character => [character.1]
  | .comment text => '#' :: (text.1 ++ ['\n'])

def gapText (gap : List Filler) : List Char :=
  gap.flatMap Filler.characters

structure Layout where
  /-- What stands before a word, by the number of the word. -/
  before : Nat → List Filler
  /-- What stands behind the last word. -/
  behind : List Filler
  /-- A comment that ends the text without a line end. -/
  remark : Option { text : List Char // '\n' ∉ text }

namespace Layout

def ending (layout : Layout) : List Char :=
  gapText layout.behind ++
    match layout.remark with
    | none => []
    | some text => '#' :: text.1

def spell (layout : Layout) : Nat → List Word → List Char
  | _, [] => []
  | number, word :: rest =>
      gapText (layout.before number) ++ word.text.toList ++ spell layout (number + 1) rest

def print (layout : Layout) (words : List Word) : String :=
  String.ofList (layout.spell 0 words ++ layout.ending)

def place (layout : Layout) (words : List Word) (number : Nat) : Position :=
  .behind (layout.spell 0 (words.take number) ++ gapText (layout.before number))

end Layout

def Terminal.isLettered : Terminal → Bool
  | .name => true
  | .falseWord => true
  | .genericWord => true
  | .methodWord => true
  | .nilWord => true
  | .precedenceWord => true
  | .trueWord => true
  | .typeWord => true
  | _ => false

/-- Two words in letters, one behind the other, have something between them. -/
def Layout.separates (layout : Layout) : Nat → List Word → Bool
  | number, first :: second :: rest =>
      !(first.terminal.isLettered && second.terminal.isLettered &&
          (layout.before (number + 1)).isEmpty) &&
        separates layout (number + 1) (second :: rest)
  | _, _ => true

variable {layout : Layout}

private theorem Layout.spell_append (layout : Layout) (number : Nat) (first second : List Word) :
    layout.spell number (first ++ second) =
      layout.spell number first ++ layout.spell (number + first.length) second := by
  induction first generalizing number with
  | nil => rfl
  | cons word rest inductionHypothesis =>
      rw [List.cons_append, spell, spell, inductionHypothesis, List.length_cons,
        List.append_assoc _ (spell layout _ rest), Nat.add_assoc, Nat.add_comm 1]

/-! ## Cutting gaps -/

section Gaps

variable {vocabulary : Vocabulary} {offset : Nat} {position : Position}

theorem takeWhile_stop {α : Type} {rule : α → Bool} {inside rest : List α}
    (holds : ∀ item ∈ inside, rule item = true)
    (stops : ∀ item ∈ rest.head?, rule item = false) :
    (inside ++ rest).takeWhile rule = inside := by
  rw [List.takeWhile_append_of_pos holds]
  cases rest with
  | nil => simp
  | cons item rest => simp [stops item rfl]

/-- A step of cutting that drops what it takes. -/
theorem scanFrom_skipped {character : Char} {taken rest : List Char}
    (skips : lexeme? vocabulary character (taken ++ rest) = some (.skipped, taken.length)) :
    scanFrom vocabulary offset position (character :: (taken ++ rest)) =
      scanFrom vocabulary (offset + (taken.length + 1)) (position.advance (character :: taken))
        rest := by
  rw [scanFrom, skips]
  simp [Lexeme.token?]

private theorem isBlank_cases {character : Char} (blank : isBlank character = true) :
    character = ' ' ∨ character = '\t' ∨ character = '\x0c' ∨ character = '\r' ∨
      character = '\n' := by
  simpa [isBlank, or_assoc] using blank

private theorem lexeme?_blank {character : Char} (blank : isBlank character = true)
    (rest : List Char) :
    lexeme? vocabulary character rest =
      some (.skipped, (rest.takeWhile isBlank).length) := by
  rcases isBlank_cases blank with rfl | rfl | rfl | rfl | rfl <;> rfl

private theorem scanFrom_blanks {character : Char} {run rest : List Char}
    (blank : isBlank character = true) (blanks : ∀ other ∈ run, isBlank other = true)
    (stops : ∀ other ∈ rest.head?, isBlank other = false) :
    scanFrom vocabulary offset position (character :: (run ++ rest)) =
      scanFrom vocabulary (offset + (run.length + 1)) (position.advance (character :: run))
        rest := by
  apply scanFrom_skipped
  rw [lexeme?_blank blank, takeWhile_stop blanks stops]

/-- A run of blanks may be dropped one by one. -/
theorem scanFrom_blank {character : Char} (blank : isBlank character = true)
    (rest : List Char) :
    scanFrom vocabulary offset position (character :: rest) =
      scanFrom vocabulary (offset + 1) (position.step character) rest := by
  obtain ⟨run, others, whole, blanks, stops⟩ : ∃ run others, rest = run ++ others ∧
      (∀ other ∈ run, isBlank other = true) ∧
      ∀ other ∈ others.head?, isBlank other = false := by
    refine ⟨rest.takeWhile isBlank, rest.dropWhile isBlank,
      List.takeWhile_append_dropWhile.symm, List.all_eq_true.mp List.all_takeWhile, ?_⟩
    intro other isHead
    have kept := List.head?_dropWhile_not isBlank rest
    rw [isHead] at kept
    exact kept
  rw [whole, scanFrom_blanks blank blanks stops]
  cases run with
  | nil => rfl
  | cons next run =>
      rw [List.cons_append, scanFrom_blanks (blanks next (by simp))
        (fun other inside => blanks other (by simp [inside])) stops, List.length_cons]
      congr 1
      omega

private theorem lexeme?_comment {text rest : List Char} (oneLine : '\n' ∉ text)
    (stops : ∀ other ∈ rest.head?, other = '\n') :
    lexeme? vocabulary '#' (text ++ rest) = some (.skipped, text.length) := by
  have inside : ∀ other ∈ text, decide (other ≠ '\n') = true := by
    intro other isOther
    rw [decide_eq_true_eq]
    rintro rfl
    exact oneLine isOther
  have line : (text ++ rest).takeWhile (fun other => decide (other ≠ '\n')) = text :=
    takeWhile_stop inside fun other isHead => by simp [stops other isHead]
  show some (Lexeme.skipped, ((text ++ rest).takeWhile fun other => decide (other ≠ '\n')).length) =
    some (.skipped, text.length)
  rw [line]

/-- **What stands between words is dropped.** -/
theorem scanFrom_gap (gap : List Filler) (rest : List Char) :
    scanFrom vocabulary offset position (gapText gap ++ rest) =
      scanFrom vocabulary (offset + (gapText gap).length) (position.advance (gapText gap))
        rest := by
  induction gap generalizing offset position with
  | nil => rfl
  | cons filler gap inductionHypothesis =>
      have split : gapText (filler :: gap) = filler.characters ++ gapText gap := rfl
      rw [split, List.append_assoc, Position.advance_append, List.length_append, ← Nat.add_assoc,
        ← inductionHypothesis]
      cases filler with
      | blank character => exact scanFrom_blank character.2 _
      | comment text =>
          have skips : lexeme? vocabulary '#' (text.1 ++ '\n' :: (gapText gap ++ rest)) =
              some (.skipped, text.1.length) := lexeme?_comment text.2 (by simp)
          have blank : isBlank '\n' = true := rfl
          rw [Filler.characters, List.cons_append, List.append_assoc, List.singleton_append,
            scanFrom_skipped skips, scanFrom_blank blank, List.length_cons, List.length_append,
            List.length_singleton, ← List.cons_append, Position.advance_append]
          congr 1

private theorem scanFrom_ending (layout : Layout) :
    scanFrom vocabulary offset position layout.ending = { tokens := [], stray := none } := by
  rw [Layout.ending, scanFrom_gap]
  cases layout.remark with
  | none => rw [scanFrom]
  | some text =>
      have skips : lexeme? vocabulary '#' (text.1 ++ []) = some (.skipped, text.1.length) :=
        lexeme?_comment text.2 (by simp)
      dsimp only
      rw [← List.append_nil text.1, scanFrom_skipped skips, scanFrom]

end Gaps

/-! ## Cutting words -/

def Terminal.bars (terminal : Terminal) (character : Char) : Bool :=
  if terminal.isLettered then
    isNameCharacter character
  else if terminal = .number then
    isDecimalDigit character
  else
    terminal = .star && character = '*'

/-- A mark of the vocabulary, read as such wherever nothing goes on with it. -/
def Vocabulary.HasMark (vocabulary : Vocabulary) (terminal : Terminal) : Prop :=
  ∃ first others, terminal.spelling.toList = first :: others ∧ terminal.isLettered = false ∧
    ∀ rest, (∀ character ∈ rest.head?, terminal.bars character = false) →
      lexeme? vocabulary first (others ++ rest) = some (.token terminal, others.length)

inductive Word.Spelled (vocabulary : Vocabulary) : Word → Prop where
  | lettered {terminal : Terminal} {text : String} (run : isLettered text = true)
      (known : (vocabulary.words.lookup text).getD .name = terminal)
      (inLetters : terminal.isLettered = true) : Spelled vocabulary ⟨terminal, text⟩
  | mark {terminal : Terminal} (hasMark : vocabulary.HasMark terminal) :
      Spelled vocabulary (.fixed terminal)
  | number (value : Int) : Spelled vocabulary ⟨.number, Number.integerText value⟩
  | text (value : String) : Spelled vocabulary ⟨.text, quote value⟩

theorem program_hasMark {terminal : Terminal}
    (isMark : terminal ∈ [.doubleStar, .colon, .comma, .equal, .openParen, .closeParen,
      .underscore]) : Vocabulary.program.HasMark terminal := by
  simp only [List.mem_cons, List.not_mem_nil, or_false] at isMark
  rcases isMark with rfl | rfl | rfl | rfl | rfl | rfl | rfl <;>
    exact ⟨_, _, rfl, rfl, fun rest _ => rfl⟩

/-- A star is read as such unless another one follows. -/
theorem program_hasStar : Vocabulary.program.HasMark .star := by
  refine ⟨'*', [], rfl, rfl, fun rest clear => ?_⟩
  have single : ['*', '*'].isPrefixOf ('*' :: rest) = false := by
    cases rest with
    | nil => rfl
    | cons next rest =>
        have apart : '*' ≠ next := by
          rintro rfl
          exact absurd (clear '*' rfl) (by decide)
        simp [List.isPrefixOf, apart]
  show (mark? .program ('*' :: rest)).map _ = _
  simp [mark?, Vocabulary.program, single]

theorem call_hasMark {terminal : Terminal}
    (isMark : terminal ∈ [.comma, .openParen, .closeParen, .questionMark]) :
    Vocabulary.call.HasMark terminal := by
  simp only [List.mem_cons, List.not_mem_nil, or_false] at isMark
  rcases isMark with rfl | rfl | rfl | rfl <;> exact ⟨_, _, rfl, rfl, fun rest _ => rfl⟩

section Words

variable {vocabulary : Vocabulary} {others rest : List Char}

theorem isDecimalDigit_of_isLetter {character : Char} (letter : isLetter character = true) :
    isDecimalDigit character = false := by
  simp [isLetter, isDecimalDigit, Char.le_def, UInt32.le_iff_toNat_le] at *
  omega

private theorem lexeme?_lettered {first : Char} (letter : isLetter first = true)
    (inside : ∀ character ∈ others, isNameCharacter character = true)
    (stops : ∀ character ∈ rest.head?, isNameCharacter character = false) :
    lexeme? vocabulary first (others ++ rest) = some (.name, others.length) := by
  have noSign : (first = '+' || first = '-') = false := by
    rw [Bool.eq_false_iff]
    intro sign
    rw [Bool.or_eq_true, decide_eq_true_eq, decide_eq_true_eq] at sign
    rcases sign with rfl | rfl <;> exact absurd letter (by decide)
  simp [lexeme?, isDecimalDigit_of_isLetter letter, noSign, letter, takeWhile_stop inside stops]

private theorem lexeme?_number {value : Int}
    (stops : ∀ character ∈ rest.head?, isDecimalDigit character = false) :
    ∃ first others, (Number.integerText value).toList = first :: others ∧
      lexeme? vocabulary first (others ++ rest) = some (.token .number, others.length) := by
  rw [toList_integerText]
  have digits : ∀ character ∈ Nat.toDigits 10 value.natAbs, isDecimalDigit character = true :=
    fun character inside => isDigit_of_mem_digits inside
  by_cases negative : value < 0
  · refine ⟨'-', Nat.toDigits 10 value.natAbs, by simp [negative], ?_⟩
    have taken := takeWhile_stop digits stops
    have noDigit : isDecimalDigit '-' = false := rfl
    simp [lexeme?, noDigit, taken]
  · obtain ⟨first, others, whole⟩ :=
      List.exists_cons_of_ne_nil (@Nat.toDigits_ne_nil value.natAbs 10)
    rw [whole] at digits ⊢
    refine ⟨first, others, by simp [negative], ?_⟩
    have inside : ∀ character ∈ others, isDecimalDigit character = true :=
      fun character isOther => digits character (by simp [isOther])
    have taken := takeWhile_stop inside stops
    simp [lexeme?, digits first (by simp), taken]

/-- An escaped character does not close a text. -/
private theorem quotedLength_escape_append (character : Char) (rest : List Char) :
    quotedLength false (escape character ++ rest) =
      (quotedLength false rest).map (· + (escape character).length) := by
  rcases escape_cases character with ⟨letter, escaped, noLineFeed, -, -⟩ | ⟨-, escaped⟩ |
    ⟨escaped, noBackslash, noQuote, noLineFeed, -, -⟩
  · rw [escaped]
    simp [quotedLength, noLineFeed, Function.comp_def]
  · rw [escaped]
    simp [quotedLength, Function.comp_def]
  · rw [escaped]
    simp [quotedLength, noLineFeed, noQuote, noBackslash]

private theorem lexeme?_quote (text : String) (rest : List Char) :
    lexeme? vocabulary '"' (text.toList.flatMap escape ++ ['"'] ++ rest) =
      some (.token .text, (text.toList.flatMap escape ++ ['"']).length) := by
  have taken : ∀ characters : List Char, quotedLength false (characters.flatMap escape ++
      '"' :: rest) = some ((characters.flatMap escape).length + 1) := by
    intro characters
    induction characters with
    | nil => rfl
    | cons character others inductionHypothesis =>
        rw [List.flatMap_cons, List.append_assoc, quotedLength_escape_append,
          inductionHypothesis, Option.map_some, List.length_append]
        congr 1
        omega
  show (quotedLength false (text.toList.flatMap escape ++ ['"'] ++ rest)).map
    (Lexeme.token .text, ·) = _
  rw [List.append_assoc, List.singleton_append, taken, List.length_append]
  rfl

variable {word : Word} {offset : Nat} {position : Position}

/-- The rule that takes a word takes all of it and makes its token. -/
theorem Word.Spelled.lexeme (spelled : word.Spelled vocabulary)
    (clear : ∀ character ∈ rest.head?, word.terminal.bars character = false) :
    ∃ first others lexeme, word.text.toList = first :: others ∧
      lexeme? vocabulary first (others ++ rest) = some (lexeme, others.length) ∧
      ∀ position, lexeme.token? vocabulary position word.text = some (word.tokenAt position) := by
  cases spelled with
  | @lettered terminal text run known inLetters =>
      unfold isLettered at run
      split at run
      · cases run
      · rename_i first others whole
        rw [Bool.and_eq_true, List.all_eq_true] at run
        simp only [Terminal.bars, inLetters, if_true] at clear
        refine ⟨first, others, .name, whole, lexeme?_lettered run.1 run.2 clear, fun position => ?_⟩
        simp [Lexeme.token?, known, tokenAt]
  | mark hasMark =>
      obtain ⟨first, others, whole, -, taken⟩ := hasMark
      exact ⟨first, others, _, whole, taken rest clear, fun position => rfl⟩
  | number value =>
      obtain ⟨first, others, whole, taken⟩ := lexeme?_number clear
      exact ⟨first, others, _, whole, taken, fun position => rfl⟩
  | text value =>
      exact ⟨'"', _, _, String.toList_ofList, lexeme?_quote value rest, fun position => rfl⟩

/-- **A word is cut where nothing goes on with it.** -/
theorem scanFrom_word (spelled : word.Spelled vocabulary)
    (clear : ∀ character ∈ rest.head?, word.terminal.bars character = false) :
    scanFrom vocabulary offset position (word.text.toList ++ rest) =
      let later := scanFrom vocabulary (offset + word.text.toList.length)
        (position.advance word.text.toList) rest
      { later with tokens := word.tokenAt position :: later.tokens } := by
  obtain ⟨first, others, lexeme, whole, taken, token⟩ := spelled.lexeme clear
  have text : String.ofList (first :: others) = word.text := by
    rw [← whole, String.ofList_toList]
  rw [whole, List.cons_append, scanFrom, taken]
  simp [text, token]

end Words

/-! ## Cutting a laid out text -/

/-- Two terminals that run into each other without a gap, apart from two in letters. -/
def Terminal.clashes (first second : Terminal) : Bool :=
  first.isLettered && (second = .number || second = .underscore) ||
    first = .number && second = .number ||
    first = .star && (second = .star || second = .doubleStar)

namespace Terminal

variable {terminal : Terminal} {character : Char}

private theorem bars_iff : terminal.bars character = true ↔
    terminal.isLettered = true ∧ isNameCharacter character = true ∨
      terminal = .number ∧ isDecimalDigit character = true ∨
      terminal = .star ∧ character = '*' := by
  cases terminal <;> simp [bars, isLettered]

/-- What marks start with. -/
private theorem head_spelling (inMarks : terminal.isLettered = false)
    (isHead : terminal.spelling.toList.head? = some character) :
    (isNameCharacter character = true → terminal = .underscore) ∧
      isDecimalDigit character = false ∧
      (character = '*' → terminal = .star ∨ terminal = .doubleStar) := by
  cases terminal <;> cases inMarks <;> cases isHead <;> decide

end Terminal

/-- A word in letters starts with a letter. -/
theorem isLetter_of_isLettered {text : String} {character : Char} (run : isLettered text = true)
    (isHead : text.toList.head? = some character) : isLetter character = true := by
  unfold isLettered at run
  split at run
  · cases run
  · rename_i first others whole
    rw [whole] at isHead
    cases isHead
    exact ((Bool.and_eq_true _ _).mp run).1

theorem head_integerText {value : Int} {character : Char}
    (isHead : (Number.integerText value).toList.head? = some character) :
    isDecimalDigit character = true ∨ character = '-' := by
  rw [toList_integerText] at isHead
  by_cases negative : value < 0
  · rw [if_pos negative] at isHead
    cases isHead
    exact Or.inr rfl
  · rw [if_neg negative, List.nil_append] at isHead
    exact Or.inl (isDigit_of_mem_digits (List.mem_of_head? isHead))

/-- What goes on with a terminal does so because both are in letters or they clash. -/
private theorem Word.Spelled.bars_cases {vocabulary : Vocabulary} {word : Word} {first : Terminal}
    {character : Char} (spelled : word.Spelled vocabulary)
    (isHead : word.text.toList.head? = some character) (barred : first.bars character = true) :
    first.isLettered = true ∧ word.terminal.isLettered = true ∨
      first.clashes word.terminal = true := by
  rw [Terminal.bars_iff] at barred
  cases spelled with
  | @lettered terminal text run known inLetters =>
      have letter := isLetter_of_isLettered run isHead
      rcases barred with ⟨isFirst, -⟩ | ⟨-, digit⟩ | ⟨-, rfl⟩
      · exact Or.inl ⟨isFirst, inLetters⟩
      · rw [isDecimalDigit_of_isLetter letter] at digit
        cases digit
      · exact absurd letter (by decide)
  | @mark terminal hasMark =>
      obtain ⟨-, -, -, inMarks, -⟩ := hasMark
      obtain ⟨ifName, noDigit, ifStar⟩ := Terminal.head_spelling inMarks isHead
      refine Or.inr ?_
      rcases barred with ⟨isFirst, isName⟩ | ⟨-, digit⟩ | ⟨rfl, isStar⟩
      · simp [Word.fixed, ifName isName, Terminal.clashes, isFirst]
      · rw [noDigit] at digit
        cases digit
      · rcases ifStar isStar with rfl | rfl <;> rfl
  | number value =>
      refine Or.inr ?_
      rcases barred with ⟨isFirst, -⟩ | ⟨rfl, -⟩ | ⟨-, rfl⟩
      · simp [Terminal.clashes, isFirst]
      · rfl
      · rcases head_integerText isHead with digit | minus
        · exact absurd digit (by decide)
        · exact absurd minus (by decide)
  | text value =>
      obtain rfl : '"' = character := by simpa [quote] using isHead
      rcases barred with ⟨-, isName⟩ | ⟨-, digit⟩ | ⟨-, isStar⟩
      · exact absurd isName (by decide)
      · exact absurd digit (by decide)
      · exact absurd isStar (by decide)

/-- Neither a blank nor the start of a comment goes on with a word. -/
theorem bars_eq_false {character : Char} (start : isBlank character = true ∨ character = '#')
    (terminal : Terminal) : terminal.bars character = false := by
  rw [Bool.eq_false_iff, ne_eq, Terminal.bars_iff]
  rcases start with blank | rfl
  · rcases isBlank_cases blank with rfl | rfl | rfl | rfl | rfl <;> simp +decide
  · simp +decide

private theorem head_gapText {gap : List Filler} {character : Char}
    (isHead : (gapText gap).head? = some character) :
    isBlank character = true ∨ character = '#' := by
  cases gap with
  | nil => cases isHead
  | cons filler gap =>
      cases filler with
      | blank own =>
          cases isHead
          exact Or.inl own.2
      | comment text =>
          cases isHead
          exact Or.inr rfl

private theorem gapText_eq_nil {gap : List Filler} (empty : gapText gap = []) : gap = [] := by
  cases gap with
  | nil => rfl
  | cons filler gap => cases filler <;> cases empty

private theorem head_ending {character : Char} (isHead : layout.ending.head? = some character) :
    isBlank character = true ∨ character = '#' := by
  rw [Layout.ending, List.head?_append, Option.or_eq_some_iff] at isHead
  rcases isHead with inGap | ⟨-, inRemark⟩
  · exact head_gapText inGap
  · split at inRemark
    · cases inRemark
    · cases inRemark
      exact Or.inr rfl

/-- Words that may stand one behind the other where no two in letters meet. -/
def Fits (words : List Word) : Prop :=
  words.IsChain fun first second => first.terminal.clashes second.terminal = false

variable {vocabulary : Vocabulary}

/-- Nothing of what follows a word goes on with it. -/
private theorem clear_of_fits {word : Word} {number : Nat} {rest : List Word}
    (spelled : ∀ other ∈ rest, other.Spelled vocabulary) (fits : Fits (word :: rest))
    (separates : layout.separates number (word :: rest) = true) :
    ∀ character ∈ (layout.spell (number + 1) rest ++ layout.ending).head?,
      word.terminal.bars character = false := by
  intro character isHead
  cases rest with
  | nil => exact bars_eq_false (head_ending isHead) _
  | cons next rest =>
      rw [Layout.spell, List.append_assoc, List.append_assoc, List.head?_append] at isHead
      rcases Option.or_eq_some_iff.mp isHead with inGap | ⟨noGap, inWord⟩
      · exact bars_eq_false (head_gapText inGap) _
      · have noClash : word.terminal.clashes next.terminal = false :=
          (List.isChain_cons_cons.mp fits).1
        have nextSpelled := spelled next (by simp)
        obtain ⟨first, others, -, whole, -⟩ :=
          @Word.Spelled.lexeme vocabulary [] next nextSpelled (by simp)
        rw [whole, List.cons_append, List.head?_cons] at inWord
        rw [Bool.eq_false_iff]
        intro barred
        rcases nextSpelled.bars_cases (by rw [whole]; exact inWord) barred with
          ⟨inLetters, nextInLetters⟩ | clash
        · have empty := gapText_eq_nil (List.head?_eq_none_iff.mp noGap)
          simp [Layout.separates, inLetters, nextInLetters, empty] at separates
        · rw [noClash] at clash
          cases clash

/-- Nothing of what follows a word goes on with it, for all words. -/
def Layout.Clears (layout : Layout) : Nat → List Word → Prop
  | _, [] => True
  | number, word :: rest =>
      (∀ character ∈ (layout.spell (number + 1) rest ++ layout.ending).head?,
          word.terminal.bars character = false) ∧
        layout.Clears (number + 1) rest

theorem clears_of_fits {number : Nat} {words : List Word}
    (spelled : ∀ word ∈ words, word.Spelled vocabulary) (fits : Fits words)
    (separates : layout.separates number words = true) : layout.Clears number words := by
  induction words generalizing number with
  | nil => trivial
  | cons word rest inductionHypothesis =>
      have restSpelled : ∀ other ∈ rest, other.Spelled vocabulary :=
        fun other inside => spelled other (by simp [inside])
      refine ⟨clear_of_fits restSpelled fits separates,
        inductionHypothesis restSpelled fits.tail ?_⟩
      cases rest with
      | nil => rfl
      | cons next rest => exact ((Bool.and_eq_true _ _).mp separates).2

/-- Where something stands before every word, no word goes on with another. -/
theorem clears_of_gaps (gaps : ∀ number, layout.before number ≠ []) (number : Nat)
    (words : List Word) : layout.Clears number words := by
  induction words generalizing number with
  | nil => trivial
  | cons word rest inductionHypothesis =>
      refine ⟨fun character isHead => bars_eq_false ?_ _, inductionHypothesis (number + 1)⟩
      cases rest with
      | nil => exact head_ending isHead
      | cons next rest =>
          rw [Layout.spell, List.append_assoc, List.append_assoc, List.head?_append] at isHead
          rcases Option.or_eq_some_iff.mp isHead with inGap | ⟨noGap, -⟩
          · exact head_gapText inGap
          · exact absurd (gapText_eq_nil (List.head?_eq_none_iff.mp noGap)) (gaps (number + 1))

/-- **Cutting a laid out text gives its words at their places.** The words before are
already cut. -/
theorem scanFrom_spell (offset : Nat) (done : List Word) {words : List Word}
    (spelled : ∀ word ∈ words, word.Spelled vocabulary)
    (clears : layout.Clears done.length words) :
    scanFrom vocabulary offset (.behind (layout.spell 0 done))
        (layout.spell done.length words ++ layout.ending) =
      { tokens := tokensAt (layout.place (done ++ words)) done.length words, stray := none } := by
  induction words generalizing offset done with
  | nil => exact scanFrom_ending layout
  | cons word rest inductionHypothesis =>
      have restSpelled : ∀ other ∈ rest, other.Spelled vocabulary :=
        fun other inside => spelled other (by simp [inside])
      obtain ⟨clear, restClears⟩ := clears
      have start : layout.place (done ++ word :: rest) done.length =
          (Position.behind (layout.spell 0 done)).advance
            (gapText (layout.before done.length)) := by
        rw [Layout.place, List.take_left, Position.advance_behind]
      have next : ((Position.behind (layout.spell 0 done)).advance
          (gapText (layout.before done.length))).advance word.text.toList =
            .behind (layout.spell 0 (done ++ [word])) := by
        rw [Position.advance_behind, Position.advance_behind, Layout.spell_append, Nat.zero_add]
        simp [Layout.spell]
      have later := inductionHypothesis
        (offset + (gapText (layout.before done.length)).length + word.text.toList.length)
        (done ++ [word]) restSpelled (by simpa using restClears)
      rw [List.length_append, List.length_singleton, List.append_assoc, List.singleton_append]
        at later
      rw [Layout.spell, List.append_assoc, List.append_assoc, scanFrom_gap,
        scanFrom_word (spelled word (by simp)) clear, next, later, tokensAt, start]

/-- The tokens of a printed text. -/
theorem scan_print {words : List Word} (spelled : ∀ word ∈ words, word.Spelled vocabulary)
    (clears : layout.Clears 0 words) :
    scan vocabulary (layout.print words).toList =
      { tokens := tokensAt (layout.place words) 0 words, stray := none } := by
  have cut := scanFrom_spell 0 [] spelled clears
  rw [Layout.print, String.toList_ofList]
  exact cut

end StaticDispatch.Declaration
