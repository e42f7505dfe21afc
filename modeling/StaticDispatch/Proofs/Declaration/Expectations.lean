import StaticDispatch.Declaration.SyntaxFault
import StaticDispatch.Proofs.Declaration.Layout
import StaticDispatch.Proofs.Declaration.Sentences

/-!
Contract: where a fault of the grammar is reported, and what is expected there.

A text is accepted exactly if its terminals are a sentence of the grammar. Otherwise the
fault stands at the first terminal that no sentence has there, or at the end if every
terminal may stand where it does but the sentence is not over. What the message expects
are the terminals with which a sentence goes on, and the end if the terminals before the
fault are a sentence. This is said of every sequence of terminals, because each is the
sequence of some text.

Owns: both languages as sets of sentences, and the faults of their texts.
Does not own: characters that fit no rule.
-/

namespace StaticDispatch.Declaration

/-! ## Texts for all sequences -/

def Vocabulary.terminals (vocabulary : Vocabulary) : List Terminal :=
  [.name, .number, .text] ++ vocabulary.words.map (·.2) ++ vocabulary.marks.map (·.2)

def Terminal.sample : Terminal → Word
  | .name => .name "a"
  | .number => ⟨.number, Number.integerText 0⟩
  | .text => ⟨.text, quote ""⟩
  | terminal => .fixed terminal

private theorem Terminal.terminal_sample (terminal : Terminal) :
    terminal.sample.terminal = terminal := by
  cases terminal <;> rfl

private theorem isBlank_space : isBlank ' ' = true := rfl

def Layout.blanks : Layout where
  before := fun _ => [.blank ⟨' ', isBlank_space⟩]
  behind := []
  remark := none

private theorem spelled_sample_program {terminal : Terminal}
    (known : terminal ∈ Vocabulary.program.terminals) :
    terminal.sample.Spelled .program := by
  cases terminal with
  | name => exact .lettered rfl rfl rfl
  | number => exact .number 0
  | text => exact .text ""
  | star => exact .mark program_hasStar
  | colon | comma | equal | openParen | closeParen | underscore | doubleStar =>
      exact .mark (program_hasMark (by decide))
  | questionMark => exact absurd known (by decide)
  | _ => exact .lettered rfl rfl rfl

private theorem spelled_sample_call {terminal : Terminal}
    (known : terminal ∈ Vocabulary.call.terminals) :
    terminal.sample.Spelled .call := by
  cases terminal with
  | name | trueWord | falseWord | nilWord => exact .lettered rfl rfl rfl
  | number => exact .number 0
  | text => exact .text ""
  | comma | openParen | closeParen | questionMark => exact .mark (call_hasMark (by decide))
  | _ => exact absurd known (by decide)

private theorem map_terminal_tokensAt (place : Nat → Position) (number : Nat) (words : List Word) :
    (tokensAt place number words).map (·.terminal) = words.map (·.terminal) := by
  induction words generalizing number with
  | nil => rfl
  | cons word rest inductionHypothesis =>
      rw [tokensAt, List.map_cons, List.map_cons, inductionHypothesis]
      rfl

/-! ## Two languages -/

inductive Dialect where
  | program
  | call
deriving DecidableEq, Repr

namespace Dialect

def vocabulary : Dialect → Vocabulary
  | .program => .program
  | .call => .call

def start : Dialect → Point
  | .program => .declaration
  | .call => .callName

def sentences : Dialect → RegularExpression Terminal
  | .program => Rule.program
  | .call => Rule.call

/-- The text has these terminals and nothing that fits no rule. -/
def Cuts (dialect : Dialect) (text : List Char) (word : List Terminal) : Prop :=
  (scan dialect.vocabulary text).stray = none ∧
    (scan dialect.vocabulary text).tokens.map (·.terminal) = word

/-- Some sentence goes on with a terminal, or is over where none is given. -/
def MayFollow (dialect : Dialect) (before : List Terminal) : Option Terminal → Prop
  | none => before ∈ dialect.sentences.matches'
  | some terminal => ∃ more, before ++ terminal :: more ∈ dialect.sentences.matches'

/-- The first place of a sequence, its end included, where no sentence goes on as the
sequence does. -/
structure IsFirstImpossible (dialect : Dialect) (word : List Terminal) (index : Nat) : Prop where
  within : index ≤ word.length
  impossible : ¬ dialect.MayFollow (word.take index) word[index]?
  first : ∀ earlier < index, dialect.MayFollow (word.take earlier) word[earlier]?

variable {dialect : Dialect} {word before : List Terminal} {point : Point}

private theorem words_start (dialect : Dialect) :
    dialect.start.words = dialect.sentences.matches' := by
  cases dialect <;> rfl

/-- **Every sequence of terminals is that of some text.** -/
theorem exists_cuts (known : ∀ terminal ∈ word, terminal ∈ dialect.vocabulary.terminals) :
    ∃ text, dialect.Cuts text word := by
  have spelled : ∀ own ∈ word.map Terminal.sample, own.Spelled dialect.vocabulary := by
    intro own inside
    obtain ⟨terminal, isTerminal, rfl⟩ := List.mem_map.mp inside
    cases dialect with
    | program => exact spelled_sample_program (known terminal isTerminal)
    | call => exact spelled_sample_call (known terminal isTerminal)
  have gaps : ∀ number, Layout.blanks.before number ≠ [] := by simp [Layout.blanks]
  have cut := scan_print spelled (clears_of_gaps gaps 0 _)
  refine ⟨_, by rw [cut], ?_⟩
  rw [cut, map_terminal_tokensAt, List.map_map]
  exact (List.map_congr_left fun terminal _ => terminal.terminal_sample).trans (List.map_id word)

/-! ## What may follow -/

/-- What may follow some terminals is what the point behind them has a step for. -/
theorem mayFollow_iff (followed : dialect.start.follow before = some point)
    (symbol : Option Terminal) : dialect.MayFollow before symbol ↔
      symbol.elim point.mayEnd (fun terminal => (point.step terminal).isSome) = true := by
  cases symbol with
  | none =>
      rw [MayFollow, ← words_start, Point.mem_words_iff, followed]
      simp
  | some terminal =>
      have viable : (∃ more, before ++ [terminal] ++ more ∈ dialect.start.words) ↔
          (dialect.start.follow (before ++ [terminal])).isSome = true :=
        Point.exists_append_mem_words_iff
      rw [Point.follow_append, followed, Option.bind_some, words_start] at viable
      simpa [MayFollow, Point.follow] using viable

/-- What may be followed as a whole may be followed at each place. -/
private theorem mayFollow_of_follow {index : Nat}
    (followed : dialect.start.follow (word.take index) = some point)
    (within : index ≤ word.length) :
    ∀ earlier < index, dialect.MayFollow (word.take earlier) word[earlier]? := by
  intro earlier isEarlier
  have inWord : earlier < word.length := by omega
  obtain ⟨tail, isTail⟩ : word.take (earlier + 1) <+: word.take index :=
    List.take_prefix_take_left (by omega)
  obtain ⟨more, isSentence⟩ := Point.exists_append_mem_words_iff.mpr
    (Option.isSome_iff_exists.mpr ⟨point, followed⟩)
  rw [List.getElem?_eq_getElem inWord, MayFollow, ← words_start]
  refine ⟨tail ++ more, ?_⟩
  rwa [← isTail, ← List.take_append_getElem inWord, List.append_assoc, List.append_assoc,
    List.singleton_append] at isSentence

/-- Where the steps come to a halt, no sentence goes on. -/
theorem isFirstImpossible_of_follow {index : Nat}
    (followed : dialect.start.follow (word.take index) = some point) (within : index ≤ word.length)
    (halts : word[index]?.elim point.mayEnd
      (fun terminal => (point.step terminal).isSome) = false) :
    dialect.IsFirstImpossible word index where
  within := within
  impossible := by
    rw [mayFollow_iff followed, halts]
    decide
  first := mayFollow_of_follow followed within

/-- A sentence has no impossible place. -/
private theorem not_isFirstImpossible (isSentence : word ∈ dialect.sentences.matches')
    (index : Nat) :
    ¬ dialect.IsFirstImpossible word index := by
  intro isFirst
  apply isFirst.impossible
  by_cases inWord : index < word.length
  · rw [List.getElem?_eq_getElem inWord, MayFollow]
    refine ⟨word.drop (index + 1), ?_⟩
    rwa [← List.drop_eq_getElem_cons inWord, List.take_append_drop]
  · rwa [List.getElem?_eq_none (by omega), List.take_of_length_le (by omega)]

end Dialect

/-! ## Faults -/

namespace Point

/-- The tokens are followed to the end, or up to one without a step. -/
private theorem run_cases (point : Point) (tokens : List Token) :
    (∃ last, point.run tokens = .ok last ∧
        point.follow (tokens.map (·.terminal)) = some last) ∨
      ∃ index token reached, tokens[index]? = some token ∧
        point.run tokens = .error (token, reached) ∧
        point.follow ((tokens.map (·.terminal)).take index) = some reached ∧
        reached.step token.terminal = none := by
  induction tokens generalizing point with
  | nil => exact .inl ⟨point, rfl, rfl⟩
  | cons token rest inductionHypothesis =>
      cases steps : point.step token.terminal with
      | none => exact .inr ⟨0, token, point, rfl, by rw [run, steps], rfl, steps⟩
      | some next =>
          have runs : point.run (token :: rest) = next.run rest := by rw [run, steps]
          rcases inductionHypothesis next with ⟨last, ran, followed⟩ |
            ⟨index, own, reached, isOwn, ran, followed, noStep⟩
          · refine .inl ⟨last, runs.trans ran, ?_⟩
            rw [List.map_cons, follow_cons, steps]
            exact followed
          · refine .inr ⟨index + 1, own, reached, isOwn, runs.trans ran, ?_, noStep⟩
            rw [List.map_cons, List.take_succ_cons, follow_cons, steps]
            exact followed

end Point

def symbolLabel (symbol : Option Terminal) : String :=
  symbol.elim "$END" Terminal.label

def faultAt (tokens : List Token) (index : Nat) (point : Point) : SyntaxFault :=
  (tokens[index]?).elim
    (.cutShort ((tokens.getLast?.map (·.position)).getD .start) point) (.misplaced · point)

def shownAt (tokens : List Token) (index : Nat) : String :=
  (tokens[index]?).elim (tokenText "$END" "") Token.display

private theorem message_faultAt (tokens : List Token) (index : Nat) (point : Point) :
    (faultAt tokens index point).message =
      SyntaxFault.tokenMessage (shownAt tokens index) (faultAt tokens index point).position
        point := by
  unfold faultAt shownAt
  cases tokens[index]? <;> rfl

private theorem mem_expectedLabels_iff {point : Point} {label : String} :
    label ∈ SyntaxFault.expectedLabels point ↔ ∃ symbol, symbolLabel symbol = label ∧
      symbol.elim point.mayEnd (fun terminal => (point.step terminal).isSome) = true := by
  have listed : ∀ terminal : Terminal, terminal ∈ Terminal.all := by
    intro terminal
    cases terminal <;> decide
  rw [SyntaxFault.expectedLabels, List.mem_append, List.mem_map, Option.exists]
  apply or_congr
  · cases point.mayEnd <;> simp [symbolLabel, eq_comm]
  · simp [Point.expected, listed, symbolLabel, and_comm]

section Reports

variable {vocabulary : Vocabulary} {start point last : Point} {text : List Char} {token : Token}

private theorem tokens_of_run_error
    (ran : start.run (scan vocabulary text).tokens = .error (token, point)) :
    tokens vocabulary start text = .error (.misplaced token point) := by
  simp [tokens, ran]

private theorem tokens_of_run_ok (noStray : (scan vocabulary text).stray = none)
    (ran : start.run (scan vocabulary text).tokens = .ok last) :
    tokens vocabulary start text = if last.mayEnd then .ok (scan vocabulary text).tokens else
      .error (faultAt (scan vocabulary text).tokens (scan vocabulary text).tokens.length last) := by
  simp [tokens, ran, noStray, faultAt]

end Reports

namespace Dialect

/-- **A text is accepted exactly if its terminals are a sentence, and a fault stands at the
first terminal, or at the end, where no sentence goes on as the text does.** The message
expects exactly the terminals with which some sentence goes on there, and the end if the
terminals before are a sentence. Every sequence of terminals is that of some text. -/
theorem tokens_faulty_at_first_impossible (dialect : Dialect) (word : List Terminal)
    (known : ∀ terminal ∈ word, terminal ∈ dialect.vocabulary.terminals) :
    (∃ text, dialect.Cuts text word) ∧
      ∀ text, dialect.Cuts text word →
        (word ∈ dialect.sentences.matches' →
          tokens dialect.vocabulary dialect.start text =
            .ok (scan dialect.vocabulary text).tokens) ∧
        (word ∉ dialect.sentences.matches' →
          ∃ index point, dialect.IsFirstImpossible word index ∧
            tokens dialect.vocabulary dialect.start text =
              .error (faultAt (scan dialect.vocabulary text).tokens index point) ∧
            (faultAt (scan dialect.vocabulary text).tokens index point).message =
              SyntaxFault.tokenMessage (shownAt (scan dialect.vocabulary text).tokens index)
                (faultAt (scan dialect.vocabulary text).tokens index point).position point ∧
            ∀ label, label ∈ SyntaxFault.expectedLabels point ↔
              ∃ symbol, symbolLabel symbol = label ∧
                dialect.MayFollow (word.take index) symbol) := by
  refine ⟨exists_cuts known, ?_⟩
  rintro text ⟨noStray, rfl⟩
  set taken := (scan dialect.vocabulary text).tokens
  have expects : ∀ {index point},
      dialect.start.follow (List.take index (taken.map (·.terminal))) = some point →
      ∀ label, label ∈ SyntaxFault.expectedLabels point ↔ ∃ symbol, symbolLabel symbol = label ∧
        dialect.MayFollow (List.take index (taken.map (·.terminal))) symbol := by
    intro index point followed label
    simp only [mem_expectedLabels_iff, mayFollow_iff followed]
  rcases Point.run_cases dialect.start taken with
    ⟨last, ran, followed⟩ | ⟨index, token, reached, isToken, ran, followed, noStep⟩
  · rw [tokens_of_run_ok noStray ran, ← words_start, Point.mem_words_iff, followed]
    by_cases ends : last.mayEnd = true
    · exact ⟨fun _ => if_pos ends, fun notSentence => absurd ⟨last, rfl, ends⟩ notSentence⟩
    · refine ⟨by rintro ⟨_, ⟨⟩, ends'⟩; exact absurd ends' ends, fun _ => ?_⟩
      have whole : dialect.start.follow
          (List.take taken.length (taken.map (·.terminal))) = some last := by
        rwa [List.take_of_length_le (by simp)]
      refine ⟨taken.length, last, isFirstImpossible_of_follow whole (by simp) ?_, if_neg ends,
        message_faultAt .., expects whole⟩
      simpa using ends
  · have isFirst : dialect.IsFirstImpossible (taken.map (·.terminal)) index :=
      isFirstImpossible_of_follow followed
        (by simpa using (List.getElem?_eq_some_iff.mp isToken).1.le) (by simp [isToken, noStep])
    refine ⟨fun isSentence => absurd isFirst (not_isFirstImpossible isSentence index), fun _ =>
      ⟨index, reached, isFirst, ?_, message_faultAt .., expects followed⟩⟩
    rw [tokens_of_run_error ran, faultAt, isToken]
    rfl

/-- A second colon in a list of supertypes. -/
def secondColon : List Terminal :=
  [.typeWord, .name, .colon, .name, .comma, .name, .colon, .name]

theorem secondColon_faulty :
    Dialect.program.Cuts "type A : B, C : D".toList secondColon ∧
      secondColon ∉ Dialect.program.sentences.matches' ∧
      ∃ index point, Dialect.program.IsFirstImpossible secondColon index ∧
        tokens .program .declaration "type A : B, C : D".toList =
          .error (faultAt (scan .program "type A : B, C : D".toList).tokens index point) ∧
        ∀ label, label ∈ SyntaxFault.expectedLabels point ↔ ∃ symbol, symbolLabel symbol = label ∧
          Dialect.program.MayFollow (secondColon.take index) symbol := by
  have cuts : Dialect.program.Cuts "type A : B, C : D".toList secondColon := by
    constructor <;> with_unfolding_all rfl
  have notSentence : secondColon ∉ Dialect.program.sentences.matches' := by
    rw [← words_start, Point.mem_words_iff]
    rintro ⟨_, ⟨⟩, -⟩
  obtain ⟨-, reports⟩ := tokens_faulty_at_first_impossible .program secondColon (by decide)
  obtain ⟨index, point, isFirst, faulty, -, expects⟩ := (reports _ cuts).2 notSentence
  exact ⟨cuts, notSentence, index, point, isFirst, faulty, expects⟩

end Dialect

end StaticDispatch.Declaration
