import Mathlib.Computability.RegularExpressions
import StaticDispatch.Declaration.Grammar

/-!
Contract: the grammar of both languages by its rules, and what the points make of it.

The rules do not refer back to themselves, so each is a regular expression over terminals.
What may follow at a point, up to the end of the text, is again put together from rules.
Sorted by the first terminal these languages form right-linear equations, and the steps of
the points read these equations off: a terminal has a step exactly if some sentence goes on
with it, and a text may end exactly where nothing has to follow. No point is a dead end.

Owns: the rules, the words that may follow at a point, and prefixes of sentences.
Does not own: texts and their faults.
-/

namespace StaticDispatch.Declaration

open RegularExpression (matches'_mul matches'_add matches'_star matches'_char)

/-! ## The rules -/

def Terminal.one (terminal : Terminal) : RegularExpression Terminal :=
  .char terminal

namespace Rule

open Terminal

variable (item : RegularExpression Terminal)

def maybe : RegularExpression Terminal :=
  1 + item

/-- The items behind the first of a list, each with its comma. -/
def further : RegularExpression Terminal :=
  (comma.one * item).star

def listed : RegularExpression Terminal :=
  item * further item

def literal : RegularExpression Terminal :=
  number.one + text.one + trueWord.one + falseWord.one + nilWord.one

def supertypes : RegularExpression Terminal :=
  maybe (colon.one * listed name.one)

def typeDecl : RegularExpression Terminal :=
  typeWord.one * name.one * supertypes

def param : RegularExpression Terminal :=
  name.one + name.one * equal.one * literal + star.one * maybe name.one + doubleStar.one * name.one

def precedence : RegularExpression Terminal :=
  precedenceWord.one * openParen.one * listed name.one * closeParen.one

def genericDecl : RegularExpression Terminal :=
  genericWord.one * name.one * openParen.one * maybe (listed param) * closeParen.one *
    maybe precedence

def spec : RegularExpression Terminal :=
  underscore.one + name.one + literal

def methodDecl : RegularExpression Terminal :=
  methodWord.one * name.one * openParen.one * maybe (listed spec) * closeParen.one

def decl : RegularExpression Terminal :=
  typeDecl + genericDecl + methodDecl

def program : RegularExpression Terminal :=
  decl.star

def callArg : RegularExpression Terminal :=
  questionMark.one + name.one + literal

def call : RegularExpression Terminal :=
  name.one * openParen.one * maybe (listed callArg) * closeParen.one

/-- What stands behind the parameters of a generic function. -/
def paramsEnd : RegularExpression Terminal :=
  closeParen.one * maybe precedence * program

end Rule

def Terminal.alone (terminal : Terminal) : Language Terminal :=
  terminal.one.matches'

/-! ## What is left of a sentence -/

namespace Point

open Terminal Rule

/-- What may follow at a point, up to the end of the text. -/
def rest : Point → RegularExpression Terminal
  | .declaration => program
  | .typeName => name.one * supertypes * program
  | .afterTypeName => supertypes * program
  | .supertype => listed name.one * program
  | .afterSupertype => further name.one * program
  | .genericName => name.one * openParen.one * maybe (listed Rule.param) * paramsEnd
  | .genericOpen => openParen.one * maybe (listed Rule.param) * paramsEnd
  | .firstParam => maybe (listed Rule.param) * paramsEnd
  | .param => listed Rule.param * paramsEnd
  | .afterPlain => maybe (equal.one * literal) * further Rule.param * paramsEnd
  | .fallback => literal * further Rule.param * paramsEnd
  | .afterParam => further Rule.param * paramsEnd
  | .afterStar => maybe name.one * further Rule.param * paramsEnd
  | .otherKeysName => name.one * further Rule.param * paramsEnd
  | .afterGeneric => maybe precedence * program
  | .precedenceOpen => openParen.one * listed name.one * closeParen.one * program
  | .precedenceName => listed name.one * closeParen.one * program
  | .afterPrecedence => further name.one * closeParen.one * program
  | .methodName => name.one * openParen.one * maybe (listed Rule.spec) * closeParen.one * program
  | .methodOpen => openParen.one * maybe (listed Rule.spec) * closeParen.one * program
  | .firstSpec => maybe (listed Rule.spec) * closeParen.one * program
  | .spec => listed Rule.spec * closeParen.one * program
  | .afterSpec => further Rule.spec * closeParen.one * program
  | .callName => call
  | .callOpen => openParen.one * maybe (listed callArg) * closeParen.one
  | .firstArg => maybe (listed callArg) * closeParen.one
  | .arg => listed callArg * closeParen.one
  | .afterArg => further callArg * closeParen.one
  | .callEnd => 1

def words (point : Point) : Language Terminal :=
  point.rest.matches'

private theorem matches'_further (item : RegularExpression Terminal) :
    (further item).matches' = 1 + comma.alone * (item.matches' * (further item).matches') := by
  rw [← mul_assoc]
  exact (one_add_mul_kstar).symm

private theorem matches'_program : program.matches' = 1 + decl.matches' * program.matches' :=
  (one_add_mul_kstar).symm

private theorem matches'_param : Rule.param.matches' =
    name.alone * (maybe (equal.one * literal)).matches' +
      star.alone * (maybe name.one).matches' + doubleStar.alone * name.one.matches' := by
  simp [Rule.param, maybe, alone, mul_add, mul_assoc]

def opened : Language Terminal :=
  typeWord.alone * words .typeName + genericWord.alone * words .genericName +
    methodWord.alone * words .methodName

def paramOpened : Language Terminal :=
  name.alone * words .afterPlain + star.alone * words .afterStar +
    doubleStar.alone * words .otherKeysName

def paramEnded : Language Terminal :=
  closeParen.alone * words .afterGeneric + comma.alone * words .param

/-- The words of a point by their first terminal: the grammar as right-linear equations. -/
def unfolded : Point → Language Terminal
  | .declaration => 1 + opened
  | .typeName => name.alone * words .afterTypeName
  | .afterTypeName => 1 + opened + colon.alone * words .supertype
  | .supertype => name.alone * words .afterSupertype
  | .afterSupertype => 1 + opened + comma.alone * words .supertype
  | .genericName => name.alone * words .genericOpen
  | .genericOpen => openParen.alone * words .firstParam
  | .firstParam => closeParen.alone * words .afterGeneric + paramOpened
  | .param => paramOpened
  | .afterPlain => paramEnded + equal.alone * words .fallback
  | .fallback => literal.matches' * words .afterParam
  | .afterParam => paramEnded
  | .afterStar => paramEnded + name.alone * words .afterParam
  | .otherKeysName => name.alone * words .afterParam
  | .afterGeneric => 1 + opened + precedenceWord.alone * words .precedenceOpen
  | .precedenceOpen => openParen.alone * words .precedenceName
  | .precedenceName => name.alone * words .afterPrecedence
  | .afterPrecedence => closeParen.alone * words .declaration + comma.alone * words .precedenceName
  | .methodName => name.alone * words .methodOpen
  | .methodOpen => openParen.alone * words .firstSpec
  | .firstSpec => closeParen.alone * words .declaration + Rule.spec.matches' * words .afterSpec
  | .spec => Rule.spec.matches' * words .afterSpec
  | .afterSpec => closeParen.alone * words .declaration + comma.alone * words .spec
  | .callName => name.alone * words .callOpen
  | .callOpen => openParen.alone * words .firstArg
  | .firstArg => closeParen.alone * words .callEnd + callArg.matches' * words .afterArg
  | .arg => callArg.matches' * words .afterArg
  | .afterArg => closeParen.alone * words .callEnd + comma.alone * words .arg
  | .callEnd => 1

private theorem words_declaration : words .declaration = 1 + opened := by
  rw [words, rest, matches'_program]
  simp [opened, words, rest, alone, decl, typeDecl, genericDecl, methodDecl, paramsEnd, add_mul,
    mul_assoc]

private theorem words_param : words .param = paramOpened := by
  rw [words, rest, listed, matches'_mul, matches'_mul, matches'_param]
  simp [paramOpened, words, rest, alone, mul_assoc, add_mul]

private theorem words_afterParam : words .afterParam = paramEnded := by
  rw [words, rest, matches'_mul, matches'_further]
  simp [paramEnded, words, rest, alone, listed, paramsEnd, mul_assoc, add_mul]

/-- **The points solve the equations.** -/
theorem words_eq_unfolded (point : Point) : point.words = point.unfolded := by
  cases point with
  | declaration => exact words_declaration
  | afterTypeName =>
      rw [unfolded, ← words_declaration]
      simp [words, rest, alone, supertypes, maybe, mul_assoc, add_mul]
  | afterSupertype =>
      rw [unfolded, ← words_declaration, words, rest, matches'_mul, matches'_further]
      simp [words, rest, alone, listed, mul_assoc, add_mul]
  | firstParam =>
      rw [unfolded, ← words_param]
      simp [words, rest, alone, maybe, paramsEnd, mul_assoc, add_mul]
  | param => exact words_param
  | afterPlain =>
      rw [unfolded, ← words_afterParam]
      simp [words, rest, alone, maybe, mul_assoc, add_mul]
  | afterParam => exact words_afterParam
  | afterStar =>
      rw [unfolded, ← words_afterParam]
      simp [words, rest, alone, maybe, mul_assoc, add_mul]
  | afterGeneric =>
      rw [unfolded, ← words_declaration]
      simp [words, rest, alone, maybe, precedence, mul_assoc, add_mul]
  | afterPrecedence =>
      rw [unfolded, words, rest, matches'_mul, matches'_mul, matches'_further]
      simp [words, rest, alone, listed, mul_assoc, add_mul]
  | afterSpec =>
      rw [unfolded, words, rest, matches'_mul, matches'_mul, matches'_further]
      simp [words, rest, alone, listed, mul_assoc, add_mul]
  | afterArg =>
      rw [unfolded, words, rest, matches'_mul, matches'_further]
      simp [words, rest, alone, listed, mul_assoc, add_mul]
  | firstSpec => simp [unfolded, words, rest, alone, maybe, listed, mul_assoc, add_mul]
  | firstArg => simp [unfolded, words, rest, alone, maybe, listed, mul_assoc, add_mul]
  | callName => simp [unfolded, words, rest, alone, call, mul_assoc]
  | _ => simp [unfolded, words, rest, alone, listed, mul_assoc]

/-! ## One terminal -/

variable {terminal wanted : Terminal} {word : List Terminal} {later : Language Terminal}
  {point next : Point}

@[simp]
theorem cons_mem_alone_mul :
    terminal :: word ∈ wanted.alone * later ↔ terminal = wanted ∧ word ∈ later := by
  rw [alone, one, matches'_char, Language.mem_mul]
  constructor
  · rintro ⟨_, rfl, others, isLater, same⟩
    cases same
    exact ⟨rfl, isLater⟩
  · rintro ⟨rfl, isLater⟩
    exact ⟨[terminal], rfl, word, isLater, rfl⟩

@[simp]
theorem nil_notMem_alone_mul : [] ∉ wanted.alone * later := by
  rw [alone, one, matches'_char, Language.mem_mul]
  rintro ⟨_, rfl, others, -, same⟩
  cases same

private theorem matches'_literal : literal.matches' =
    number.alone + text.alone + trueWord.alone + falseWord.alone + nilWord.alone := rfl

private theorem matches'_spec :
    Rule.spec.matches' = underscore.alone + name.alone + literal.matches' := rfl

private theorem matches'_callArg :
    callArg.matches' = questionMark.alone + name.alone + literal.matches' := rfl

/-- A text may end at a point exactly if nothing has to follow. -/
private theorem nil_mem_words_iff : [] ∈ point.words ↔ point.mayEnd = true := by
  rw [words_eq_unfolded]
  cases point <;> simp [unfolded, opened, paramOpened, paramEnded, matches'_literal,
    matches'_spec, matches'_callArg, add_mul, Language.mem_add, mayEnd]

section Steps

def Leads (step : Option Point) (word : List Terminal) : Prop :=
  ∃ next, step = some next ∧ word ∈ next.words

private theorem leads_some : Leads (some next) word ↔ word ∈ next.words := by
  simp [Leads]

private theorem leads_none : ¬ Leads none word := by
  simp [Leads]

private theorem leads_ite {condition : Prop} [Decidable condition] :
    Leads (if condition then some next else none) word ↔ condition ∧ word ∈ next.words := by
  by_cases holds : condition
  · simp [holds, leads_some]
  · simp [holds, leads_none]

private theorem leads_only : Leads (only wanted next terminal) word ↔
    terminal :: word ∈ wanted.alone * next.words := by
  rw [only, leads_ite, cons_mem_alone_mul]

/-- The first of two ways is taken where both are open, so the second must not be. -/
theorem leads_only_or {other : Option Point} (apart : terminal = wanted → other = none) :
    Leads ((only wanted next terminal).or other) word ↔
      terminal :: word ∈ wanted.alone * next.words ∨ Leads other word := by
  rw [cons_mem_alone_mul, only]
  by_cases isWanted : terminal = wanted
  · simp [isWanted, apart isWanted, leads_some, leads_none]
  · simp [isWanted]

private theorem leads_open : Leads (open? terminal) word ↔ terminal :: word ∈ opened := by
  simp only [opened, Language.mem_add, cons_mem_alone_mul]
  cases terminal <;> simp [open?, leads_some, leads_none]

private theorem leads_param : Leads (param? terminal) word ↔ terminal :: word ∈ paramOpened := by
  simp only [paramOpened, Language.mem_add, cons_mem_alone_mul]
  cases terminal <;> simp [param?, leads_some, leads_none]

private theorem leads_paramEnd :
    Leads (paramEnd? terminal) word ↔ terminal :: word ∈ paramEnded := by
  simp only [paramEnded, Language.mem_add, cons_mem_alone_mul]
  cases terminal <;> simp [paramEnd?, leads_some, leads_none]

private theorem cons_mem_literal_mul :
    terminal :: word ∈ literal.matches' * later ↔ terminal.isLiteral = true ∧ word ∈ later := by
  simp only [matches'_literal, add_mul, Language.mem_add, cons_mem_alone_mul]
  cases terminal <;> simp [isLiteral]

private theorem leads_spec : Leads (spec? terminal) word ↔
    terminal :: word ∈ Rule.spec.matches' * words .afterSpec := by
  rw [spec?, leads_ite, matches'_spec, add_mul, add_mul]
  simp only [Language.mem_add, cons_mem_alone_mul, cons_mem_literal_mul, Bool.or_eq_true,
    decide_eq_true_eq, or_and_right]

private theorem leads_arg : Leads (arg? terminal) word ↔
    terminal :: word ∈ callArg.matches' * words .afterArg := by
  rw [arg?, leads_ite, matches'_callArg, add_mul, add_mul]
  simp only [Language.mem_add, cons_mem_alone_mul, cons_mem_literal_mul, Bool.or_eq_true,
    decide_eq_true_eq, or_and_right]

/-- **A terminal may come next exactly if it has a step**, and the step leads to where the
rest of the word is read. -/
theorem cons_mem_words_iff :
    terminal :: word ∈ point.words ↔ Leads (point.step terminal) word := by
  rw [words_eq_unfolded]
  cases point with
  | declaration => simp [unfolded, step, leads_open, Language.mem_add]
  | afterTypeName =>
      rw [unfolded, step, leads_only_or (by rintro rfl; rfl), leads_open]
      simp [Language.mem_add, or_comm]
  | afterSupertype =>
      rw [unfolded, step, leads_only_or (by rintro rfl; rfl), leads_open]
      simp [Language.mem_add, or_comm]
  | afterGeneric =>
      rw [unfolded, step, leads_only_or (by rintro rfl; rfl), leads_open]
      simp [Language.mem_add, or_comm]
  | firstParam =>
      rw [unfolded, step, leads_only_or (by rintro rfl; rfl), leads_param, Language.mem_add]
  | param => exact leads_param.symm
  | afterPlain =>
      rw [unfolded, step, leads_only_or (by rintro rfl; rfl), leads_paramEnd, Language.mem_add,
        or_comm]
  | afterStar =>
      rw [unfolded, step, leads_only_or (by rintro rfl; rfl), leads_paramEnd, Language.mem_add,
        or_comm]
  | fallback => rw [unfolded, step, leads_ite, cons_mem_literal_mul]
  | afterParam => exact leads_paramEnd.symm
  | afterPrecedence | afterSpec | afterArg =>
      rw [unfolded, step, leads_only_or (by rintro rfl; rfl), leads_only, Language.mem_add, or_comm]
  | firstSpec =>
      rw [unfolded, step, leads_only_or (by rintro rfl; rfl), leads_spec, Language.mem_add]
  | spec => exact leads_spec.symm
  | firstArg =>
      rw [unfolded, step, leads_only_or (by rintro rfl; rfl), leads_arg, Language.mem_add]
  | arg => exact leads_arg.symm
  | callEnd => simpa [unfolded, step] using leads_none
  | _ => exact leads_only.symm

end Steps

/-! ## Whole words -/

def follow (point : Point) (terminals : List Terminal) : Option Point :=
  terminals.foldlM step point

variable {first second : List Terminal}

theorem follow_cons (point : Point) (terminal : Terminal) (others : List Terminal) :
    point.follow (terminal :: others) = (point.step terminal).bind (·.follow others) := rfl

theorem follow_append (point : Point) (first second : List Terminal) :
    point.follow (first ++ second) = (point.follow first).bind (·.follow second) :=
  List.foldlM_append

/-- **A word is read up to any place in it by following the steps.** -/
theorem append_mem_words_iff :
    first ++ second ∈ point.words ↔ Leads (point.follow first) second := by
  induction first generalizing point with
  | nil => exact leads_some.symm
  | cons terminal others inductionHypothesis =>
      rw [List.cons_append, cons_mem_words_iff, follow_cons]
      cases steps : point.step terminal with
      | none => exact iff_of_false leads_none leads_none
      | some next => rw [leads_some, inductionHypothesis, Option.bind_some]

theorem mem_words_iff :
    word ∈ point.words ↔ ∃ last, point.follow word = some last ∧ last.mayEnd = true := by
  rw [← List.append_nil word, append_mem_words_iff, List.append_nil]
  simp only [Leads, nil_mem_words_iff]

/-- A shortest way from a point to where a text may end. -/
def completion : Point → List Terminal
  | .declaration | .afterTypeName | .afterSupertype | .afterGeneric | .callEnd => []
  | .typeName | .supertype => [name]
  | .genericName | .methodName | .callName => [name, openParen, closeParen]
  | .genericOpen | .methodOpen | .callOpen => [openParen, closeParen]
  | .param | .otherKeysName | .precedenceName | .spec | .arg => [name, closeParen]
  | .fallback => [nilWord, closeParen]
  | .precedenceOpen => [openParen, name, closeParen]
  | _ => [closeParen]

/-- **No point is a dead end.** -/
theorem completion_mem_words (point : Point) : point.completion ∈ point.words := by
  rw [mem_words_iff]
  cases point <;> exact ⟨_, rfl, rfl⟩

/-- **Some terminals start a word exactly if they can be followed.** -/
theorem exists_append_mem_words_iff :
    (∃ more, first ++ more ∈ point.words) ↔ (point.follow first).isSome = true := by
  simp only [append_mem_words_iff]
  cases point.follow first with
  | none => simpa using fun _ => leads_none
  | some next => simpa [leads_some] using ⟨_, next.completion_mem_words⟩

end Point

end StaticDispatch.Declaration
