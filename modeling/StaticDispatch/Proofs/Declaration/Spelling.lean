import Mathlib.Data.List.Basic
import StaticDispatch.Proofs.Declaration.Tokens

/-!
Contract: declarations and call sites as words.

A word is a token that has no place yet. A declaration is spelled by a list of words,
of which the first gives the declaration its place, and the first word of a parameter,
specializer or argument gives that part its place. Numbers are written in decimal,
texts between quotes with backslash, quote, line ends and the null character escaped.

Owns: words, the spelling of literals and declarations, what can be spelled, and the
places of spelled parts.
Does not own: the blanks and comments between words.
-/

namespace StaticDispatch.Declaration

structure Word where
  terminal : Terminal
  text : String
deriving DecidableEq, Repr

def Terminal.spelling : Terminal → String
  | .colon => ":"
  | .comma => ","
  | .equal => "="
  | .falseWord => "false"
  | .genericWord => "generic"
  | .openParen => "("
  | .methodWord => "method"
  | .nilWord => "nil"
  | .precedenceWord => "precedence"
  | .questionMark => "?"
  | .closeParen => ")"
  | .star => "*"
  | .trueWord => "true"
  | .typeWord => "type"
  | .underscore => "_"
  | .doubleStar => "**"
  | .text => ""
  | .name => ""
  | .number => ""

/-! ## Literals -/

def escape : Char → List Char
  | '\\' => ['\\', '\\']
  | '"' => ['\\', '"']
  | '\n' => ['\\', 'n']
  | '\r' => ['\\', 'r']
  | '\x00' => ['\\', 'x', '0', '0']
  | character => [character]

def quote (text : String) : String :=
  String.ofList ('"' :: (text.toList.flatMap escape ++ ['"']))

namespace Word

def fixed (terminal : Terminal) : Word := ⟨terminal, terminal.spelling⟩

def name (text : String) : Word := ⟨.name, text⟩

def literal : Value → Word
  | .bool true => fixed .trueWord
  | .bool false => fixed .falseWord
  | .int value => ⟨.number, Number.integerText value⟩
  | .str value => ⟨.text, quote value⟩
  | _ => fixed .nilWord

theorem isLiteral_literal (value : Value) : (literal value).terminal.isLiteral = true := by
  unfold literal
  split <;> rfl

def tokenAt (word : Word) (position : Position) : Token :=
  ⟨word.terminal, word.text, position⟩

end Word

/-- A value that has a literal, with a number of digits that is read back. -/
def isLiteralValue : Value → Bool
  | .nil => true
  | .bool _ => true
  | .int value => (Nat.toDigits 10 value.natAbs).length ≤ Number.digitLimit
  | .str _ => true
  | _ => false

/-- A letter with letters, digits and underscores behind it. -/
def isLettered (text : String) : Bool :=
  match text.toList with
  | [] => false
  | first :: rest => isLetter first && rest.all isNameCharacter

/-- A name is no word of the vocabulary. -/
def isNameOf (vocabulary : Vocabulary) (text : String) : Bool :=
  isLettered text && (vocabulary.words.lookup text).isNone

/-! ## Declarations -/

def listed : List (List Word) → List Word
  | [] => []
  | [part] => part
  | part :: next :: rest => part ++ .fixed .comma :: listed (next :: rest)

/-- What holds of a comma and of the words of each part holds of all of a list. -/
theorem forall_mem_listed (holds : Word → Prop) (comma : holds (.fixed .comma)) {α : Type}
    {words : α → List Word} {parts : List α}
    (each : ∀ part ∈ parts, ∀ word ∈ words part, holds word) :
    ∀ word ∈ listed (parts.map words), holds word := by
  induction parts with
  | nil => simp [listed]
  | cons part rest inductionHypothesis =>
      have own := each part (by simp)
      cases rest with
      | nil => exact own
      | cons second others =>
          have later := inductionHypothesis fun other inside => each other (by simp [inside])
          exact List.forall_mem_append.mpr ⟨own, List.forall_mem_cons.mpr ⟨comma, later⟩⟩

def listedNames (names : List String) : List Word :=
  listed (names.map fun name => [.name name])

def TypeDecl.words (decl : TypeDecl) : List Word :=
  .fixed .typeWord :: .name decl.name ::
    match decl.supertypes with
    | [] => []
    | supertypes => .fixed .colon :: listedNames supertypes

def ParamDecl.words (decl : ParamDecl) : List Word :=
  let named := decl.name.toList.map Word.name
  match decl.kind with
  | .plain => named
  | .fallback value => named ++ [.fixed .equal, .literal value]
  | .star => .fixed .star :: named
  | .doubleStar => .fixed .doubleStar :: named

def precedenceWords : Option (List String) → List Word
  | none => []
  | some names =>
      .fixed .precedenceWord :: .fixed .openParen :: (listedNames names ++ [.fixed .closeParen])

def GenericDecl.words (decl : GenericDecl) : List Word :=
  .fixed .genericWord :: .name decl.name :: .fixed .openParen ::
    (listed (decl.params.map ParamDecl.words) ++
      .fixed .closeParen :: precedenceWords decl.precedence)

def SpecDecl.words (decl : SpecDecl) : List Word :=
  match decl.kind with
  | .any => [.fixed .underscore]
  | .ofType name => [.name name]
  | .exactly value => [.literal value]

def MethodDecl.words (decl : MethodDecl) : List Word :=
  .fixed .methodWord :: .name decl.generic :: .fixed .openParen ::
    (listed (decl.specs.map SpecDecl.words) ++ [.fixed .closeParen])

def Item.words : Item → List Word
  | .type decl => decl.words
  | .generic decl => decl.words
  | .method decl => decl.words

def ArgDecl.words (decl : ArgDecl) : List Word :=
  match decl.kind with
  | .top => [.fixed .questionMark]
  | .ofType name => [.name name]
  | .literal value => [.literal value]

def CallDecl.words (decl : CallDecl) : List Word :=
  .name decl.name :: .fixed .openParen ::
    (listed (decl.args.map ArgDecl.words) ++ [.fixed .closeParen])

/-! ## What can be spelled -/

def TypeDecl.isSpellable (decl : TypeDecl) : Bool :=
  isNameOf .program decl.name && decl.supertypes.all (isNameOf .program)

/-- Only a star may go without a name. -/
def ParamDecl.isSpellable (decl : ParamDecl) : Bool :=
  decl.name.all (isNameOf .program) &&
    match decl.kind with
    | .plain => decl.name.isSome
    | .fallback value => decl.name.isSome && isLiteralValue value
    | .star => true
    | .doubleStar => decl.name.isSome

/-- A precedence order has at least one name. -/
def GenericDecl.isSpellable (decl : GenericDecl) : Bool :=
  isNameOf .program decl.name && decl.params.all ParamDecl.isSpellable &&
    decl.precedence.all fun names => !names.isEmpty && names.all (isNameOf .program)

def SpecDecl.isSpellable (decl : SpecDecl) : Bool :=
  match decl.kind with
  | .any => true
  | .ofType name => isNameOf .program name
  | .exactly value => isLiteralValue value

def MethodDecl.isSpellable (decl : MethodDecl) : Bool :=
  isNameOf .program decl.generic && decl.specs.all SpecDecl.isSpellable

def Item.isSpellable : Item → Bool
  | .type decl => decl.isSpellable
  | .generic decl => decl.isSpellable
  | .method decl => decl.isSpellable

def Program.isSpellable (program : Program) : Bool :=
  program.types.all TypeDecl.isSpellable && program.generics.all GenericDecl.isSpellable &&
    program.methods.all MethodDecl.isSpellable

/-- A call site has fewer words of its own than a program, so more names. -/
def ArgDecl.isSpellable (decl : ArgDecl) : Bool :=
  match decl.kind with
  | .top => true
  | .ofType name => isNameOf .call name
  | .literal value => isLiteralValue value

def CallDecl.isSpellable (decl : CallDecl) : Bool :=
  isNameOf .call decl.name && decl.args.all ArgDecl.isSpellable

/-! ## Places -/

/-- The tokens of words from a number on; the place of a token goes by its number. -/
def tokensAt (place : Nat → Position) : Nat → List Word → List Token
  | _, [] => []
  | number, word :: rest => word.tokenAt (place number) :: tokensAt place (number + 1) rest

/-- The parts of a list, each at the place of its first word. The first number is that of
the first word, and commas count. -/
def placedParts {α : Type} (words : α → List Word) (move : α → Position → α)
    (place : Nat → Position) : Nat → List α → List α
  | _, [] => []
  | number, part :: rest =>
      move part (place number) ::
        placedParts words move place (number + (words part).length + 1) rest

def ParamDecl.moved (decl : ParamDecl) (position : Position) : ParamDecl :=
  { decl with position }

def SpecDecl.moved (decl : SpecDecl) (position : Position) : SpecDecl :=
  { decl with position }

def ArgDecl.moved (decl : ArgDecl) (position : Position) : ArgDecl :=
  { decl with position }

/-- A declaration whose first word has the given number. -/
def Item.placed (place : Nat → Position) (number : Nat) : Item → Item
  | .type decl => .type { decl with position := place number }
  | .generic decl =>
      .generic { decl with
        position := place number
        params := placedParts ParamDecl.words ParamDecl.moved place (number + 3) decl.params }
  | .method decl =>
      .method { decl with
        position := place number
        specs := placedParts SpecDecl.words SpecDecl.moved place (number + 3) decl.specs }

def placedItems (place : Nat → Position) : Nat → List Item → List Item
  | _, [] => []
  | number, item :: rest =>
      item.placed place number :: placedItems place (number + item.words.length) rest

def CallDecl.placed (place : Nat → Position) (decl : CallDecl) : CallDecl :=
  { decl with
    position := place 0
    args := placedParts ArgDecl.words ArgDecl.moved place 2 decl.args }

/-! ## Reading literals back -/

/-- An escape is a backslash with a letter, the code of the null character, or the
character itself. -/
theorem escape_cases (character : Char) :
    (∃ letter, escape character = ['\\', letter] ∧ letter ≠ '\n' ∧ letter ≠ '\x00' ∧
        ∀ rest, escape? letter rest = some ([character], 0)) ∨
      (character = '\x00' ∧ escape character = ['\\', 'x', '0', '0']) ∨
      (escape character = [character] ∧ character ≠ '\\' ∧ character ≠ '"' ∧
        character ≠ '\n' ∧ character ≠ '\r' ∧ character ≠ '\x00') := by
  unfold escape
  split
  · exact Or.inl ⟨'\\', rfl, by decide, by decide, fun _ => rfl⟩
  · exact Or.inl ⟨'"', rfl, by decide, by decide, fun _ => rfl⟩
  · exact Or.inl ⟨'n', rfl, by decide, by decide, fun _ => rfl⟩
  · exact Or.inl ⟨'r', rfl, by decide, by decide, fun _ => rfl⟩
  · exact Or.inr (Or.inl ⟨rfl, rfl⟩)
  · exact Or.inr (Or.inr ⟨rfl, by assumption, by assumption, by assumption, by assumption,
      by assumption⟩)

private theorem unescape?_escape_append (character : Char) (rest : List Char) :
    unescape? (escape character ++ rest) = (unescape? rest).map (character :: ·) := by
  rcases escape_cases character with ⟨letter, escaped, -, -, reads⟩ | ⟨rfl, escaped⟩ |
    ⟨escaped, noBackslash, -, -, noReturn, -⟩
  · rw [escaped, List.cons_append, List.singleton_append, unescape?.eq_3, reads]
    rfl
  · have reads : escape? 'x' ('0' :: '0' :: rest) = some (['\x00'], 2) := rfl
    rw [escaped, List.cons_append, List.cons_append, List.cons_append, List.singleton_append,
      unescape?.eq_3, reads]
    rfl
  · rw [escaped, List.singleton_append,
      unescape?.eq_4 _ _ (fun isBackslash => absurd isBackslash noBackslash)
        (fun _ _ isBackslash => absurd isBackslash noBackslash), if_neg noReturn]

/-- **Escapes are undone by reading.** -/
theorem unescape?_escape (text : List Char) : unescape? (text.flatMap escape) = some text := by
  induction text with
  | nil => simp [unescape?]
  | cons character rest inductionHypothesis =>
      rw [List.flatMap_cons, unescape?_escape_append, inductionHypothesis, Option.map_some]

private theorem null_notMem_escape (character : Char) : '\x00' ∉ escape character := by
  rcases escape_cases character with ⟨letter, escaped, -, noNull, -⟩ | ⟨-, escaped⟩ |
    ⟨escaped, -, -, -, -, noNull⟩
  · rw [escaped]
    simp [Ne.symm noNull]
  · rw [escaped]
    decide
  · rw [escaped]
    simp [Ne.symm noNull]

private theorem textValue_quote (text : String) : textValue (quote text) = .ok (.str text) := by
  have noNull : '\x00' ∉ (quote text).toList := by
    simp [quote, null_notMem_escape]
  have content : ((quote text).toList.drop 1).dropLast = text.toList.flatMap escape := by
    simp [quote]
  rw [textValue, if_neg (by simpa using noNull), content, unescape?_escape]
  simp

/-- The digits of a number and the sign before them. -/
theorem toList_integerText (value : Int) :
    (Number.integerText value).toList =
      (if value < 0 then ['-'] else []) ++ Nat.toDigits 10 value.natAbs := by
  rw [Number.integerText, Int.toString_eq_repr, Int.repr_eq_if]
  by_cases negative : value < 0
  · rw [if_neg (by omega), if_pos negative, String.toList_append, Nat.toList_repr,
      show (-value).toNat = value.natAbs by omega]
    rfl
  · rw [if_pos (by omega), if_neg negative, Nat.toList_repr,
      show value.toNat = value.natAbs by omega]
    rfl

theorem isDigit_of_mem_digits {number : Nat} {character : Char}
    (inside : character ∈ Nat.toDigits 10 number) : isDecimalDigit character = true := by
  have digit := Nat.isDigit_of_mem_toDigits (by decide) (by decide) inside
  simpa [Char.isDigit, isDecimalDigit, Char.le_def] using digit

private theorem readInteger_digits {number : Nat} (negative : Bool)
    (small : (Nat.toDigits 10 number).length ≤ Number.digitLimit) :
    Number.readInteger negative (Nat.toDigits 10 number) =
      .ok (if negative then -(number : Int) else number) := by
  have value : Number.digitsValue (Nat.toDigits 10 number) = number :=
    Nat.ofDigitChars_toDigits (by decide) (by decide)
  rw [Number.readInteger, if_neg (by omega), value]

/-- **A number is read back from its decimal text.** -/
theorem numberValue_integerText {value : Int}
    (small : (Nat.toDigits 10 value.natAbs).length ≤ Number.digitLimit) :
    numberValue (Number.integerText value) = .ok (.int value) := by
  rw [numberValue, toList_integerText]
  by_cases negative : value < 0
  · rw [if_pos negative, List.singleton_append]
    simp only [Number.splitSign, readInteger_digits true small, if_true]
    rw [show -((value.natAbs : Nat) : Int) = value by omega]
  · rw [if_neg negative, List.nil_append]
    obtain ⟨first, rest, digits⟩ :=
      List.exists_cons_of_ne_nil (@Nat.toDigits_ne_nil value.natAbs 10)
    have isDigit : isDecimalDigit first = true := by
      apply isDigit_of_mem_digits
      rw [digits]
      exact List.mem_cons_self
    have unsigned : Number.splitSign (Nat.toDigits 10 value.natAbs) =
        (false, Nat.toDigits 10 value.natAbs) := by
      rw [digits, splitSign_of_isDecimalDigit isDigit]
    have size : ((value.natAbs : Nat) : Int) = value := by omega
    simp only [unsigned, readInteger_digits false small, Bool.false_eq_true, if_false, size]

/-- **Literals are read back.** -/
theorem value?_literal {value : Value} (isLiteral : isLiteralValue value = true)
    (position : Position) : ((Word.literal value).tokenAt position).value? = .ok (some value) := by
  cases value with
  | nil => rfl
  | bool value => cases value <;> rfl
  | int value =>
      have read := numberValue_integerText (of_decide_eq_true isLiteral)
      simp [Token.value?, Word.literal, Word.tokenAt, read, Except.map]
  | str value => simp [Token.value?, Word.literal, Word.tokenAt, textValue_quote, Except.map]
  | _ => cases isLiteral

end StaticDispatch.Declaration
