import StaticDispatch.Declaration.Token

/-!
Contract: a text cut into tokens.

At each place the first rule that fits takes as much as it can: a signed number,
a name, a quoted text, blanks, a comment, punctuation. Blanks and comments are
dropped. A name that is a word of the vocabulary is that word. A character that
no rule takes ends the tokens.

Owns: vocabularies, the rules, and the tokens of a text with the character that
ended them.
Does not own: which tokens may follow each other.
-/

namespace StaticDispatch.Declaration

structure Vocabulary where
  words : List (String × Terminal)
  /-- A mark of two characters stands before a mark that starts it. -/
  marks : List (List Char × Terminal)
  /-- What messages list when a character fits no rule. -/
  listing : List String

namespace Vocabulary

def program : Vocabulary where
  words := [
    ("precedence", .precedenceWord), ("generic", .genericWord), ("method", .methodWord),
    ("false", .falseWord), ("true", .trueWord), ("type", .typeWord), ("nil", .nilWord)]
  marks := [
    (['*', '*'], .doubleStar), ([':'], .colon), ([','], .comma), (['='], .equal),
    (['('], .openParen), ([')'], .closeParen), (['*'], .star), (['_'], .underscore)]
  listing := [
    "COLON", "COMMA", "EQUAL", "ESCAPED_STRING", "LPAR", "NAME", "RPAR", "SIGNED_INT", "STAR",
    "UNDERSCORE", "\"**\""]

def call : Vocabulary where
  words := [("false", .falseWord), ("true", .trueWord), ("nil", .nilWord)]
  marks := [([','], .comma), (['('], .openParen), ([')'], .closeParen), (['?'], .questionMark)]
  listing := ["COMMA", "ESCAPED_STRING", "LPAR", "NAME", "QMARK", "RPAR", "SIGNED_INT"]

end Vocabulary

def isLetter (character : Char) : Bool :=
  ('a' ≤ character && character ≤ 'z') || ('A' ≤ character && character ≤ 'Z')

def isDecimalDigit (character : Char) : Bool :=
  '0' ≤ character && character ≤ '9'

def isNameCharacter (character : Char) : Bool :=
  isLetter character || isDecimalDigit character || character = '_'

def isBlank (character : Char) : Bool :=
  character = ' ' || character = '\t' || character = '\x0c' || character = '\r' ||
    character = '\n'

/-- How many characters a text takes behind its opening quote, the closing one
included. A quote closes unless an odd run of backslashes stands before it, and
a text ends on its line. -/
def quotedLength : Bool → List Char → Option Nat
  | _, [] => none
  | escaped, character :: rest =>
      if character = '\n' then
        none
      else if character = '"' && !escaped then
        some 1
      else
        (quotedLength (character = '\\' && !escaped) rest).map (· + 1)

inductive Lexeme where
  | skipped
  | name
  | token (terminal : Terminal)
deriving DecidableEq, Repr

def mark? (vocabulary : Vocabulary) (text : List Char) : Option (List Char × Terminal) :=
  vocabulary.marks.find? fun (mark, _) => mark.isPrefixOf text

/-- The rule that fits at a character, and how many of the following ones it
takes. -/
def lexeme? (vocabulary : Vocabulary) (character : Char) (rest : List Char) :
    Option (Lexeme × Nat) :=
  let digits := (rest.takeWhile isDecimalDigit).length
  if isDecimalDigit character then
    some (.token .number, digits)
  else if (character = '+' || character = '-') && digits ≠ 0 then
    some (.token .number, digits)
  else if isLetter character then
    some (.name, (rest.takeWhile isNameCharacter).length)
  else if isBlank character then
    some (.skipped, (rest.takeWhile isBlank).length)
  else if character = '#' then
    some (.skipped, (rest.takeWhile (· ≠ '\n')).length)
  else if character = '"' then
    (quotedLength false rest).map (.token .text, ·)
  else
    (mark? vocabulary (character :: rest)).map fun (mark, terminal) =>
      (.token terminal, mark.length - 1)

/-- The token that a lexeme makes of a text, if it makes one. -/
def Lexeme.token? (vocabulary : Vocabulary) (position : Position) (text : String) :
    Lexeme → Option Token
  | .skipped => none
  | .name => some { terminal := (vocabulary.words.lookup text).getD .name, text, position }
  | .token terminal => some { terminal, text, position }

structure Stray where
  character : Char
  /-- How many characters stand before it. -/
  offset : Nat
  position : Position
deriving DecidableEq, Repr

/-- The tokens of a text, and the character that ended them early. -/
structure Scan where
  tokens : List Token
  stray : Option Stray
deriving DecidableEq, Repr

def scanFrom (vocabulary : Vocabulary) (offset : Nat) (position : Position) :
    List Char → Scan
  | [] => { tokens := [], stray := none }
  | character :: rest =>
      match lexeme? vocabulary character rest with
      | none => { tokens := [], stray := some { character, offset, position } }
      | some (lexeme, count) =>
          let taken := character :: rest.take count
          let scan := scanFrom vocabulary (offset + taken.length) (position.advance taken)
            (rest.drop count)
          match lexeme.token? vocabulary position (String.ofList taken) with
          | none => scan
          | some token => { scan with tokens := token :: scan.tokens }
termination_by characters => characters.length
decreasing_by simp only [List.length_drop, List.length_cons]; omega

def scan (vocabulary : Vocabulary) (text : List Char) : Scan :=
  scanFrom vocabulary 0 .start text

end StaticDispatch.Declaration
