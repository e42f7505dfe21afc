import StaticDispatch.Text.Quoted

/-!
Contract: the words of declarations and call sites.

Owns: terminals, places in a text, tokens, and how messages show them.
Does not own: cutting a text into tokens, and their order.
-/

namespace StaticDispatch.Declaration

inductive Terminal where
  | colon
  | comma
  | equal
  | text
  | falseWord
  | genericWord
  | openParen
  | methodWord
  | name
  | nilWord
  | precedenceWord
  | questionMark
  | closeParen
  | number
  | star
  | trueWord
  | typeWord
  | underscore
  | doubleStar
deriving DecidableEq, Repr

namespace Terminal

/-- All terminals, in the order of their labels. -/
def all : List Terminal :=
  [.colon, .comma, .equal, .text, .falseWord, .genericWord, .openParen, .methodWord, .name,
    .nilWord, .precedenceWord, .questionMark, .closeParen, .number, .star, .trueWord, .typeWord,
    .underscore, .doubleStar]

def label : Terminal → String
  | .colon => "COLON"
  | .comma => "COMMA"
  | .equal => "EQUAL"
  | .text => "ESCAPED_STRING"
  | .falseWord => "FALSE"
  | .genericWord => "GENERIC"
  | .openParen => "LPAR"
  | .methodWord => "METHOD"
  | .name => "NAME"
  | .nilWord => "NIL"
  | .precedenceWord => "PRECEDENCE"
  | .questionMark => "QMARK"
  | .closeParen => "RPAR"
  | .number => "SIGNED_INT"
  | .star => "STAR"
  | .trueWord => "TRUE"
  | .typeWord => "TYPE"
  | .underscore => "UNDERSCORE"
  | .doubleStar => "__ANON_0"

def isLiteral : Terminal → Bool
  | .number => true
  | .text => true
  | .trueWord => true
  | .falseWord => true
  | .nilWord => true
  | _ => false

def opensDeclaration : Terminal → Bool
  | .typeWord => true
  | .genericWord => true
  | .methodWord => true
  | _ => false

end Terminal

/-- A place in a text; lines and columns count from one. -/
structure Position where
  line : Nat
  column : Nat
deriving DecidableEq, Repr

namespace Position

def start : Position := ⟨1, 1⟩

def step (position : Position) (character : Char) : Position :=
  if character = '\n' then
    ⟨position.line + 1, 1⟩
  else
    { position with column := position.column + 1 }

def advance (position : Position) (characters : List Char) : Position :=
  characters.foldl step position

end Position

structure Token where
  terminal : Terminal
  text : String
  position : Position
deriving DecidableEq, Repr

def tokenText (label text : String) : String :=
  s!"Token({Text.quoted label}, {Text.quoted text})"

def Token.display (token : Token) : String :=
  tokenText token.terminal.label token.text

end StaticDispatch.Declaration
