import StaticDispatch.Declaration.Grammar
import StaticDispatch.Declaration.Lexer

/-!
Contract: the first fault of a text, and the tokens of a text without one.

Tokens are checked from left to right, and a character that no rule takes counts
only once the tokens before it have passed.

Owns: syntax faults with their messages, and checking a text.
Does not own: what the accepted tokens mean.
-/

namespace StaticDispatch.Declaration

inductive SyntaxFault where
  | misplaced (token : Token) (point : Point)
  /-- The text ends too early; the place is that of the last token. -/
  | cutShort (position : Position) (point : Point)
  /-- A character fits no rule. Its surroundings on its line and the token before
  it are shown. -/
  | foreign (stray : Stray) (before after : List Char) (previous : Option Token)
      (listing : List String)

namespace SyntaxFault

def position : SyntaxFault → Position
  | .misplaced token _ => token.position
  | .cutShort position _ => position
  | .foreign stray .. => stray.position

/-- How many characters around a stray one are shown on each side. -/
def contextWidth : Nat := 40

def lastLine (text : List Char) : List Char :=
  (text.reverse.takeWhile (· ≠ '\n')).reverse

def firstLine (text : List Char) : List Char :=
  text.takeWhile (· ≠ '\n')

/-- How wide a text is when its tabs go to multiples of eight. The first number
is the column, which a carriage return sets back. -/
def expandedWidth : Nat → List Char → Nat
  | _, [] => 0
  | column, character :: rest =>
      if character = '\t' then
        let width := 8 - column % 8
        width + expandedWidth (column + width) rest
      else if character = '\r' then
        1 + expandedWidth 0 rest
      else
        1 + expandedWidth (column + 1) rest

def listText (labels : List String) : String :=
  "Expected one of: " ++ String.join (labels.map ("\n\t* " ++ ·))

/-- What may come at a point, the end included. -/
def expectedLabels (point : Point) : List String :=
  (if point.mayEnd then ["$END"] else []) ++ point.expected.map Terminal.label

def tokenMessage (shown : String) (position : Position) (point : Point) : String :=
  s!"Unexpected token {shown} at line {position.line}, column {position.column}.\n" ++
    listText (expectedLabels point)

def message : SyntaxFault → String
  | .misplaced token point => tokenMessage token.display token.position point
  | .cutShort position point => tokenMessage (tokenText "$END" "") position point
  | .foreign stray before after previous listing =>
      let place := s!"at line {stray.position.line} col {stray.position.column}"
      let shown := String.ofList (before ++ after)
      let caret := String.ofList (List.replicate (expandedWidth 0 before) ' ' ++ ['^'])
      let history :=
        match previous with
        | none => ""
        | some token => "\n\nPrevious tokens: " ++ token.display
      s!"No terminal matches '{stray.character}' in the current parser context, {place}\n\n" ++
        s!"{shown}\n{caret}\n" ++ listText listing ++ history

end SyntaxFault

def strayFault (vocabulary : Vocabulary) (text : List Char) (tokens : List Token)
    (stray : Stray) : SyntaxFault :=
  let start := stray.offset - SyntaxFault.contextWidth
  let before := (text.drop start).take (stray.offset - start)
  let after := (text.drop stray.offset).take SyntaxFault.contextWidth
  .foreign stray (SyntaxFault.lastLine before) (SyntaxFault.firstLine after) tokens.getLast?
    vocabulary.listing

def tokens (vocabulary : Vocabulary) (start : Point) (text : List Char) :
    Except SyntaxFault (List Token) :=
  let scan := scan vocabulary text
  match start.run scan.tokens with
  | .error (token, point) => .error (.misplaced token point)
  | .ok point =>
      match scan.stray with
      | some stray => .error (strayFault vocabulary text scan.tokens stray)
      | none =>
          if point.mayEnd then
            .ok scan.tokens
          else
            .error (.cutShort ((scan.tokens.getLast?.map (·.position)).getD .start) point)

end StaticDispatch.Declaration
