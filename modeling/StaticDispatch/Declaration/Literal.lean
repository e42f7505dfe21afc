import StaticDispatch.Declaration.Token
import StaticDispatch.Number.IntegerText
import StaticDispatch.Value.Basic

/-!
Contract: the values of literals.

A number has a limited count of digits. In a quoted text a backslash opens an
escape: a letter, up to three octal digits, or two, four or eight hexadecimal
digits; before any other character it stands for itself. Characters are not known
by name, and a code that stands for a character only in a pair stands for none.

Owns: literal values and their faults.
Does not own: where literals may stand.
-/

namespace StaticDispatch.Declaration

inductive LiteralFault where
  | tooManyDigits (fault : Number.TooManyDigits)
  /-- A quoted text with a null character. -/
  | nullCharacter
  /-- A quoted text with a broken escape or a bare line end. -/
  | malformedText
deriving DecidableEq, Repr

def LiteralFault.message : LiteralFault → String
  | .tooManyDigits fault => fault.message
  | .nullCharacter => "source code string cannot contain null bytes"
  | .malformedText => "malformed text"

def character? (code : Nat) : Option Char :=
  if code.isValidChar then some (Char.ofNat code) else none

/-- The character of an escape that is one letter or mark. -/
def escapedLetter? : Char → Option Char
  | '\\' => some '\\'
  | '\x27' => some '\x27'
  | '"' => some '"'
  | 'a' => some '\x07'
  | 'b' => some '\x08'
  | 'f' => some '\x0c'
  | 'n' => some '\n'
  | 'r' => some '\r'
  | 't' => some '\t'
  | 'v' => some '\x0b'
  | _ => none

def isOctalDigit (character : Char) : Bool :=
  '0' ≤ character && character ≤ '7'

/-- How many hexadecimal digits follow a letter that asks for them. -/
def escapeWidth? : Char → Option Nat
  | 'x' => some 2
  | 'u' => some 4
  | 'U' => some 8
  | _ => none

/-- The characters of an escape whose letter is given, and how many characters
behind the letter belong to it. -/
def escape? (letter : Char) (rest : List Char) : Option (List Char × Nat) :=
  if letter = '\r' then
    -- A line end behind a backslash joins two lines.
    some ([], 0)
  else if letter = 'N' then
    none
  else if let some character := escapedLetter? letter then
    some ([character], 0)
  else if isOctalDigit letter then
    let digits := letter :: (rest.take 2).takeWhile isOctalDigit
    (character? (digits.foldl (fun code digit => code * 8 + (digit.toNat - '0'.toNat)) 0)).map
      fun character => ([character], digits.length - 1)
  else if let some width := escapeWidth? letter then
    let digits := rest.take width
    if digits.length = width then
      ((Text.hexNumber? digits).bind character?).map fun character => ([character], width)
    else
      none
  else
    some (['\\', letter], 0)

def unescape? : List Char → Option (List Char)
  | [] => some []
  | ['\\'] => none
  | '\\' :: letter :: rest =>
      match escape? letter rest with
      | none => none
      | some (characters, count) =>
          (unescape? (rest.drop count)).map (characters ++ ·)
  | character :: rest =>
      if character = '\r' then
        none
      else
        (unescape? rest).map (character :: ·)
termination_by characters => characters.length
decreasing_by all_goals (simp only [List.length_drop, List.length_cons]; omega)

def textValue (text : String) : Except LiteralFault Value :=
  if text.toList.contains '\x00' then
    .error .nullCharacter
  else
    match unescape? (text.toList.drop 1).dropLast with
    | some content => .ok (.str (String.ofList content))
    | none => .error .malformedText

def numberValue (text : String) : Except LiteralFault Value :=
  let (negative, digits) := Number.splitSign text.toList
  match Number.readInteger negative digits with
  | .ok value => .ok (.int value)
  | .error fault => .error (.tooManyDigits fault)

def Token.value? (token : Token) : Except LiteralFault (Option Value) :=
  match token.terminal with
  | .number => (numberValue token.text).map some
  | .text => (textValue token.text).map some
  | .trueWord => .ok (some (.bool true))
  | .falseWord => .ok (some (.bool false))
  | .nilWord => .ok (some .nil)
  | _ => .ok none

end StaticDispatch.Declaration
