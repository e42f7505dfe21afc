import StaticDispatch.Json.Basic
import StaticDispatch.Number.IntegerText
import StaticDispatch.Text.Hexadecimal

/-!
Contract: JSON text to values, with the place of the first fault.

Besides the standard forms the words `NaN`, `Infinity` and `-Infinity` are
numbers. Arrays and objects may be nested to a fixed depth. The first character
that fits no rule is reported by its offset, from which line and column follow.

Owns: the faults, their wording and the reader.
Does not own: what a value means to its user.
-/

namespace StaticDispatch.Json

inductive Cause where
  | value
  | propertyName
  | colon
  | comma
  | extraData
  | escape
  | unicodeEscape
  | controlCharacter
  | unterminated
  | byteOrderMark
deriving DecidableEq, Repr

def Cause.message : Cause → String
  | .value => "Expecting value"
  | .propertyName => "Expecting property name enclosed in double quotes"
  | .colon => "Expecting ':' delimiter"
  | .comma => "Expecting ',' delimiter"
  | .extraData => "Extra data"
  | .escape => "Invalid \\escape"
  | .unicodeEscape => "Invalid \\uXXXX escape"
  | .controlCharacter => "Invalid control character at"
  | .unterminated => "Unterminated string starting at"
  | .byteOrderMark => "Unexpected UTF-8 BOM (decode using utf-8-sig)"

inductive Container where
  | array
  | object
deriving DecidableEq, Repr

def Container.name : Container → String
  | .array => "array"
  | .object => "object"

/-- What is said of a container that is nested too deep. -/
def Container.depthMessage (container : Container) : String :=
  s!"maximum recursion depth exceeded while decoding a JSON {container.name} " ++
    "from a unicode string"

inductive Fault where
  | malformed (cause : Cause) (offset : Nat)
  | tooManyDigits (fault : Number.TooManyDigits)
  /-- The container that opens one level more than is allowed. -/
  | tooDeep (container : Container)
deriving DecidableEq, Repr

/-- The place of an offset as a line and a column, both from one. -/
def lineColumn (text : List Char) (offset : Nat) : Nat × Nat :=
  let before := text.take offset
  (before.count '\n' + 1, (before.reverse.takeWhile (· ≠ '\n')).length + 1)

def Fault.message (text : List Char) : Fault → String
  | .malformed cause offset =>
      let (line, column) := lineColumn text offset
      s!"{cause.message}: line {line} column {column} (char {offset})"
  | .tooManyDigits fault => fault.message
  | .tooDeep container => container.depthMessage

/-- A place in the text: its offset and what follows. -/
structure Cursor where
  offset : Nat
  rest : List Char
deriving DecidableEq, Repr

def Cursor.advance (cursor : Cursor) (count : Nat) : Cursor :=
  ⟨cursor.offset + count, cursor.rest.drop count⟩

def isBlankCharacter (character : Char) : Bool :=
  character = ' ' || character = '\t' || character = '\n' || character = '\r'

def Cursor.skipBlanks (cursor : Cursor) : Cursor :=
  cursor.advance (cursor.rest.takeWhile isBlankCharacter).length

abbrev Read (α : Type) := Except Fault (α × Cursor)

def failAt {α : Type} (cause : Cause) (offset : Nat) : Except Fault α :=
  .error (.malformed cause offset)

def hexQuad? (first second third fourth : Char) : Option Nat :=
  Text.hexNumber? [first, second, third, fourth]

def isHighSurrogate (unit : Nat) : Bool :=
  0xd800 ≤ unit && unit < 0xdc00

def isLowSurrogate (unit : Nat) : Bool :=
  0xdc00 ≤ unit && unit < 0xe000

/-- The character of a sixteen-bit unit; a unit of half a pair has none and is
replaced. -/
def unitCharacter (unit : Nat) : Char :=
  if isHighSurrogate unit || isLowSurrogate unit then '\ufffd' else Char.ofNat unit

def joinSurrogates (high low : Nat) : Char :=
  Char.ofNat (0x10000 + (high - 0xd800) * 0x400 + (low - 0xdc00))

def letterEscape? : Char → Option Char
  | '"' => some '"'
  | '\\' => some '\\'
  | '/' => some '/'
  | 'b' => some '\x08'
  | 'f' => some '\x0c'
  | 'n' => some '\n'
  | 'r' => some '\r'
  | 't' => some '\t'
  | _ => none

/-- The unit of an escape that starts the text and has a character behind it:
`none` if there is no such escape, `some none` if its digits are wrong. -/
def leadingUnit? : List Char → Option (Option Nat)
  | '\\' :: 'u' :: a :: b :: c :: d :: _ :: _ => some (hexQuad? a b c d)
  | _ => none

/-- The content of a string from behind its opening quote, which stands at
`opening`. The characters read so far are kept in reverse. -/
def readString (opening : Nat) : Nat → List Char → List Char → Read String
  | _, [], _ => failAt .unterminated opening
  | offset, '"' :: rest, done => .ok (String.ofList done.reverse, ⟨offset + 1, rest⟩)
  | _, ['\\'], _ => failAt .unterminated opening
  | offset, '\\' :: 'u' :: a :: b :: c :: d :: next :: rest, done =>
      match hexQuad? a b c d with
      | none => failAt .unicodeEscape (offset + 1)
      | some unit =>
          match if isHighSurrogate unit then leadingUnit? (next :: rest) else none with
          | none => readString opening (offset + 6) (next :: rest) (unitCharacter unit :: done)
          | some none => failAt .unicodeEscape (offset + 7)
          | some (some low) =>
              if isLowSurrogate low then
                readString opening (offset + 12) (rest.drop 5) (joinSurrogates unit low :: done)
              else
                readString opening (offset + 6) (next :: rest) (unitCharacter unit :: done)
  | offset, '\\' :: 'u' :: _, _ => failAt .unicodeEscape (offset + 1)
  | offset, '\\' :: letter :: rest, done =>
      match letterEscape? letter with
      | some character => readString opening (offset + 2) rest (character :: done)
      | none => failAt .escape offset
  | offset, character :: rest, done =>
      if character.toNat < 0x20 then
        failAt .controlCharacter offset
      else
        readString opening (offset + 1) rest (character :: done)
termination_by _ rest _ => rest.length

/-- The digits of the fraction, if a point and a digit follow. -/
def fractionLength : List Char → Nat
  | '.' :: digit :: rest =>
      if digit.isDigit then 2 + (rest.takeWhile Char.isDigit).length else 0
  | _ => 0

/-- The length of the exponent, if its mark and a digit follow. -/
def exponentLength : List Char → Nat
  | mark :: rest =>
      let sign := match rest with
        | '+' :: _ => 1
        | '-' :: _ => 1
        | _ => 0
      let digits := ((rest.drop sign).takeWhile Char.isDigit).length
      if (mark = 'e' ∨ mark = 'E') ∧ 0 < digits then 1 + sign + digits else 0
  | [] => 0

/-- The digits before the point: a zero stands alone. -/
def wholeLength : List Char → Nat
  | '0' :: _ => 1
  | rest => (rest.takeWhile Char.isDigit).length

def readNumber (cursor : Cursor) : Read Json :=
  let (negative, unsigned) := match cursor.rest with
    | '-' :: rest => (true, rest)
    | rest => (false, rest)
  let sign := if negative then 1 else 0
  let whole := wholeLength unsigned
  if whole = 0 then
    failAt .value cursor.offset
  else
    let fraction := fractionLength (unsigned.drop whole)
    let exponent := exponentLength (unsigned.drop (whole + fraction))
    let next := cursor.advance (sign + whole + fraction + exponent)
    if fraction + exponent = 0 then
      match Number.readInteger negative (unsigned.take whole) with
      | .ok value => .ok (.int value, next)
      | .error fault => .error (.tooManyDigits fault)
    else
      match Number.readDecimal (unsigned.take (whole + fraction + exponent)) with
      | some decimal => .ok (.number (decimal.toBinary64 negative), next)
      | none => failAt .value cursor.offset

def readScalar (cursor : Cursor) : Read Json :=
  match cursor.rest with
  | 'n' :: 'u' :: 'l' :: 'l' :: _ => .ok (.null, cursor.advance 4)
  | 't' :: 'r' :: 'u' :: 'e' :: _ => .ok (.bool true, cursor.advance 4)
  | 'f' :: 'a' :: 'l' :: 's' :: 'e' :: _ => .ok (.bool false, cursor.advance 5)
  | 'N' :: 'a' :: 'N' :: _ => .ok (.number (.undefined 0), cursor.advance 3)
  | 'I' :: 'n' :: 'f' :: 'i' :: 'n' :: 'i' :: 't' :: 'y' :: _ =>
      .ok (.number (.infinite false), cursor.advance 8)
  | '-' :: 'I' :: 'n' :: 'f' :: 'i' :: 'n' :: 'i' :: 't' :: 'y' :: _ =>
      .ok (.number (.infinite true), cursor.advance 9)
  | _ => readNumber cursor

def nestingLimit : Nat := 990

mutual

/-- A value at the cursor, with so many levels left to nest. -/
def readValue (levels : Nat) (cursor : Cursor) : Read Json :=
  match cursor.rest with
  | '"' :: rest =>
      (readString cursor.offset (cursor.offset + 1) rest []).map fun (text, next) =>
        (.string text, next)
  | '[' :: rest =>
      match levels with
      | 0 => .error (.tooDeep .array)
      | inner + 1 =>
          let inside := Cursor.skipBlanks ⟨cursor.offset + 1, rest⟩
          match inside.rest with
          | ']' :: _ => .ok (.array [], inside.advance 1)
          | _ => readItems inner (rest.length + 1) inside []
  | '\x7b' :: rest =>
      match levels with
      | 0 => .error (.tooDeep .object)
      | inner + 1 =>
          let inside := Cursor.skipBlanks ⟨cursor.offset + 1, rest⟩
          match inside.rest with
          | '\x7d' :: _ => .ok (.object [], inside.advance 1)
          | _ => readMembers inner (rest.length + 1) inside []
  | _ => readScalar cursor
termination_by (levels, 0, 0)

/-- The items of an array up to its closing bracket. Each takes a character, so
the length of the text bounds their count. -/
def readItems (levels count : Nat) (cursor : Cursor) (done : List Json) : Read Json :=
  match count with
  | 0 => failAt .value cursor.offset
  | more + 1 =>
      match readValue levels cursor with
      | .error fault => .error fault
      | .ok (item, afterItem) =>
          let next := afterItem.skipBlanks
          match next.rest with
          | ']' :: _ => .ok (.array (item :: done).reverse, next.advance 1)
          | ',' :: _ => readItems levels more (next.advance 1).skipBlanks (item :: done)
          | _ => failAt .comma next.offset
termination_by (levels, 1, count)

def readMembers (levels count : Nat) (cursor : Cursor) (done : List (String × Json)) :
    Read Json :=
  match count with
  | 0 => failAt .propertyName cursor.offset
  | more + 1 =>
      match cursor.rest with
      | '"' :: rest =>
          match readString cursor.offset (cursor.offset + 1) rest [] with
          | .error fault => .error fault
          | .ok (key, afterKey) =>
              let colon := afterKey.skipBlanks
              match colon.rest with
              | ':' :: _ =>
                  match readValue levels (colon.advance 1).skipBlanks with
                  | .error fault => .error fault
                  | .ok (value, afterValue) =>
                      let next := afterValue.skipBlanks
                      let members := insertMember key value done
                      match next.rest with
                      | '\x7d' :: _ => .ok (.object members, next.advance 1)
                      | ',' :: _ => readMembers levels more (next.advance 1).skipBlanks members
                      | _ => failAt .comma next.offset
              | _ => failAt .colon colon.offset
      | _ => failAt .propertyName cursor.offset
termination_by (levels, 1, count)

end

def read (text : List Char) : Except Fault Json :=
  if text.head? = some '\ufeff' then
    failAt .byteOrderMark 0
  else
    match readValue nestingLimit (Cursor.skipBlanks ⟨0, text⟩) with
    | .error fault => .error fault
    | .ok (value, afterValue) =>
        let finish := afterValue.skipBlanks
        if finish.rest.isEmpty then .ok value else failAt .extraData finish.offset

end StaticDispatch.Json
