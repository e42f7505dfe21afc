import StaticDispatch.Text.Hexadecimal
import StaticDispatch.Text.Printable

/-!
Contract: text and byte strings written between quotes.

Single quotes are used unless the content has a single quote and no double
quote. The quote in use and the backslash are written with a backslash; tab,
line feed and carriage return by letter; every other character that is not
printable by its code, in the shortest of the forms with two, four and eight
hexadecimal digits.

Owns: the choice of quote, the escapes and the two writers.
Does not own: reading quoted text back (see the literals of declarations).
-/

namespace StaticDispatch.Text

/-- Single quotes, unless the content has those and no double quote. -/
def quoteFor (content : List Char) : Char :=
  if content.contains '\x27' && !content.contains '"' then '"' else '\x27'

/-- The code of a character in the shortest of the three numeric escapes. -/
def codeEscape (code : Nat) : List Char :=
  if code < 0x100 then
    '\\' :: 'x' :: hexDigits 2 code
  else if code < 0x10000 then
    '\\' :: 'u' :: hexDigits 4 code
  else
    '\\' :: 'U' :: hexDigits 8 code

def quotedCharacter (quote character : Char) : List Char :=
  if character = quote ∨ character = '\\' then
    ['\\', character]
  else if character = '\n' then
    ['\\', 'n']
  else if character = '\r' then
    ['\\', 'r']
  else if character = '\t' then
    ['\\', 't']
  else if isPrintable character then
    [character]
  else
    codeEscape character.toNat

def quotedCharacters (content : List Char) : List Char :=
  let quote := quoteFor content
  quote :: content.flatMap (quotedCharacter quote) ++ [quote]

def quoted (text : String) : String :=
  String.ofList (quotedCharacters text.toList)

/-- One byte between the given quotes: ASCII as text, the rest by code. -/
def quotedByte (quote : Char) (byte : UInt8) : List Char :=
  let character := Char.ofNat byte.toNat
  if byte.toNat < 0x80 then
    quotedCharacter quote character
  else
    codeEscape byte.toNat

/-- A byte string between quotes, with its `b` mark. -/
def quotedBytes (bytes : List UInt8) : String :=
  let quote := quoteFor (bytes.map fun byte => Char.ofNat byte.toNat)
  String.ofList ('b' :: quote :: bytes.flatMap (quotedByte quote) ++ [quote])

end StaticDispatch.Text
