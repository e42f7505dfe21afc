import StaticDispatch.Json.Basic
import StaticDispatch.Number.IntegerText
import StaticDispatch.Text.Hexadecimal

/-!
Contract: JSON values as one line of ASCII text.

Members and items are divided by a comma and a blank, a key from its value by a
colon and a blank. Characters outside printable ASCII are written by their code
in sixteen-bit units.

Owns: the writer.
Does not own: reading.
-/

namespace StaticDispatch.Json

def unitEscape (unit : Nat) : List Char :=
  '\\' :: 'u' :: Text.hexDigits 4 unit

def escapedCharacter (character : Char) : List Char :=
  let code := character.toNat
  if character = '"' ∨ character = '\\' then
    ['\\', character]
  else if character = '\n' then
    ['\\', 'n']
  else if character = '\r' then
    ['\\', 'r']
  else if character = '\t' then
    ['\\', 't']
  else if code = 0x08 then
    ['\\', 'b']
  else if code = 0x0c then
    ['\\', 'f']
  else if 0x20 ≤ code ∧ code < 0x7f then
    [character]
  else if code < 0x10000 then
    unitEscape code
  else
    unitEscape (0xd800 + (code - 0x10000) / 0x400) ++
      unitEscape (0xdc00 + (code - 0x10000) % 0x400)

def stringText (text : String) : String :=
  String.ofList ('"' :: text.toList.flatMap escapedCharacter ++ ['"'])

def commaSeparated (parts : List String) : String :=
  String.intercalate ", " parts

/-- The text of a number; those that are not finite are words. -/
def numberText : Number.Binary64 → String
  | .infinite negative => Number.signText negative ++ "Infinity"
  | .undefined _ => "NaN"
  | finite => finite.text

mutual

def render : Json → String
  | .null => "null"
  | .bool true => "true"
  | .bool false => "false"
  | .int value => Number.integerText value
  | .number value => numberText value
  | .string value => stringText value
  | .array items => "[" ++ commaSeparated (renderItems items) ++ "]"
  | .object members => "\x7b" ++ commaSeparated (renderMembers members) ++ "\x7d"

def renderItems : List Json → List String
  | [] => []
  | item :: rest => render item :: renderItems rest

def renderMembers : List (String × Json) → List String
  | [] => []
  | (key, value) :: rest => (stringText key ++ ": " ++ render value) :: renderMembers rest

end

end StaticDispatch.Json
