import StaticDispatch.Value.Basic
import StaticDispatch.Number.IntegerText
import StaticDispatch.Text.Quoted

/-!
Contract: values as text, in the notation of the generated language.

A value is shown unless an integer in it has too many digits.

Owns: the text of values, and which values can be shown.
Does not own: quoting and number text, which it uses.
-/

namespace StaticDispatch.Value

/-- The items of a tuple; a single one is followed by a comma. -/
def tupleText : List String → String
  | [item] => s!"({item},)"
  | items => "(" ++ String.intercalate ", " items ++ ")"

mutual

/-- The text of a value, however long its integers are. -/
def spelling : Value → String
  | .nil => "None"
  | .bool true => "True"
  | .bool false => "False"
  | .int value => Number.integerText value
  | .float value => value.text
  | .str value => Text.quoted value
  | .bytes value => Text.quotedBytes value
  | .tuple items => tupleText (spellings items)
  | .list items => "[" ++ String.intercalate ", " (spellings items) ++ "]"
  | .object value => value.shown

def spellings : List Value → List String
  | [] => []
  | item :: rest => spelling item :: spellings rest

end

mutual

/-- Whether no integer in a value has too many digits. -/
def isWritable : Value → Bool
  | .int value => Number.isWritable value
  | .tuple items => areWritable items
  | .list items => areWritable items
  | _ => true

def areWritable : List Value → Bool
  | [] => true
  | item :: rest => isWritable item && areWritable rest

end

def display (value : Value) : Except Number.Unwritable String :=
  if value.isWritable then .ok value.spelling else .error {}

end StaticDispatch.Value
