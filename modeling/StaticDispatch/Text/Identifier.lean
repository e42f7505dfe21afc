import StaticDispatch.Text.IdentifierStart
import StaticDispatch.Text.IdentifierContinue

/-!
Contract: names that generated code may bind.

Owns: the shape of an identifier and the words of the generated language that
may not be used as one.
Does not own: the further rules on parameter names.
-/

namespace StaticDispatch.Text

/-- The characters of an identifier: a start, then continuations. -/
def identifierShape : List Char → Bool
  | [] => false
  | first :: rest => isIdentifierStart first && rest.all isIdentifierContinue

def isIdentifier (text : String) : Bool :=
  identifierShape text.toList

/-- Words of the generated language that can never name a variable. -/
def reservedWords : List String :=
  ["False", "None", "True", "and", "as", "assert", "async", "await", "break", "class",
    "continue", "def", "del", "elif", "else", "except", "finally", "for", "from", "global",
    "if", "import", "in", "is", "lambda", "nonlocal", "not", "or", "pass", "raise", "return",
    "try", "while", "with", "yield"]

def isReservedWord (text : String) : Bool :=
  reservedWords.contains text

end StaticDispatch.Text
