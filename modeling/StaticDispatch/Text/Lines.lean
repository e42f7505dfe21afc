/-!
Contract: line ends of text files.

Owns: reading every form of line end as a line feed.
Does not own: cutting a text into lines.
-/

namespace StaticDispatch.Text

/-- A carriage return, and a carriage return with a line feed behind it, are both
read as a line feed. -/
def normalizeLineEnds : List Char → List Char
  | [] => []
  | '\r' :: '\n' :: rest => '\n' :: normalizeLineEnds rest
  | '\r' :: rest => '\n' :: normalizeLineEnds rest
  | character :: rest => character :: normalizeLineEnds rest

end StaticDispatch.Text
