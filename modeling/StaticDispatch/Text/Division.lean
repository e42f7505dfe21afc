/-!
Contract: text cut at a mark.

Owns: the parts of a text between the places where a mark stands.
Does not own: which mark divides what.
-/

namespace StaticDispatch.Text

/-- The runs of characters between marks; there is one more than there are
marks. -/
def divide (mark : Char) : List Char → List (List Char)
  | [] => [[]]
  | character :: rest =>
      if character = mark then
        [] :: divide mark rest
      else
        match divide mark rest with
        | [] => [[character]]
        | first :: others => (character :: first) :: others

end StaticDispatch.Text
