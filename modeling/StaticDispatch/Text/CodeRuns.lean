/-!
Contract: sets of code points given by the ends of their runs.

A set is written as an increasing list of bounds. The first bound opens a run,
the second closes it (and is itself outside), and so on in turn.

Owns: the representation and its membership test.
Does not own: any particular set of characters.
-/

namespace StaticDispatch.Text

/-- A set of code points as the alternating starts and ends of its runs. -/
structure CodeRuns where
  bounds : List Nat
deriving DecidableEq, Repr

namespace CodeRuns

/-- Walks the bounds up to `code`, changing side at each bound it passes. -/
def sideAt (code : Nat) : List Nat → Bool → Bool
  | [], inside => inside
  | bound :: rest, inside => if code < bound then inside else sideAt code rest (!inside)

def contains (runs : CodeRuns) (code : Nat) : Bool :=
  sideAt code runs.bounds false

end CodeRuns

end StaticDispatch.Text
