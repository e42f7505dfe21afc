import StaticDispatch.Text.Division
import StaticDispatch.Text.Hexadecimal

/-!
Contract: tables of code points written as text.

A table is a list of entries divided by semicolons. An entry is a code, or a run
of codes with a dash between its ends, and then the codes it is mapped to, all in
hexadecimal and divided by blanks.

Owns: the table, reading it and looking a code up.
Does not own: any particular table.
-/

namespace StaticDispatch.Text

structure CodeEntry where
  first : Nat
  last : Nat
  image : List Nat
deriving DecidableEq, Repr

def CodeEntry.contains (entry : CodeEntry) (code : Nat) : Bool :=
  entry.first ≤ code && code ≤ entry.last

def CodeEntry.read? (text : List Char) : Option CodeEntry :=
  match divide ' ' text with
  | [] => none
  | run :: image => do
      let image ← image.mapM hexNumber?
      match divide '-' run with
      | [code] =>
          let code ← hexNumber? code
          return { first := code, last := code, image }
      | [first, last] => return { first := ← hexNumber? first, last := ← hexNumber? last, image }
      | _ => none

structure CodeTable where
  entries : List CodeEntry
deriving DecidableEq, Repr

namespace CodeTable

/-- The table that the pieces of a text spell; an entry that spells nothing is left
out. -/
def read (pieces : List String) : CodeTable :=
  ⟨(divide ';' (String.join pieces).toList).filterMap CodeEntry.read?⟩

def find? (table : CodeTable) (code : Nat) : Option CodeEntry :=
  table.entries.find? (·.contains code)

end CodeTable

end StaticDispatch.Text
