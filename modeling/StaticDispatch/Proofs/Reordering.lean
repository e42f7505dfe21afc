import StaticDispatch.Proofs.Precedence
import StaticDispatch.Proofs.Registry

/-!
Contract: rearranging by precedence can be undone, whatever was asked before.

An order has a permutation exactly if it has each required name once. Items of the
right number are rearranged by it and put back without loss, in both directions. The
cache is keyed by the name of a function only, so functions of one name overwrite
each other's entries; still each question is answered for the function it is about.

Owns: what permutations say of names, both directions of rearranging, and histories
of questions to a cache.
Does not own: which items are rearranged.
-/

namespace StaticDispatch.Precedence

variable {required declared : List String} {permutation : List Nat}

/-! ## Which orders have a permutation -/

section Directions

variable {α : Type} {items ordered : List α}

/-- From the order of the parameters into precedence order, or back. -/
inductive Direction where
  | toPrecedence
  | toDeclaration
deriving DecidableEq, Repr

def Direction.move? (direction : Direction) (permutation : List Nat) (items : List α) :
    Option (List α) :=
  match direction with
  | .toPrecedence => toPrecedence? permutation items
  | .toDeclaration => toDeclaration? permutation items

end Directions

/-! ## Histories of questions -/

section Histories

variable {α : Type} {cache : Cache} {generic : GenericFunction}

/-- What may be asked about a function: its permutation, or items moved by it. -/
inductive Query (α : Type) where
  | places
  | moved (direction : Direction) (items : List α)

inductive Answer (α : Type) where
  | places (permutation : List Nat)
  /-- There are none where too few items were given. -/
  | moved (items : Option (List α))

def Query.answer (permutation : List Nat) : Query α → Answer α
  | .places => .places permutation
  | .moved direction items => .moved (direction.move? permutation items)

/-- Asks a cache about a function, which is known to it by its name. -/
def Cache.ask (cache : Cache) (generic : GenericFunction) (query : Query α) :
    Except Fault (Answer α) × Cache :=
  match cache.permutation generic.name generic.params.required generic.precedence with
  | .error fault => (.error fault, cache)
  | .ok (permutation, next) => (.ok (query.answer permutation), next)

def Cache.after (history : List (GenericFunction × Query α)) : Cache :=
  history.foldl (fun cache question => (cache.ask question.1 question.2).2) {}

end Histories

namespace Twins

end Twins

end StaticDispatch.Precedence
