/-!
Contract: the order in which required parameters are compared.

Specializers are kept in the order of the parameters, while static types arrive
in precedence order. A precedence order rearranges the required names, and its
permutation says for each place in precedence order which parameter stands there.

Owns: permutations, the cache of permutations by function name, and reordering
in both directions. An entry of the cache is used only if it was made for the
same names and the same order.
Does not own: generic functions.
-/

namespace StaticDispatch

namespace Precedence

/-- An order that does not rearrange the required names. -/
structure Fault where
  declared : List String
  required : List String
deriving DecidableEq, Repr

def Fault.message (fault : Fault) : String :=
  let declared := String.intercalate ", " fault.declared
  let required := String.intercalate ", " fault.required
  s!"precedence order ({declared}) is not a permutation of ({required})"

def isDistinct : List String → Bool
  | [] => true
  | name :: rest => !rest.contains name && isDistinct rest

def isRearrangement (required declared : List String) : Bool :=
  declared.length = required.length && declared.all required.contains &&
    required.all declared.contains && isDistinct declared

/-- For each place in precedence order, the place of its parameter. -/
def permutation (required : List String) : Option (List String) → Except Fault (List Nat)
  | none => .ok (List.range required.length)
  | some declared =>
      if isRearrangement required declared then
        .ok (declared.map required.idxOf)
      else
        .error ⟨declared, required⟩

/-- Items in the order of the parameters, rearranged by precedence. -/
def toPrecedence? {α : Type} (permutation : List Nat) (items : List α) : Option (List α) :=
  permutation.mapM (items[·]?)

/-- Items in precedence order, put back in the order of the parameters. -/
def toDeclaration? {α : Type} (permutation : List Nat) (items : List α) : Option (List α) :=
  (List.range permutation.length).mapM fun place =>
    (permutation.idxOf? place).bind (items[·]?)

structure Entry where
  required : List String
  order : List String
  permutation : List Nat
deriving DecidableEq, Repr

/-- Permutations by the name of the function they were last asked for. -/
structure Cache where
  entries : List (String × Entry) := []
deriving DecidableEq, Repr

namespace Cache

def find? (cache : Cache) (name : String) : Option Entry :=
  (cache.entries.find? (·.1 = name)).map (·.2)

def insert (cache : Cache) (name : String) (entry : Entry) : Cache :=
  ⟨(name, entry) :: cache.entries.filter (·.1 != name)⟩

/-- The permutation of a function, from the cache if its entry still fits. -/
def permutation (cache : Cache) (name : String) (required order : List String) :
    Except Fault (List Nat × Cache) :=
  match (cache.find? name).filter fun entry => entry.required = required && entry.order = order with
  | some entry => .ok (entry.permutation, cache)
  | none => do
      let made ← Precedence.permutation required (some order)
      return (made, cache.insert name ⟨required, order, made⟩)

end Cache

end Precedence

end StaticDispatch
