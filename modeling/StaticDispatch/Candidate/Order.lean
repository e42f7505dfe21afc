import StaticDispatch.Candidate.Basic

/-!
Contract: candidates, most specific first.

The relation between candidates need not be transitive, because a place that
does not decide is passed over. Only pairs that may apply to the same arguments
constrain the order, so such pairs are respected first; the other comparisons
break ties, and then the order of registration does.

Owns: sorting, and the pairs whose order rests on registration alone.
Does not own: what is done about such pairs.
-/

namespace StaticDispatch.Candidate

/-- Each item of a list with the others in their order. -/
def selections {α : Type} : List α → List (α × List α)
  | [] => []
  | item :: rest =>
      (item, rest) :: (selections rest).map fun (chosen, others) => (chosen, item :: others)

/-- Whether one of the others may compete with a candidate and is more specific. -/
def isOvertaken (table : TypeTable) (candidate : Candidate) (others : List Candidate) :
    Except TypeTable.Fault Bool :=
  others.anyM fun other => do
    if ← isCoApplicable table other candidate then
      isMoreSpecific table other candidate
    else
      return false

def isBeaten (table : TypeTable) (candidate : Candidate) (others : List Candidate) :
    Except TypeTable.Fault Bool :=
  others.anyM fun other => isMoreSpecific table other candidate

/-- The items that may come next: those that no competitor overtakes, or all if
competitors overtake each other in a circle. -/
def pool (table : TypeTable) (remaining : List Candidate) :
    Except TypeTable.Fault (List (Candidate × List Candidate)) := do
  let choices := selections remaining
  let free ← choices.filterM fun (candidate, others) =>
    return !(← isOvertaken table candidate others)
  return if free.isEmpty then choices else free

def next? (table : TypeTable) (remaining : List Candidate) :
    Except TypeTable.Fault (Option (Candidate × List Candidate)) := do
  let free ← pool table remaining
  let unbeaten ← free.filterM fun (candidate, others) =>
    return !(← isBeaten table candidate others)
  return unbeaten.head?.or free.head?

/-- Takes the next item until none remains; one unit of fuel for each item. -/
def sortFrom (table : TypeTable) : Nat → List Candidate → Except TypeTable.Fault (List Candidate)
  | 0, _ => return []
  | fuel + 1, remaining => do
      match ← next? table remaining with
      | none => return []
      | some (candidate, others) => return candidate :: (← sortFrom table fuel others)

def byOrdinal (candidates : List Candidate) : List Candidate :=
  candidates.mergeSort fun first second => first.ordinal ≤ second.ordinal

/-- The candidates most specific first. -/
def sort (table : TypeTable) (candidates : List Candidate) :
    Except TypeTable.Fault (List Candidate) :=
  sortFrom table candidates.length (byOrdinal candidates)

/-- Whether unrelated specializers meet before any place decides. -/
def meetsUndecided (table : TypeTable) :
    List (Specializer × Specializer) → Except TypeTable.Fault Bool
  | [] => return false
  | (first, second) :: rest => do
      match ← Specializer.compareAt table first second with
      | .more => return false
      | .less => return false
      | .incomparable => return true
      | .equal => meetsUndecided table rest

/-- Whether the order of two candidates rests on registration alone. -/
def isUnordered (table : TypeTable) (first second : Candidate) : Except TypeTable.Fault Bool := do
  if ← isCoApplicable table first second then
    meetsUndecided table (first.specializers.zip second.specializers)
  else
    return false

def unorderedPairs (table : TypeTable) :
    List Candidate → Except TypeTable.Fault (List (Candidate × Candidate))
  | [] => return []
  | candidate :: rest => do
      let unordered ← rest.filterM (isUnordered table candidate)
      return unordered.map (candidate, ·) ++ (← unorderedPairs table rest)

end StaticDispatch.Candidate
