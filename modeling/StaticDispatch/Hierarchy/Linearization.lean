/-!
Contract: merging the linearizations of several bases into one.

The merge takes, again and again, the first head of a list that is in the tail
of no list. It fails when every head is still behind another class somewhere.

Owns: the merge over class numbers and the heads that block it.
Does not own: what the classes are.
-/

namespace StaticDispatch

abbrev ClassId := Nat

namespace Linearization

/-- Whether no list has the class behind its head. -/
def isFree (lists : List (List ClassId)) (candidate : ClassId) : Bool :=
  lists.all fun list => !list.tail.contains candidate

/-- The first head that is behind no other class. -/
def freeHead? (lists : List (List ClassId)) : Option ClassId :=
  (lists.filterMap List.head?).find? (isFree lists)

def dropHead (taken : ClassId) : List ClassId → List ClassId
  | [] => []
  | head :: tail => if head = taken then tail else head :: tail

/-- The heads of the lists that are left, each once. -/
def heads (lists : List (List ClassId)) : List ClassId :=
  (lists.filterMap List.head?).eraseDups

/-- Merges with at most `steps` classes; fails with the heads that are stuck. -/
def mergeSteps : Nat → List (List ClassId) → Except (List ClassId) (List ClassId)
  | 0, lists => if heads lists = [] then .ok [] else .error (heads lists)
  | steps + 1, lists =>
      if heads lists = [] then
        .ok []
      else
        match freeHead? lists with
        | none => .error (heads lists)
        | some taken => (mergeSteps steps (lists.map (dropHead taken))).map (taken :: ·)

/-- Each step shortens a list, so the number of their classes bounds the steps. -/
def merge (lists : List (List ClassId)) : Except (List ClassId) (List ClassId) :=
  mergeSteps lists.flatten.length lists

end Linearization

end StaticDispatch
