import Mathlib.Data.List.Induction
import StaticDispatch.Config

/-!
Contract: which names are enabled after changes to a configuration.

A change is a name with a flag. It decides about its own name alone, so that after
any number of changes the last one that names a name decides about it, and a name that
no change names is as enabled as it was.

Owns: membership in the two sets of names, changes, and sequences of changes.
Does not own: where changes come from.
-/

namespace StaticDispatch.Config

/-! ## Sets of names -/

private theorem mem_including {name other : String} {names : List String} :
    name ∈ including other names ↔ name = other ∨ name ∈ names := by
  unfold including
  by_cases present : other ∈ names
  · rw [if_pos (List.contains_iff_mem.mpr present)]
    exact ⟨.inr, fun member => member.elim (fun same => same ▸ present) id⟩
  · rw [if_neg (mt List.contains_iff_mem.mp present), List.mem_append, List.mem_singleton]
    exact or_comm

private theorem mem_excluding {name other : String} {names : List String} :
    name ∈ excluding other names ↔ name ≠ other ∧ name ∈ names := by
  simp [excluding, and_comm]

theorem isEnabled_iff (config : Config) (name : String) :
    config.isEnabled name = true ↔
      name ∉ config.disabled ∧ (config.enableAll = true ∨ name ∈ config.enabled) := by
  simp [isEnabled]

/-! ## One change -/

/-- A change decides about its own name and about no other. -/
private theorem isEnabled_setEnabled (config : Config) (other : String) (flag : Bool)
    (name : String) :
    (config.setEnabled other flag).isEnabled name =
      if name = other then flag else config.isEnabled name := by
  rw [Bool.eq_iff_iff, isEnabled_iff]
  by_cases own : name = other
  · cases flag <;> simp [setEnabled, mem_including, mem_excluding, own]
  · cases flag <;> simp [setEnabled, mem_including, mem_excluding, own, isEnabled_iff]

private theorem setEnabled_widened (config : Config) (all : Bool) (name : String) (flag : Bool) :
    { config with enableAll := all }.setEnabled name flag =
      { config.setEnabled name flag with enableAll := all } := by
  cases flag <;> rfl

/-! ## Sequences of changes -/

def setAll (config : Config) (changes : List (String × Bool)) : Config :=
  changes.foldl (fun current change => current.setEnabled change.1 change.2) config

def lastFlag? (changes : List (String × Bool)) (name : String) : Option Bool :=
  changes.reverse.lookup name

theorem setAll_append (config : Config) (first second : List (String × Bool)) :
    config.setAll (first ++ second) = (config.setAll first).setAll second :=
  List.foldl_append

theorem setAll_map (config : Config) (names : List String) (flag : Bool) :
    config.setAll (names.map (·, flag)) =
      names.foldl (fun current name => current.setEnabled name flag) config := by
  rw [setAll, List.foldl_map]

/-- Changes of names never look at whether all names are enabled. -/
theorem setAll_widened (config : Config) (all : Bool) (changes : List (String × Bool)) :
    { config with enableAll := all }.setAll changes =
      { config.setAll changes with enableAll := all } := by
  induction changes generalizing config with
  | nil => rfl
  | cons change rest inductionHypothesis =>
      have step := setEnabled_widened config all change.1 change.2
      simp only [setAll, List.foldl_cons, step] at inductionHypothesis ⊢
      exact inductionHypothesis (config.setEnabled change.1 change.2)

theorem enableAll_setAll (config : Config) (changes : List (String × Bool)) :
    (config.setAll changes).enableAll = config.enableAll := by
  have widened := setAll_widened config config.enableAll changes
  exact congrArg (·.enableAll) widened

private theorem lastFlag?_singleton (change : String × Bool) (name : String) :
    lastFlag? [change] name = if name = change.1 then some change.2 else none := by
  by_cases own : name = change.1
  · rw [if_pos own, lastFlag?, List.reverse_singleton, own, List.lookup_cons_self]
  · rw [if_neg own, lastFlag?, List.reverse_singleton, List.lookup_cons, beq_false_of_ne own]
    rfl

theorem lastFlag?_append (first second : List (String × Bool)) (name : String) :
    lastFlag? (first ++ second) name = (lastFlag? second name).or (lastFlag? first name) := by
  rw [lastFlag?, List.reverse_append, List.lookup_append, lastFlag?, lastFlag?]

theorem lastFlag?_eq_none {changes : List (String × Bool)} {name : String}
    (unnamed : ∀ change ∈ changes, change.1 ≠ name) : lastFlag? changes name = none := by
  rw [lastFlag?, List.lookup_eq_none_iff]
  intro change inside
  simpa using (unnamed change (List.mem_reverse.mp inside)).symm

theorem lastFlag?_of_last {before after : List (String × Bool)} {name : String} {flag : Bool}
    (unnamed : ∀ change ∈ after, change.1 ≠ name) :
    lastFlag? (before ++ (name, flag) :: after) name = some flag := by
  rw [← List.singleton_append, lastFlag?_append, lastFlag?_append, lastFlag?_eq_none unnamed,
    lastFlag?_singleton, if_pos rfl, Option.none_or, Option.some_or]

/-- Changes that agree on their flag. -/
theorem lastFlag?_map (names : List String) (flag : Bool) (name : String) :
    lastFlag? (names.map (·, flag)) name = if name ∈ names then some flag else none := by
  induction names using List.reverseRecOn with
  | nil => rfl
  | append_singleton names other inductionHypothesis =>
      rw [List.map_append, lastFlag?_append, inductionHypothesis, List.map_singleton,
        lastFlag?_singleton]
      by_cases own : name = other <;> simp [own]

/-- **The last change of a name decides about it**, and without one nothing changes. -/
theorem isEnabled_setAll (config : Config) (changes : List (String × Bool)) (name : String) :
    (config.setAll changes).isEnabled name =
      (lastFlag? changes name).getD (config.isEnabled name) := by
  induction changes using List.reverseRecOn with
  | nil => rfl
  | append_singleton changes change inductionHypothesis =>
      rw [setAll_append, lastFlag?_append, lastFlag?_singleton]
      change ((config.setAll changes).setEnabled change.1 change.2).isEnabled name = _
      rw [isEnabled_setEnabled, inductionHypothesis]
      by_cases own : name = change.1 <;> simp [own]

end StaticDispatch.Config
