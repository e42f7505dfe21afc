import Mathlib.Data.List.Forall2

/-!
Contract: walks over lists whose steps may fail.

Questions about types may fail, so every walk over methods, places or types is
one in `Except`. Where each step is known to answer, the walk answers what the
plain one does; where the walk answers, so did each step; and where the faults of the
steps are confined, those of the walk are.

Owns: these directions for the walks that the program makes, and partners in lists
that are related item by item.
Does not own: which steps answer.
-/

namespace StaticDispatch.Traversal

variable {α β ε : Type}

@[simp] theorem ok_bind (value : α) (next : α → Except ε β) :
    (Except.ok value >>= next) = next value := rfl

@[simp] theorem pure_eq_ok (value : α) : (pure value : Except ε α) = .ok value := rfl

theorem bind_eq_ok {first : Except ε α} {next : α → Except ε β} {result : β} :
    (first >>= next) = .ok result ↔ ∃ value, first = .ok value ∧ next value = .ok result := by
  cases first <;> simp [bind, Except.bind]

/-- Two computations with one beginning may go on alike from what it answers. -/
theorem bind_congr_ok {first : Except ε α} {next other : α → Except ε β}
    (agree : ∀ value, first = .ok value → next value = other value) :
    (first >>= next) = (first >>= other) := by
  cases first with
  | error fault => rfl
  | ok value => exact agree value rfl

theorem map_eq_ok {first : Except ε α} {change : α → β} {result : β} :
    first.map change = .ok result ↔ ∃ value, first = .ok value ∧ change value = result := by
  cases first <;> simp [Except.map]

theorem mapError_eq_ok {δ : Type} {first : Except ε α} {change : ε → δ} {result : α} :
    first.mapError change = .ok result ↔ first = .ok result := by
  cases first <;> simp [Except.mapError]

def isYes : Except ε Bool → Bool
  | .ok answer => answer
  | .error _ => false

theorem eq_ok_isYes {question : Except ε Bool} (answers : ∃ answer, question = .ok answer) :
    question = .ok (isYes question) := by
  obtain ⟨answer, answered⟩ := answers
  rw [answered, isYes]

theorem anyM_ok {question : α → Except ε Bool} {answer : α → Bool} {items : List α}
    (answers : ∀ item ∈ items, question item = .ok (answer item)) :
    items.anyM question = .ok (items.any answer) := by
  induction items with
  | nil => rfl
  | cons item rest inductionHypothesis =>
      rw [List.anyM, answers item (by simp), List.any_cons]
      cases answer item with
      | true => rfl
      | false =>
          exact inductionHypothesis fun other member => answers other (by simp [member])

/-- A walk that finds something found it at an item. -/
theorem exists_of_anyM {question : α → Except ε Bool} {items : List α}
    (walked : items.anyM question = .ok true) : ∃ item ∈ items, question item = .ok true := by
  induction items with
  | nil => cases walked
  | cons item rest inductionHypothesis =>
      obtain ⟨answer, answered, remaining⟩ := bind_eq_ok.mp walked
      cases answer with
      | true => exact ⟨item, by simp, answered⟩
      | false =>
          obtain ⟨other, inside, holds⟩ := inductionHypothesis remaining
          exact ⟨other, by simp [inside], holds⟩

/-- A walk that finds nothing asked at every item. -/
theorem forall_of_anyM {question : α → Except ε Bool} {items : List α}
    (walked : items.anyM question = .ok false) : ∀ item ∈ items, question item = .ok false := by
  induction items with
  | nil => simp
  | cons item rest inductionHypothesis =>
      obtain ⟨answer, answered, remaining⟩ := bind_eq_ok.mp walked
      cases answer with
      | true => cases remaining
      | false =>
          intro other inside
          rcases List.mem_cons.mp inside with rfl | inRest
          · exact answered
          · exact inductionHypothesis remaining other inRest

theorem anyM_congr {question other : α → Except ε Bool} {items : List α}
    (agree : ∀ item ∈ items, question item = other item) :
    items.anyM question = items.anyM other := by
  induction items with
  | nil => rfl
  | cons item rest inductionHypothesis =>
      rw [List.anyM, List.anyM, agree item (by simp),
        inductionHypothesis fun next inside => agree next (by simp [inside])]

theorem allM_eq_of_forall₂ {question : α → Except ε Bool} {other : β → Except ε Bool}
    {items : List α} {twins : List β}
    (agree : List.Forall₂ (fun item twin => question item = other twin) items twins) :
    items.allM question = twins.allM other := by
  induction agree with
  | nil => rfl
  | cons same _ inductionHypothesis => rw [List.allM, List.allM, same, inductionHypothesis]

theorem allM_congr {question other : α → Except ε Bool} {items : List α}
    (agree : ∀ item ∈ items, question item = other item) :
    items.allM question = items.allM other :=
  allM_eq_of_forall₂ (List.forall₂_same.mpr agree)

theorem allM_ok {question : α → Except ε Bool} {answer : α → Bool} {items : List α}
    (answers : ∀ item ∈ items, question item = .ok (answer item)) :
    items.allM question = .ok (items.all answer) := by
  induction items with
  | nil => rfl
  | cons item rest inductionHypothesis =>
      rw [List.allM, answers item (by simp), List.all_cons]
      cases answer item with
      | false => rfl
      | true =>
          exact inductionHypothesis fun other member => answers other (by simp [member])

private theorem filterAuxM_ok {question : α → Except ε Bool} {answer : α → Bool}
    {items : List α} (answers : ∀ item ∈ items, question item = .ok (answer item))
    (kept : List α) :
    List.filterAuxM question items kept = .ok ((items.filter answer).reverse ++ kept) := by
  induction items generalizing kept with
  | nil => rfl
  | cons item rest inductionHypothesis =>
      have others := inductionHypothesis fun other member => answers other (by simp [member])
      rw [List.filterAuxM, answers item (by simp), List.filter_cons]
      cases answer item with
      | false => exact others kept
      | true => simpa [bind, Except.bind] using others (item :: kept)

theorem filterM_ok {question : α → Except ε Bool} {answer : α → Bool} {items : List α}
    (answers : ∀ item ∈ items, question item = .ok (answer item)) :
    items.filterM question = .ok (items.filter answer) := by
  rw [List.filterM, filterAuxM_ok answers []]
  simp [bind, Except.bind, pure, Except.pure]

private theorem filterAuxM_answered {question : α → Except ε Bool} {items kept result : List α}
    (walked : List.filterAuxM question items kept = .ok result) :
    ∀ item ∈ items, ∃ answer, question item = .ok answer := by
  induction items generalizing kept with
  | nil => simp
  | cons item rest inductionHypothesis =>
      obtain ⟨answer, answered, remaining⟩ := bind_eq_ok.mp walked
      intro other inside
      rcases List.mem_cons.mp inside with rfl | inRest
      · exact ⟨answer, answered⟩
      · exact inductionHypothesis remaining other inRest

/-- A walk that keeps some items asked at every item, and kept those with the answer yes. -/
theorem filterM_eq_ok {question : α → Except ε Bool} {items kept : List α}
    (walked : items.filterM question = .ok kept) :
    (∀ item ∈ items, ∃ answer, question item = .ok answer) ∧
      ∀ item, item ∈ kept ↔ item ∈ items ∧ question item = .ok true := by
  obtain ⟨_, filtered, -⟩ := bind_eq_ok.mp walked
  have answers := filterAuxM_answered filtered
  refine ⟨answers, fun item => ?_⟩
  have keptIs := filterM_ok fun item inside => eq_ok_isYes (answers item inside)
  rw [walked] at keptIs
  rw [Except.ok.inj keptIs, List.mem_filter]
  refine and_congr_right fun inside => ?_
  rw [eq_ok_isYes (answers item inside)]
  simp [isYes]

private theorem filterAuxM_congr {question other : α → Except ε Bool} {items : List α}
    (agree : ∀ item ∈ items, question item = other item) (kept : List α) :
    List.filterAuxM question items kept = List.filterAuxM other items kept := by
  induction items generalizing kept with
  | nil => rfl
  | cons item rest inductionHypothesis =>
      have others := inductionHypothesis fun next inside => agree next (by simp [inside])
      simp only [List.filterAuxM, agree item (by simp), others]

theorem filterM_congr {question other : α → Except ε Bool} {items : List α}
    (agree : ∀ item ∈ items, question item = other item) :
    items.filterM question = items.filterM other := by
  rw [List.filterM, List.filterM, filterAuxM_congr agree]

/-- Requests that are made one after another have all been granted. -/
theorem forall_of_forM {request : α → Except ε Unit} {items : List α}
    (walked : items.forM request = .ok ()) : ∀ item ∈ items, request item = .ok () := by
  induction items with
  | nil => simp
  | cons item rest inductionHypothesis =>
      obtain ⟨_, granted, remaining⟩ := bind_eq_ok.mp walked
      intro other inside
      rcases List.mem_cons.mp inside with rfl | inRest
      · exact granted
      · exact inductionHypothesis remaining other inRest

theorem forM_ok {request : α → Except ε Unit} {items : List α}
    (granted : ∀ item ∈ items, request item = .ok ()) : items.forM request = .ok () := by
  induction items with
  | nil => rfl
  | cons item rest inductionHypothesis =>
      have others := inductionHypothesis fun other inside => granted other (by simp [inside])
      exact bind_eq_ok.mpr ⟨(), granted item (by simp), others⟩

theorem mapM_ok {request : α → Except ε β} {result : α → β} {items : List α}
    (results : ∀ item ∈ items, request item = .ok (result item)) :
    items.mapM request = .ok (items.map result) := by
  induction items with
  | nil => rfl
  | cons item rest inductionHypothesis =>
      rw [List.mapM_cons, results item (by simp),
        inductionHypothesis fun other member => results other (by simp [member])]
      rfl

theorem mapM_eq_of_forall₂ {γ : Type} {request : α → Except ε γ} {other : β → Except ε γ}
    {items : List α} {twins : List β}
    (agree : List.Forall₂ (fun item twin => request item = other twin) items twins) :
    items.mapM request = twins.mapM other := by
  induction agree with
  | nil => rfl
  | cons same _ inductionHypothesis =>
      rw [List.mapM_cons, List.mapM_cons, same, inductionHypothesis]

theorem mapM_congr {request other : α → Except ε β} {items : List α}
    (agree : ∀ item ∈ items, request item = other item) :
    items.mapM request = items.mapM other :=
  mapM_eq_of_forall₂ (List.forall₂_same.mpr agree)

theorem mapM_eq_ok_iff {request : α → Except ε β} {items : List α} {results : List β} :
    items.mapM request = .ok results ↔
      List.Forall₂ (fun item result => request item = .ok result) items results := by
  induction items generalizing results with
  | nil => simp [pure, Except.pure, eq_comm]
  | cons item rest inductionHypothesis =>
      rw [List.mapM_cons, List.forall₂_cons_left_iff, bind_eq_ok]
      constructor
      · rintro ⟨result, found, remaining⟩
        obtain ⟨others, walked, built⟩ := bind_eq_ok.mp remaining
        exact ⟨result, others, found, inductionHypothesis.mp walked, (Except.ok.inj built).symm⟩
      · rintro ⟨result, others, found, walked, rfl⟩
        exact ⟨result, found, bind_eq_ok.mpr ⟨others, inductionHypothesis.mpr walked, rfl⟩⟩

theorem mapM_answers {request : α → Except ε β} {items : List α}
    (answers : ∀ item ∈ items, ∃ result, request item = .ok result) :
    ∃ results, items.mapM request = .ok results := by
  induction items with
  | nil => exact ⟨[], rfl⟩
  | cons item rest inductionHypothesis =>
      obtain ⟨result, found⟩ := answers item (by simp)
      obtain ⟨results, walked⟩ :=
        inductionHypothesis fun other inside => answers other (by simp [inside])
      exact ⟨result :: results, mapM_eq_ok_iff.mpr (.cons found (mapM_eq_ok_iff.mp walked))⟩

theorem mapM_eq_some_iff {request : α → Option β} {items : List α} {results : List β} :
    items.mapM request = some results ↔
      List.Forall₂ (fun item result => request item = some result) items results := by
  induction items generalizing results with
  | nil => simp [pure, eq_comm]
  | cons item rest inductionHypothesis =>
      rw [List.mapM_cons, List.forall₂_cons_left_iff]
      simp only [bind, Option.bind_eq_some_iff, pure, Option.some.injEq]
      constructor
      · rintro ⟨result, found, others, walked, built⟩
        exact ⟨result, others, found, inductionHypothesis.mp walked, built.symm⟩
      · rintro ⟨result, others, found, walked, rfl⟩
        exact ⟨result, found, others, inductionHypothesis.mpr walked, rfl⟩

theorem mapM_some_answers {request : α → Option β} {items : List α}
    (answers : ∀ item ∈ items, ∃ result, request item = some result) :
    ∃ results, items.mapM request = some results := by
  induction items with
  | nil => exact ⟨[], rfl⟩
  | cons item rest inductionHypothesis =>
      obtain ⟨result, found⟩ := answers item (by simp)
      obtain ⟨results, walked⟩ :=
        inductionHypothesis fun other inside => answers other (by simp [inside])
      exact ⟨result :: results, mapM_eq_some_iff.mpr (.cons found (mapM_eq_some_iff.mp walked))⟩

theorem filterMapM_ok {request : α → Except ε (Option β)} {result : α → Option β}
    {items : List α} (results : ∀ item ∈ items, request item = .ok (result item)) :
    items.filterMapM request = .ok (items.filterMap result) := by
  induction items with
  | nil => rfl
  | cons item rest inductionHypothesis =>
      have others := inductionHypothesis fun other member => results other (by simp [member])
      rw [List.filterMapM_cons, results item (by simp), List.filterMap_cons]
      cases result item with
      | none => exact others
      | some made => simp [others, bind, Except.bind, pure, Except.pure]

theorem filterMapM_congr {request other : α → Except ε (Option β)} {items : List α}
    (agree : ∀ item ∈ items, request item = other item) :
    items.filterMapM request = items.filterMapM other := by
  induction items with
  | nil => rfl
  | cons item rest inductionHypothesis =>
      rw [List.filterMapM_cons, List.filterMapM_cons, agree item (by simp),
        inductionHypothesis fun next inside => agree next (by simp [inside])]

/-- What a walk keeps are the results of its requests, in their order. -/
private theorem eq_of_filterMapM {request : α → Except ε (Option β)} {items : List α}
    {kept : List β} (walked : items.filterMapM request = .ok kept) :
    kept = items.filterMap fun item => (request item).toOption.join := by
  induction items generalizing kept with
  | nil =>
      cases walked
      rfl
  | cons item rest inductionHypothesis =>
      rw [List.filterMapM_cons] at walked
      obtain ⟨outcome, found, remaining⟩ := bind_eq_ok.mp walked
      rw [List.filterMap_cons, found]
      cases outcome with
      | none => exact inductionHypothesis remaining
      | some first =>
          obtain ⟨others, othersAre, same⟩ := bind_eq_ok.mp remaining
          cases same
          exact congrArg (first :: ·) (inductionHypothesis othersAre)

theorem toOption_eq_some {answer : Except ε α} {result : α} :
    answer.toOption = some result ↔ answer = .ok result := by
  cases answer <;> simp [Except.toOption]

theorem eq_ok_get {answer : Except ε α} (known : answer.toOption.isSome = true) :
    answer = .ok (answer.toOption.get known) :=
  toOption_eq_some.mp (Option.some_get known).symm

private theorem toOption_join_eq_some {answer : Except ε (Option β)} {result : β} :
    answer.toOption.join = some result ↔ answer = .ok (some result) := by
  cases answer <;> simp [Except.toOption]

/-- A walk keeps nothing but results of its requests. -/
theorem exists_of_mem_filterMapM {request : α → Except ε (Option β)} {items : List α}
    {kept : List β} (walked : items.filterMapM request = .ok kept) {result : β}
    (inside : result ∈ kept) : ∃ item ∈ items, request item = .ok (some result) := by
  rw [eq_of_filterMapM walked, List.mem_filterMap] at inside
  obtain ⟨item, isItem, made⟩ := inside
  exact ⟨item, isItem, toOption_join_eq_some.mp made⟩

/-- A walk whose requests all have results keeps just what they keep. -/
theorem filterMapM_answers {request : α → Except ε (Option β)} {items : List α}
    (answers : ∀ item ∈ items, ∃ outcome, request item = .ok outcome) :
    ∃ kept, items.filterMapM request = .ok kept ∧
      ∀ result, result ∈ kept ↔ ∃ item ∈ items, request item = .ok (some result) := by
  have results : ∀ item ∈ items, request item = .ok ((request item).toOption.join) := by
    intro item inside
    obtain ⟨outcome, isOutcome⟩ := answers item inside
    rw [isOutcome]
    rfl
  refine ⟨_, filterMapM_ok results, fun result => ?_⟩
  simp only [List.mem_filterMap, toOption_join_eq_some]

/-! ## The first fault -/

def error? : Except ε α → Option ε
  | .ok _ => none
  | .error fault => some fault

theorem error?_eq_none {answer : Except ε α} :
    error? answer = none ↔ ∃ result, answer = .ok result := by
  cases answer <;> simp [error?]

theorem error?_eq_some {answer : Except ε α} {fault : ε} :
    error? answer = some fault ↔ answer = .error fault := by
  cases answer <;> simp [error?]

theorem error?_map (answer : Except ε α) (change : α → β) :
    error? (answer.map change) = error? answer := by
  cases answer <;> rfl

theorem error?_bind_pure (answer : Except ε α) (change : α → β) :
    error? (answer >>= fun result => pure (change result)) = error? answer := by
  cases answer <;> rfl

/-- A walk fails with the fault of its first request that fails. -/
theorem error?_mapM (request : α → Except ε β) (items : List α) :
    error? (items.mapM request) = items.findSome? fun item => error? (request item) := by
  induction items with
  | nil => rfl
  | cons item rest inductionHypothesis =>
      rw [List.mapM_cons, List.findSome?_cons]
      cases request item with
      | error fault => rfl
      | ok result =>
          rw [ok_bind, error?_bind_pure, inductionHypothesis]
          rfl

theorem error?_filterMapM (request : α → Except ε (Option β)) (items : List α) :
    error? (items.filterMapM request) = items.findSome? fun item => error? (request item) := by
  induction items with
  | nil => rfl
  | cons item rest inductionHypothesis =>
      rw [List.filterMapM_cons, List.findSome?_cons]
      cases request item with
      | error fault => rfl
      | ok outcome =>
          rw [ok_bind]
          cases outcome with
          | none => exact inductionHypothesis
          | some result => exact (error?_bind_pure _ _).trans inductionHypothesis

/-! ## Confined faults -/

/-- Every fault that a computation may end with has a property. -/
def Confined (property : ε → Prop) (answer : Except ε α) : Prop :=
  ∀ fault, answer = .error fault → property fault

namespace Confined

variable {property : ε → Prop} {answer : Except ε α}

theorem ok (value : α) : Confined property (.ok value : Except ε α) := by
  intro fault isFault
  cases isFault

theorem error {fault : ε} (holds : property fault) :
    Confined property (.error fault : Except ε α) := by
  intro other isFault
  cases isFault
  exact holds

theorem of_answers (answers : ∃ value, answer = .ok value) : Confined property answer := by
  obtain ⟨value, rfl⟩ := answers
  exact ok value

/-- Where no fault has the property, there is an answer. -/
theorem answers (confined : Confined property answer) (none : ∀ fault, ¬ property fault) :
    ∃ value, answer = .ok value := by
  cases answer with
  | error fault => exact absurd (confined fault rfl) (none fault)
  | ok value => exact ⟨value, rfl⟩

theorem bind {first : Except ε α} {next : α → Except ε β} (begins : Confined property first)
    (continues : ∀ value, first = .ok value → Confined property (next value)) :
    Confined property (first >>= next) := by
  cases first with
  | error fault =>
      intro other isFault
      cases isFault
      exact begins fault rfl
  | ok value => exact continues value rfl

theorem imp {other : ε → Prop} (confined : Confined property answer)
    (implies : ∀ fault, property fault → other fault) : Confined other answer :=
  fun fault isFault => implies fault (confined fault isFault)

theorem map (confined : Confined property answer) (change : α → β) :
    Confined property (answer.map change) :=
  confined.bind fun value _ => ok (change value)

theorem mapError {δ : Type} {other : δ → Prop} {change : ε → δ}
    (confined : Confined property answer)
    (carries : ∀ fault, property fault → other (change fault)) :
    Confined other (answer.mapError change) := by
  cases answer with
  | error fault =>
      intro changed isFault
      cases isFault
      exact carries fault (confined fault rfl)
  | ok value => exact ok value

theorem mapM {request : α → Except ε β} {items : List α}
    (each : ∀ item ∈ items, Confined property (request item)) :
    Confined property (items.mapM request) := by
  intro fault failed
  rw [← error?_eq_some, error?_mapM] at failed
  obtain ⟨item, inside, itemFailed⟩ := List.exists_of_findSome?_eq_some failed
  exact each item inside fault (error?_eq_some.mp itemFailed)

theorem filterMapM {request : α → Except ε (Option β)} {items : List α}
    (each : ∀ item ∈ items, Confined property (request item)) :
    Confined property (items.filterMapM request) := by
  intro fault failed
  rw [← error?_eq_some, error?_filterMapM] at failed
  obtain ⟨item, inside, itemFailed⟩ := List.exists_of_findSome?_eq_some failed
  exact each item inside fault (error?_eq_some.mp itemFailed)

theorem anyM {question : α → Except ε Bool} {items : List α}
    (each : ∀ item ∈ items, Confined property (question item)) :
    Confined property (items.anyM question) := by
  induction items with
  | nil => exact ok false
  | cons item rest inductionHypothesis =>
      rw [List.anyM]
      refine (each item (by simp)).bind fun found _ => ?_
      cases found with
      | true => exact ok true
      | false => exact inductionHypothesis fun other inside => each other (by simp [inside])

theorem allM {question : α → Except ε Bool} {items : List α}
    (each : ∀ item ∈ items, Confined property (question item)) :
    Confined property (items.allM question) := by
  induction items with
  | nil => exact ok true
  | cons item rest inductionHypothesis =>
      rw [List.allM]
      refine (each item (by simp)).bind fun holds _ => ?_
      cases holds with
      | false => exact ok false
      | true => exact inductionHypothesis fun other inside => each other (by simp [inside])

private theorem filterAuxM {question : α → Except ε Bool} {items : List α}
    (each : ∀ item ∈ items, Confined property (question item)) (kept : List α) :
    Confined property (List.filterAuxM question items kept) := by
  induction items generalizing kept with
  | nil => exact ok kept
  | cons item rest inductionHypothesis =>
      rw [List.filterAuxM]
      refine (each item (by simp)).bind fun keeps _ => ?_
      exact inductionHypothesis (fun other inside => each other (by simp [inside])) _

theorem filterM {question : α → Except ε Bool} {items : List α}
    (each : ∀ item ∈ items, Confined property (question item)) :
    Confined property (items.filterM question) := by
  rw [List.filterM]
  exact (filterAuxM each []).bind fun kept _ => ok kept.reverse

end Confined

/-! ## Lists related item by item -/

variable {relation : α → β → Prop} {items : List α} {others : List β}

/-- Related items are items of their lists. -/
theorem forall₂_mem (related : List.Forall₂ relation items others) :
    List.Forall₂ (fun item other => item ∈ items ∧ relation item other) items others := by
  induction related with
  | nil => exact .nil
  | cons holds _ inductionHypothesis =>
      exact .cons ⟨List.mem_cons_self, holds⟩
        (inductionHypothesis.imp fun _ _ both => ⟨List.mem_cons_of_mem _ both.1, both.2⟩)

/-- Items with common partners are related if every two of them with one partner are. -/
theorem forall₂_of_common {γ : Type} {other : γ → β → Prop} {between : α → γ → Prop}
    {seconds : List γ} (first : List.Forall₂ relation items others)
    (second : List.Forall₂ other seconds others)
    (joins : ∀ item next partner, relation item partner → other next partner →
      between item next) : List.Forall₂ between items seconds := by
  induction first generalizing seconds with
  | nil =>
      rw [List.forall₂_nil_right_iff.mp second]
      exact .nil
  | cons holds _ inductionHypothesis =>
      obtain ⟨next, rest, nextHolds, later, rfl⟩ := List.forall₂_cons_right_iff.mp second
      exact .cons (joins _ next _ holds nextHolds) (inductionHypothesis later)

/-- Two walks over related items, where one question has the answer of the other with its
fault changed. -/
theorem allM_mapError {δ : Type} {change : ε → δ} {question : α → Except ε Bool}
    {other : β → Except δ Bool} (related : List.Forall₂ relation items others)
    (agree : ∀ item ∈ items, ∀ partner, relation item partner →
      other partner = (question item).mapError change) :
    others.allM other = (items.allM question).mapError change := by
  induction related with
  | nil => rfl
  | @cons item partner rest partners holds _ inductionHypothesis =>
      have later := inductionHypothesis fun next inside => agree next (by simp [inside])
      rw [List.allM, List.allM, agree item (by simp) partner holds]
      cases question item with
      | error fault => rfl
      | ok answer =>
          cases answer with
          | true => exact later
          | false => rfl

theorem exists_of_mem_left (related : List.Forall₂ relation items others) {item : α}
    (inside : item ∈ items) : ∃ other ∈ others, relation item other := by
  induction related with
  | nil => cases inside
  | cons holds _ inductionHypothesis =>
      rcases List.mem_cons.mp inside with rfl | inRest
      · exact ⟨_, by simp, holds⟩
      · obtain ⟨other, isOther, otherHolds⟩ := inductionHypothesis inRest
        exact ⟨other, by simp [isOther], otherHolds⟩

theorem exists_of_mem_right (related : List.Forall₂ relation items others) {other : β}
    (inside : other ∈ others) : ∃ item ∈ items, relation item other :=
  exists_of_mem_left related.flip inside

end StaticDispatch.Traversal
