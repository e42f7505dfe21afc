import StaticDispatch.Dispatch
import StaticDispatch.Proofs.Candidate.Collection

/-!
Contract: dynamic dispatch finds the satisfied methods, the nearest one first.

For consistent arguments the applicable methods are exactly those that the
arguments satisfy. Where one method outranks another and both name class types, it
is nearer to all arguments that satisfy both, so a satisfied method that outranks
all others comes first.

Owns: acceptance, distances, and the first of the applicable methods.
Does not own: static resolution.
-/

namespace StaticDispatch

open Candidate (Classified)

variable {table later : TypeTable} {generic : GenericFunction} {permutation : List Nat}
  {types : List TypeId} {arguments ordered : List Value}

/-- A specializer that asks for a class of the table: nothing, a value of a class
that exists, or a class type. -/
def Specializer.Nominal (table : TypeTable) : Specializer → Prop
  | .any => True
  | .exactly wanted => table.classes.Knows wanted.cls
  | .ofType id => ∃ cls, table.hostAt? id = some cls

theorem Specializer.Nominal.grounded {specializer : Specializer}
    (nominal : specializer.Nominal table) (mirrors : table.Mirrors) :
    specializer.Grounded table := by
  cases specializer with
  | any => trivial
  | exactly wanted => exact nominal
  | ofType id =>
      obtain ⟨cls, host⟩ := nominal
      obtain ⟨name, supertypes, found⟩ := TypeTable.hostAt?_eq_some_iff.mp host
      exact ⟨⟨_, found⟩, mirrors.holdsOnce found rfl⟩

theorem Specializer.Nominal.extend {specializer : Specializer}
    (nominal : specializer.Nominal table) (growth : table.Extends later) :
    specializer.Nominal later := by
  cases specializer with
  | any => trivial
  | exactly wanted => exact growth.classes.knows nominal
  | ofType id =>
      obtain ⟨cls, host⟩ := nominal
      exact ⟨cls, growth.hostAt? host⟩

instance (table : TypeTable) : (specializer : Specializer) → Decidable (specializer.Nominal table)
  | .any => inferInstanceAs (Decidable True)
  | .exactly wanted => inferInstanceAs (Decidable (table.classes.Knows wanted.cls))
  | .ofType _ => decidable_of_iff _ Option.isSome_iff_exists

def AllNominal (table : TypeTable) (specializers : List Specializer) : Prop :=
  ∀ specializer ∈ specializers, specializer.Nominal table

instance (table : TypeTable) (specializers : List Specializer) :
    Decidable (AllNominal table specializers) :=
  inferInstanceAs (Decidable (∀ specializer ∈ _, _))

namespace Dispatch

/-! ## Distances -/

def distanceOf (later : TypeTable) (value : Value) : Specializer → Nat × Nat
  | .exactly _ => (0, 0)
  | .any => (2, 0)
  | .ofType id =>
      match later.hostAt? id with
      | none => (1, 0)
      | some host => (1, (later.classes.linearization value.cls).idxOf host)

private theorem distance_eq {specializer : Specializer} (isDefined : specializer.Defined later)
    (value : Value) :
    distance later specializer value = .ok (distanceOf later value specializer) := by
  cases specializer with
  | any => rfl
  | exactly wanted => rfl
  | ofType id =>
      obtain ⟨definition, found⟩ := isDefined
      simp only [distance, TypeTable.host?, TypeTable.get_of_find? found, Except.map,
        Traversal.ok_bind, Traversal.pure_eq_ok, distanceOf, TypeTable.hostAt?, found,
        Option.bind_some]
      cases definition.host? <;> rfl

theorem distanceOf_fst (value : Value) (specializer : Specializer) :
    (distanceOf later value specializer).1 = 2 - specializer.rank := by
  cases specializer with
  | any => rfl
  | exactly wanted => rfl
  | ofType id =>
      simp only [distanceOf, Specializer.rank]
      cases later.hostAt? id <;> rfl

private theorem distanceOf_eq_of_beq {first second : Specializer} (equal : (first == second) = true)
    (value : Value) : distanceOf later value first = distanceOf later value second := by
  rw [Specializer.beq_iff] at equal
  cases first <;> cases second <;> simp_all [Specializer.eql, distanceOf]

def compareDistance : Nat × Nat → Nat × Nat → Ordering :=
  compareLex (compareOn Prod.fst) (compareOn Prod.snd)

/-- The class of a type that a value meets is one of the classes above the value. -/
theorem mem_linearization_of_isMet {id : TypeId} {cls : ClassId} {value : Value}
    (host : later.hostAt? id = some cls)
    (met : Specializer.isMet later value (.ofType id) = true) :
    cls ∈ later.classes.linearization value.cls := by
  obtain ⟨name, supertypes, found⟩ := TypeTable.hostAt?_eq_some_iff.mp host
  simp only [Specializer.isMet, found, Option.any_some, TypeTable.demand_of_hostAt? found host,
    TypeTable.Demand.isMet, Bool.and_eq_true, Value.isInstanceOf, Hierarchy.isSubclass_iff] at met
  exact met.1

/-- **A more specific specializer is nearer** to a value that meets it. -/
theorem compareDistance_of_moreSpecific (mirrors : table.Mirrors) (growth : table.Extends later)
    (laterWellFormed : later.classes.WellFormed) {first second : Specializer} {value : Value}
    (firstNominal : first.Nominal table) (secondNominal : second.Nominal table)
    (met : first.isMet later value = true)
    (more : Specializer.MoreSpecific table first second) :
    compareDistance (distanceOf later value first) (distanceOf later value second) = .lt := by
  simp only [compareDistance, compareLex, compareOn]
  cases more with
  | rank outranks =>
      have nearer : (distanceOf later value first).1 < (distanceOf later value second).1 := by
        rw [distanceOf_fst, distanceOf_fst]
        have atMostTwo := first.rank_le_two
        omega
      rw [Nat.compare_eq_lt.mpr nearer]
      rfl
  | below different isBelow =>
      rename_i lower upper
      obtain ⟨lowerCls, lowerHost⟩ := firstNominal
      obtain ⟨upperCls, upperHost⟩ := secondNominal
      obtain ⟨lowerDef, upperDef, lowerFound, upperFound, implied⟩ :=
        TypeTable.isBelow_iff.mp isBelow
      rw [TypeTable.demand_of_hostAt? lowerFound lowerHost,
        TypeTable.demand_of_hostAt? upperFound upperHost] at implied
      simp only [TypeTable.Demand.implies, Bool.and_eq_true, Hierarchy.isSubclass_iff] at implied
      have proper : upperCls ≠ lowerCls := by
        rintro rfl
        exact different (mirrors.oneHost lower upper _ lowerHost upperHost)
      have below : upperCls ∈ later.classes.linearization lowerCls := by
        rw [growth.classes.linearization_eq (mirrors.knows_of_hostAt? lowerHost).1]
        exact implied.1
      have inside := mem_linearization_of_isMet (growth.hostAt? lowerHost) met
      simp only [distanceOf, growth.hostAt? lowerHost, growth.hostAt? upperHost]
      rw [Nat.compare_eq_lt.mpr (laterWellFormed.idxOf_lt inside below proper)]
      simp

theorem compareDistances_eq (first second : List (Nat × Nat)) :
    compareDistances first second = List.compareLex compareDistance first second := by
  induction first generalizing second with
  | nil => cases second <;> rfl
  | cons nearest rest inductionHypothesis =>
      cases second with
      | nil => rfl
      | cons other others =>
          rw [compareDistances, inductionHypothesis, List.compareLex_cons_cons,
            ← Ordering.then_assoc]
          rfl

def distancesOf (later : TypeTable) (specializers : List Specializer) (ordered : List Value) :
    List (Nat × Nat) :=
  (specializers.zip ordered).map fun (specializer, value) => distanceOf later value specializer

/-- **A list that outranks another one is nearer** to values that satisfy it. -/
theorem compareDistances_of_outranks (mirrors : table.Mirrors) (growth : table.Extends later)
    (laterWellFormed : later.classes.WellFormed) {firsts seconds : List Specializer}
    (firstNominal : AllNominal table firsts) (secondNominal : AllNominal table seconds)
    (enough : firsts.length ≤ ordered.length)
    (met : (firsts.zip ordered).all (fun (specializer, value) => specializer.isMet later value) =
      true)
    (outranks : Outranks table firsts seconds) :
    compareDistances (distancesOf later firsts ordered) (distancesOf later seconds ordered) =
      .lt := by
  induction outranks generalizing ordered with
  | here more =>
      obtain ⟨value, values, rfl⟩ :=
        List.exists_cons_of_length_pos (Nat.lt_of_lt_of_le (by simp) enough)
      rw [List.zip_cons_cons, List.all_cons, Bool.and_eq_true] at met
      have nearer := compareDistance_of_moreSpecific mirrors growth laterWellFormed
        (firstNominal _ (by simp)) (secondNominal _ (by simp)) met.1 more
      simp only [compareDistances_eq, distancesOf, List.zip_cons_cons, List.map_cons,
        List.compareLex_cons_cons, nearer]
      rfl
  | further equal rest inductionHypothesis =>
      obtain ⟨value, values, rfl⟩ :=
        List.exists_cons_of_length_pos (Nat.lt_of_lt_of_le (by simp) enough)
      rw [List.zip_cons_cons, List.all_cons, Bool.and_eq_true] at met
      have nearer := inductionHypothesis (fun other inside => firstNominal other (by simp [inside]))
        (fun other inside => secondNominal other (by simp [inside])) (by simpa using enough) met.2
      simp only [distancesOf, compareDistances, List.zip_cons_cons, List.map_cons,
        distanceOf_eq_of_beq equal] at nearer ⊢
      simp [nearer]

/-! ## The order of matches -/

namespace Match

variable {first second third : Match} {found : List Match}

/-- The order of matches: by distances, then by registration. -/
def order : Match → Match → Ordering :=
  compareLex (fun first second => List.compareLex compareDistance first.distances second.distances)
    (compareOn (·.method.ordinal))

private theorem precedes_eq : precedes first second = (order first second).isLE := by
  rw [precedes, compareDistances_eq]
  rfl

instance : Std.TransCmp compareDistance :=
  inferInstanceAs (Std.TransCmp (compareLex (compareOn Prod.fst) (compareOn Prod.snd)))

instance : Std.TransCmp fun first second : Match =>
    List.compareLex compareDistance first.distances second.distances where
  eq_swap := Std.OrientedCmp.eq_swap
  isLE_trans := Std.TransCmp.isLE_trans

instance : Std.TransCmp order := by
  unfold order
  infer_instance

/-- Matches are tried in their order. -/
theorem pairwise_mergeSort (found : List Match) :
    (found.mergeSort precedes).Pairwise fun first second => precedes first second = true := by
  apply List.pairwise_mergeSort
  · intro first second third before after
    rw [precedes_eq] at before after ⊢
    exact Std.TransCmp.isLE_trans before after
  · intro first second
    have swapped : order second first = (order first second).swap := Std.OrientedCmp.eq_swap
    rw [precedes_eq, precedes_eq, swapped]
    cases order first second <;> rfl

/-- The nearest of some matches comes first. -/
private theorem head?_mergeSort {best : Match} (inside : best ∈ found)
    (nearest : ∀ other ∈ found, other = best ∨ order best other = .lt) :
    (found.mergeSort precedes).head? = some best := by
  have sorted := pairwise_mergeSort found
  have same := List.mergeSort_perm found precedes
  have insideSorted := same.mem_iff.mpr inside
  generalize found.mergeSort precedes = matched at sorted same insideSorted ⊢
  cases matched with
  | nil => cases insideSorted
  | cons head tail =>
      rcases nearest head (same.mem_iff.mp (by simp)) with isBest | nearer
      · rw [isBest, List.head?_cons]
      · -- The head is no further away than the nearest match, which stands behind it.
        rcases List.mem_cons.mp insideSorted with isHead | inTail
        · rw [isHead, List.head?_cons]
        · have first := (List.pairwise_cons.mp sorted).1 best inTail
          rw [precedes_eq, Std.OrientedCmp.gt_of_lt nearer] at first
          cases first

end Match

end Dispatch

/-! ## Applicable methods -/

private theorem zip_take_length {α β : Type} (items : List α) (others : List β) :
    items.zip (others.take items.length) = items.zip others := by
  induction items generalizing others with
  | nil => rfl
  | cons item rest inductionHypothesis =>
      cases others with
      | nil => rfl
      | cons other others => simp [inductionHypothesis]

/-- The match of a candidate that the arguments satisfy. -/
def Candidate.toMatch (later : TypeTable) (ordered : List Value) (candidate : Candidate) :
    Dispatch.Match where
  distances := Dispatch.distancesOf later candidate.specializers ordered
  method := candidate.method

namespace Dispatch

section Methods

variable {method : Method} {required : List Value} {specializers : List Specializer}

/-- A method is accepted exactly if each argument meets its specializer. -/
theorem accepts_eq_all (mirrors : later.Mirrors)
    (known : ∀ value ∈ required, later.classes.Knows value.cls)
    (defined : ∀ specializer ∈ method.specializers, specializer.Defined later) :
    accepts later method required = .ok ((method.specializers.zip required).all
      fun (specializer, value) => specializer.isMet later value) := by
  apply Traversal.allM_ok
  rintro ⟨specializer, value⟩ inside
  obtain ⟨isSpecializer, isArgument⟩ := List.of_mem_zip inside
  exact Specializer.isMatch_eq mirrors (known value isArgument) (defined specializer isSpecializer)

/-- The match of an accepted method has its distances in precedence order. -/
theorem match?_of_accepts {met : Bool} (accepted : accepts later method required = .ok met)
    (arranged : Precedence.toPrecedence? permutation method.specializers = some specializers)
    (requiredArranged : Precedence.toPrecedence? permutation required = some ordered)
    (defined : ∀ specializer ∈ specializers, specializer.Defined later) :
    match? later permutation required method = .ok (if met then
      some { distances := distancesOf later specializers ordered, method } else none) := by
  have measured : (specializers.zip ordered).mapM (fun (specializer, argument) =>
      distance later specializer argument) = .ok (distancesOf later specializers ordered) := by
    apply Traversal.mapM_ok
    rintro ⟨specializer, value⟩ inside
    exact distance_eq (defined specializer (List.of_mem_zip inside).1) value
  rw [match?, accepted]
  cases met with
  | false => rfl
  | true =>
      simp only [arranged, requiredArranged, measured]
      rfl

end Methods

section Situated

variable {candidate best : Candidate}
  (situation : Situation table later generic permutation types arguments ordered)

include situation

/-- Precedence only looks at the required arguments. -/
theorem toPrecedence?_required :
    Precedence.toPrecedence? permutation (arguments.take generic.arity) = some ordered := by
  rw [Precedence.toPrecedence?_take fun place isPlace =>
    List.mem_range.mp (situation.site.perm_range.mem_iff.mp isPlace)]
  exact situation.consistent.arranged

theorem length_required : (arguments.take generic.arity).length = generic.arity := by
  rw [List.length_take, Nat.min_eq_left (Precedence.le_length_of_toPrecedence?
    situation.site.perm_range situation.consistent.arranged)]

/-- Acceptance only looks at the required arguments. -/
theorem accepts_required {method : Method} (isMethod : method ∈ generic.methods) :
    accepts later method (arguments.take generic.arity) = accepts later method arguments := by
  rw [accepts, accepts, ← situation.site.wellFormed.lengths method isMethod, zip_take_length]

/-- **Dynamic dispatch accepts a method exactly if the arguments satisfy it.** -/
theorem accepts_eq (classified : Classified table permutation types candidate)
    (isMethod : candidate.method ∈ generic.methods) :
    accepts later candidate.method (arguments.take generic.arity) =
      .ok (candidate.isMet later ordered) := by
  have site := situation.site
  have length := site.wellFormed.lengths _ isMethod
  have required := length_required situation
  have rearranged := toPrecedence?_required situation
  have kept := Precedence.perm_of_toPrecedence? (by rw [required]; exact site.perm_range) rearranged
  rw [accepts_eq_all situation.mirrors
    (fun value isArgument => situation.consistent.known value (kept.mem_iff.mpr isArgument))
    fun specializer inside =>
      (site.grounded _ isMethod specializer inside).defined.extend situation.growth]
  congr 1
  exact Precedence.all_zip_eq (by rw [length]; exact site.perm_range)
    (by rw [length, required]) classified.arranged rearranged _

private theorem match?_eq (classified : Classified table permutation types candidate)
    (isMethod : candidate.method ∈ generic.methods) :
    match? later permutation (arguments.take generic.arity) candidate.method =
      .ok (if candidate.isMet later ordered then some (candidate.toMatch later ordered)
        else none) :=
  match?_of_accepts (accepts_eq situation classified isMethod) classified.arranged
    (toPrecedence?_required situation) fun specializer inside =>
      ((classified.suited situation.site isMethod).grounded specializer
        inside).defined.extend situation.growth

/-- Dynamic dispatch sorts the matches of the methods that the arguments satisfy. -/
theorem applicable_eq :
    ∃ found : List Match, applicable later generic arguments =
        .ok ((found.mergeSort Match.precedes).map (·.method)) ∧
      ∀ matched, matched ∈ found ↔ ∃ candidate : Candidate, candidate.method ∈ generic.methods ∧
        Classified table permutation types candidate ∧
        candidate.isMet later ordered = true ∧ candidate.toMatch later ordered = matched := by
  have answers : ∀ method ∈ generic.methods, ∃ outcome,
      match? later permutation (arguments.take generic.arity) method = .ok outcome := by
    intro method isMethod
    obtain ⟨-, candidate, rfl, classified, -⟩ := Candidate.ofMethod?_spec situation.site isMethod
    exact ⟨_, match?_eq situation classified isMethod⟩
  obtain ⟨found, walked, foundIff⟩ := Traversal.filterMapM_answers answers
  refine ⟨found, ?_, fun matched => ?_⟩
  · simp only [applicable, length_required situation, ne_eq, not_true, if_false,
      situation.site.permuted, walked, Traversal.ok_bind, Traversal.pure_eq_ok]
  · rw [foundIff]
    constructor
    · rintro ⟨method, isMethod, isMatch⟩
      obtain ⟨-, candidate, rfl, classified, -⟩ := Candidate.ofMethod?_spec situation.site isMethod
      rw [match?_eq situation classified isMethod, Except.ok.injEq] at isMatch
      split at isMatch
      · rename_i met
        cases isMatch
        exact ⟨candidate, isMethod, classified, met, rfl⟩
      · cases isMatch
    · rintro ⟨candidate, isMethod, classified, met, rfl⟩
      exact ⟨candidate.method, isMethod,
        by rw [match?_eq situation classified isMethod, if_pos met]⟩

/-- Nothing is applicable where the arguments satisfy no method. -/
theorem applicable_eq_nil (unmet : ∀ candidate : Candidate, candidate.method ∈ generic.methods →
      Classified table permutation types candidate → candidate.isMet later ordered = false) :
    applicable later generic arguments = .ok [] := by
  obtain ⟨found, applicableIs, foundIff⟩ := applicable_eq situation
  have nothing : found = [] := by
    apply List.eq_nil_iff_forall_not_mem.mpr
    intro matched inside
    obtain ⟨candidate, isMethod, classified, met, -⟩ := (foundIff matched).mp inside
    rw [unmet candidate isMethod classified] at met
    cases met
  rw [applicableIs, nothing]
  simp

/-- **A satisfied method that outranks every other satisfied one comes first.** -/
theorem applicable_head? (nominal : ∀ method ∈ generic.methods,
      AllNominal table method.specializers)
    (isMethod : best.method ∈ generic.methods)
    (classified : Classified table permutation types best) (met : best.isMet later ordered = true)
    (outranks : ∀ other : Candidate, other.method ∈ generic.methods →
      Classified table permutation types other → other.isMet later ordered = true →
      other.toMatch later ordered = best.toMatch later ordered ∨
        Outranks table best.specializers other.specializers) :
    ∃ methods, applicable later generic arguments = .ok methods ∧
      methods.head? = some best.method := by
  obtain ⟨found, applicableIs, foundIff⟩ := applicable_eq situation
  have allNominal : ∀ {candidate : Candidate}, candidate.method ∈ generic.methods →
      Classified table permutation types candidate → AllNominal table candidate.specializers :=
    fun isMethod classified specializer inside => nominal _ isMethod specializer
      (Precedence.mem_of_toPrecedence? classified.arranged inside)
  have nearest : (found.mergeSort Match.precedes).head? = some (best.toMatch later ordered) := by
    apply Match.head?_mergeSort ((foundIff _).mpr ⟨best, isMethod, classified, met, rfl⟩)
    intro matched inside
    obtain ⟨other, otherMethod, otherClassified, otherMet, rfl⟩ := (foundIff matched).mp inside
    refine (outranks other otherMethod otherClassified otherMet).imp_right fun outranked => ?_
    have nearer := compareDistances_of_outranks situation.site.mirrors situation.growth
      situation.mirrors.wellFormed (allNominal isMethod classified)
      (allNominal otherMethod otherClassified)
      (by rw [(classified.suited situation.site isMethod).length,
        Candidate.length_ordered situation]) met outranked
    rw [compareDistances_eq] at nearer
    simp only [Match.order, compareLex, Candidate.toMatch, nearer]
    rfl
  exact ⟨_, applicableIs, by rw [List.head?_map, nearest]; rfl⟩

end Situated

end Dispatch

end StaticDispatch
