import StaticDispatch.Candidate.Order
import StaticDispatch.Proofs.Registry

/-!
Contract: the order of lists of specializers, place by place.

A list outranks another one if it demands more at the first place where they
differ. This is a strict order. The relation by which candidates are sorted passes
over places that do not decide and need not be one; but where no undecided place
is met first, it agrees with outranking.

Owns: outranking, and what the two walks over the places answer.
Does not own: sorting.
-/

namespace StaticDispatch

/-- The first list demands more at the first place where the two differ. -/
inductive Outranks (table : TypeTable) : List Specializer → List Specializer → Prop where
  | here {first second : Specializer} {firsts seconds : List Specializer}
      (more : Specializer.MoreSpecific table first second) :
      Outranks table (first :: firsts) (second :: seconds)
  | further {first second : Specializer} {firsts seconds : List Specializer}
      (equal : (first == second) = true) (rest : Outranks table firsts seconds) :
      Outranks table (first :: firsts) (second :: seconds)

def AllGrounded (table : TypeTable) (specializers : List Specializer) : Prop :=
  ∀ specializer ∈ specializers, specializer.Grounded table

variable {table : TypeTable} {firsts seconds thirds : List Specializer}

theorem AllGrounded.head {specializer : Specializer}
    (grounded : AllGrounded table (specializer :: firsts)) : specializer.Grounded table :=
  grounded specializer (by simp)

theorem AllGrounded.tail {specializer : Specializer}
    (grounded : AllGrounded table (specializer :: firsts)) : AllGrounded table firsts :=
  fun other inside => grounded other (by simp [inside])

namespace Outranks

theorem trans (mirrors : table.Mirrors) (grounded : AllGrounded table firsts)
    (before : Outranks table firsts seconds) (after : Outranks table seconds thirds) :
    Outranks table firsts thirds := by
  induction before generalizing thirds with
  | here more =>
      cases after with
      | here otherMore =>
          exact .here (more.trans mirrors grounded.head otherMore)
      | further equal rest => exact .here (more.congr_right equal)
  | further equal rest inductionHypothesis =>
      cases after with
      | here otherMore => exact .here (.congr_left equal otherMore)
      | further otherEqual otherRest =>
          exact .further (Specializer.beq_trans equal otherEqual)
            (inductionHypothesis grounded.tail otherRest)

theorem not_sameKey (outranks : Outranks table firsts seconds) : ¬ SameKey firsts seconds := by
  intro same
  induction outranks with
  | here more =>
      cases same with
      | cons equal _ =>
          rw [more.not_beq] at equal
          cases equal
  | further _ _ inductionHypothesis =>
      cases same with
      | cons _ rest => exact inductionHypothesis rest

theorem irrefl : ¬ Outranks table firsts firsts := by
  intro outranks
  exact outranks.not_sameKey (SameKey.refl firsts)

theorem asymm (mirrors : table.Mirrors) (grounded : AllGrounded table firsts)
    (before : Outranks table firsts seconds) : ¬ Outranks table seconds firsts := by
  intro after
  exact irrefl (trans mirrors grounded before after)

end Outranks

namespace Candidate

inductive Walked (table : TypeTable) (firsts seconds : List Specializer) :
    (isMore undecided : Bool) → Prop where
  | more (outranks : Outranks table firsts seconds) : Walked table firsts seconds true false
  | less (outranks : Outranks table seconds firsts) : Walked table firsts seconds false false
  | same (same : SameKey firsts seconds) : Walked table firsts seconds false false
  | undecided (isMore : Bool) (neither : ¬ Outranks table firsts seconds) :
      Walked table firsts seconds isMore true

/-- **Both walks have an answer**, and where no undecided place is met first they
say which list outranks the other. -/
theorem walks_spec (mirrors : table.Mirrors) (sameLength : firsts.length = seconds.length)
    (firstGrounded : AllGrounded table firsts) (secondGrounded : AllGrounded table seconds) :
    ∃ isMore undecided, isMoreSpecificAt table (firsts.zip seconds) = .ok isMore ∧
      meetsUndecided table (firsts.zip seconds) = .ok undecided ∧
      Walked table firsts seconds isMore undecided := by
  induction firsts generalizing seconds with
  | nil =>
      cases seconds with
      | nil => exact ⟨false, false, rfl, rfl, .same .nil⟩
      | cons second seconds => cases sameLength
  | cons first firsts inductionHypothesis =>
      cases seconds with
      | nil => cases sameLength
      | cons second seconds =>
          obtain ⟨outcome, compared, means⟩ :=
            Specializer.compareAt_spec mirrors firstGrounded.head secondGrounded.head
          obtain ⟨isMore, undecided, restMore, restUndecided, walked⟩ :=
            inductionHypothesis (Nat.succ.inj sameLength) firstGrounded.tail secondGrounded.tail
          simp only [List.zip_cons_cons, isMoreSpecificAt, meetsUndecided, compared,
            Traversal.ok_bind, Traversal.pure_eq_ok]
          cases means with
          | more holds => exact ⟨true, false, rfl, rfl, .more (.here holds)⟩
          | less holds => exact ⟨false, false, rfl, rfl, .less (.here holds)⟩
          | incomparable different notMore _ =>
              refine ⟨isMore, true, restMore, rfl, .undecided isMore ?_⟩
              rintro (more | ⟨equal, -⟩)
              · exact notMore more
              · rw [different] at equal
                cases equal
          | equal holds =>
              refine ⟨isMore, undecided, restMore, restUndecided, ?_⟩
              cases walked with
              | more outranks => exact .more (.further holds outranks)
              | less outranks => exact .less (.further (Specializer.beq_comm _ _ ▸ holds) outranks)
              | same same => exact .same (.cons holds same)
              | undecided isMore neither =>
                  refine .undecided isMore ?_
                  rintro (more | ⟨-, rest⟩)
                  · rw [more.not_beq] at holds
                    cases holds
                  · exact neither rest

/-- Meeting an undecided place first does not depend on the order of the lists. -/
theorem meetsUndecided_comm (mirrors : table.Mirrors) (sameLength : firsts.length = seconds.length)
    (firstGrounded : AllGrounded table firsts) (secondGrounded : AllGrounded table seconds) :
    meetsUndecided table (firsts.zip seconds) = meetsUndecided table (seconds.zip firsts) := by
  induction firsts generalizing seconds with
  | nil =>
      cases seconds with
      | nil => rfl
      | cons second seconds => cases sameLength
  | cons first firsts inductionHypothesis =>
      cases seconds with
      | nil => cases sameLength
      | cons second seconds =>
          have rest := inductionHypothesis (Nat.succ.inj sameLength) firstGrounded.tail
            secondGrounded.tail
          obtain ⟨outcome, compared, -⟩ :=
            Specializer.compareAt_spec mirrors firstGrounded.head secondGrounded.head
          simp only [List.zip_cons_cons, meetsUndecided, compared, rest,
            Specializer.compareAt_swap mirrors firstGrounded.head secondGrounded.head compared,
            Traversal.ok_bind]
          cases outcome <;> rfl

end Candidate

end StaticDispatch
