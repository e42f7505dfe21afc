import StaticDispatch.Cascade.Description
import StaticDispatch.Proofs.Declaration.Layout
import StaticDispatch.Proofs.Declaration.Loading
import StaticDispatch.Proofs.Declaration.Names
import StaticDispatch.Proofs.Text.Quoted

/-!
Contract: what the label of a method tells about its specializers.

A label is the name of a function with a list of texts behind it, and each of these
shows where it ends, so the list is read off the label. The first character of a text
says whether it stands for any argument, for a type or a word, for a number or for a
quoted text. So the text tells the specializer, but for one thing: a type may be named
like nil or a truth value is shown.

Owns: the texts of specializers, labels made of them, and specializers of one name.
Does not own: which methods a program declares.
-/

namespace StaticDispatch

open Declaration

/-! ## Lists of texts -/

def labelText (name : String) (texts : List String) : String :=
  let list := String.intercalate ", " texts
  s!"{name}({list})"

/-- What ends a text in a label, or starts a quoted one. -/
def isMark (character : Char) : Bool :=
  [',', ')', '\x27', '"'].contains character

/-- A text without marks, or a quoted one. -/
def EndsItself (text : String) : Prop :=
  (∀ character ∈ text.toList, isMark character = false) ∨ ∃ content, text = Text.quoted content

/-- What stands in a label behind the first text of its list. -/
def behindFirst : List String → List Char
  | [] => [')']
  | text :: rest => ',' :: ' ' :: (text.toList ++ behindFirst rest)

private theorem toList_intercalate_cons (text : String) (rest : List String) :
    (String.intercalate ", " (text :: rest)).toList ++ [')'] =
      text.toList ++ behindFirst rest := by
  induction rest generalizing text with
  | nil => simp [behindFirst]
  | cons next rest inductionHypothesis =>
      rw [String.intercalate_cons_cons, String.toList_append, String.toList_append,
        List.append_assoc, inductionHypothesis, behindFirst, List.append_assoc]
      rfl

private theorem toList_labelText (name : String) (texts : List String) :
    (labelText name texts).toList =
      name.toList ++ '(' :: ((String.intercalate ", " texts).toList ++ [')']) := by
  simp only [labelText, String.toList_append, List.append_assoc]
  rfl

private theorem head_behindFirst (texts : List String) :
    ∃ first rest, behindFirst texts = first :: rest ∧ (first = ',' ∨ first = ')') := by
  cases texts with
  | nil => exact ⟨_, _, rfl, Or.inr rfl⟩
  | cons text rest => exact ⟨_, _, rfl, Or.inl rfl⟩

/-- A text without marks ends where the first mark stands. -/
private theorem unmarked_append_inj {first second : List Char} {texts others : List String}
    (isFirst : ∀ character ∈ first, isMark character = false)
    (isSecond : ∀ character ∈ second, isMark character = false)
    (same : first ++ behindFirst texts = second ++ behindFirst others) : first = second := by
  have stops : ∀ texts : List String, ∀ character ∈ (behindFirst texts).head?,
      (!isMark character) = false := by
    intro texts character isHead
    obtain ⟨mark, rest, whole, isMark⟩ := head_behindFirst texts
    rw [whole] at isHead
    cases isHead
    rcases isMark with rfl | rfl <;> rfl
  have cut := congrArg (List.takeWhile (!isMark ·)) same
  rw [takeWhile_stop (by simpa using isFirst) (stops texts),
    takeWhile_stop (by simpa using isSecond) (stops others)] at cut
  exact cut

/-- A text without marks does not start like a quoted one. -/
theorem unmarked_append_ne {first content : List Char} {texts : List String} {rest : List Char}
    (isFirst : ∀ character ∈ first, isMark character = false) :
    first ++ behindFirst texts ≠ Text.quotedCharacters content ++ rest := by
  intro same
  have quoteIsMark : isMark (Text.quoteFor content) = true := by
    rcases Text.isQuote_quoteFor content with isQuote | isQuote <;> rw [isQuote] <;> rfl
  cases first with
  | nil =>
      obtain ⟨mark, others, whole, isMark⟩ := head_behindFirst texts
      rw [whole] at same
      have isQuote := Text.isQuote_quoteFor content
      rw [← (List.cons.inj same).1] at isQuote
      rcases isMark with rfl | rfl <;> simp at isQuote
  | cons character others =>
      have unmarked := isFirst character (by simp)
      rw [(List.cons.inj same).1, quoteIsMark] at unmarked
      cases unmarked

/-- Where a text ends can be seen from what follows. -/
theorem EndsItself.append_inj {first second : String} {texts others : List String}
    (isFirst : EndsItself first) (isSecond : EndsItself second)
    (same : first.toList ++ behindFirst texts = second.toList ++ behindFirst others) :
    first = second ∧ behindFirst texts = behindFirst others := by
  have equal : first = second := by
    rcases isFirst with unmarked | ⟨content, rfl⟩
    · rcases isSecond with alsoUnmarked | ⟨content, rfl⟩
      · exact String.toList_inj.mp (unmarked_append_inj unmarked alsoUnmarked same)
      · rw [Text.quoted, String.toList_ofList] at same
        exact absurd same (unmarked_append_ne unmarked)
    · rw [Text.quoted, String.toList_ofList] at same
      rcases isSecond with unmarked | ⟨other, rfl⟩
      · exact absurd same.symm (unmarked_append_ne unmarked)
      · rw [Text.quoted, String.toList_ofList] at same
        rw [String.toList_inj.mp (Text.quotedCharacters_append_inj same).1]
  rw [equal] at same
  exact ⟨equal, List.append_cancel_left same⟩

private theorem behindFirst_inj {firsts seconds : List String}
    (areFirsts : ∀ text ∈ firsts, EndsItself text)
    (areSeconds : ∀ text ∈ seconds, EndsItself text)
    (same : behindFirst firsts = behindFirst seconds) : firsts = seconds := by
  induction firsts generalizing seconds with
  | nil =>
      cases seconds with
      | nil => rfl
      | cons second seconds => simp [behindFirst] at same
  | cons first firsts inductionHypothesis =>
      cases seconds with
      | nil => simp [behindFirst] at same
      | cons second seconds =>
          simp only [behindFirst, List.cons.injEq, true_and] at same
          obtain ⟨rfl, rest⟩ :=
            (areFirsts first (by simp)).append_inj (areSeconds second (by simp)) same
          rw [inductionHypothesis (fun text inside => areFirsts text (by simp [inside]))
            (fun text inside => areSeconds text (by simp [inside])) rest]

/-- **A label tells its list of texts, if their number is known.** -/
theorem labelText_inj {name : String} {firsts seconds : List String}
    (areFirsts : ∀ text ∈ firsts, EndsItself text)
    (areSeconds : ∀ text ∈ seconds, EndsItself text) (lengths : firsts.length = seconds.length)
    (same : labelText name firsts = labelText name seconds) : firsts = seconds := by
  have lists := congrArg String.toList same
  rw [toList_labelText, toList_labelText] at lists
  have inside := (List.cons.inj (List.append_cancel_left lists)).2
  cases firsts with
  | nil => exact (List.length_eq_zero_iff.mp lengths.symm).symm
  | cons first firsts =>
      cases seconds with
      | nil => simp at lengths
      | cons second seconds =>
          rw [toList_intercalate_cons, toList_intercalate_cons] at inside
          obtain ⟨rfl, rest⟩ :=
            (areFirsts first (by simp)).append_inj (areSeconds second (by simp)) inside
          rw [behindFirst_inj (fun text inside => areFirsts text (by simp [inside]))
            (fun text inside => areSeconds text (by simp [inside])) rest]

/-- Lists of equal length with one label have the same texts. -/
theorem texts_eq_of_labelText_eq {name : String} {relation : Specializer → String → Prop}
    {own other : List Specializer} {firsts seconds : List String}
    (endsItself : ∀ specializer text, relation specializer text → EndsItself text)
    (isFirst : List.Forall₂ relation own firsts) (isSecond : List.Forall₂ relation other seconds)
    (lengths : own.length = other.length)
    (same : labelText name firsts = labelText name seconds) : firsts = seconds := by
  have counts : firsts.length = seconds.length := by
    rw [← isFirst.length_eq, ← isSecond.length_eq]
    exact lengths
  refine labelText_inj ?_ ?_ counts same
  · intro text inside
    obtain ⟨specializer, -, related⟩ := Traversal.exists_of_mem_right isFirst inside
    exact endsItself specializer text related
  · intro text inside
    obtain ⟨specializer, -, related⟩ := Traversal.exists_of_mem_right isSecond inside
    exact endsItself specializer text related

/-! ## Scalars -/

private theorem Number.Exact.ofInt_inj {first second : Int} (same : ofInt first = ofInt second) :
    first = second := by
  have dyadics : ((first : Int) : Dyadic) = (second : Int) := Number.Exact.finite.inj same
  have rationals := congrArg Dyadic.toRat dyadics
  rw [Dyadic.toRat_intCast, Dyadic.toRat_intCast] at rationals
  exact_mod_cast rationals

/-- Equal scalars of one class are one and the same. -/
private theorem Declaration.IsScalar.eq_of_eql {first second : Value} (isFirst : IsScalar first)
    (isSecond : IsScalar second) (equal : first.eql second = true) : first = second := by
  obtain ⟨sameClass, sameKey⟩ := Value.eql_iff.mp equal
  cases first with
  | nil =>
      cases second with
      | nil => rfl
      | _ => simp +decide [IsScalar, Value.cls] at isSecond sameClass
  | bool value =>
      cases second with
      | bool other =>
          have numbers := Number.Exact.ofInt_inj (Value.Key.number.inj sameKey)
          cases value <;> cases other <;> simp at numbers ⊢
      | _ => simp +decide [IsScalar, Value.cls] at isSecond sameClass
  | int value =>
      cases second with
      | int other => rw [Number.Exact.ofInt_inj (Value.Key.number.inj sameKey)]
      | _ => simp +decide [IsScalar, Value.cls] at isSecond sameClass
  | str value =>
      cases second with
      | str other => rw [Value.Key.text.inj sameKey]
      | _ => simp +decide [IsScalar, Value.cls] at isSecond sameClass
  | _ => cases isFirst

/-! ## Texts of specializers -/

/-- A name that stands for a type is the name of the type, but for the top type. -/
theorem TypeTable.name_of_lookup? {table : TypeTable} {name : String} {id : TypeId}
    (found : table.lookup? name = some id) (proper : name ≠ "Top") : table.name id = .ok name := by
  rcases find?_of_lookup? found with ⟨isTop, -⟩ | ⟨supertypes, host, present⟩
  · exact absurd isTop proper
  · simp [TypeTable.name, get, present, Except.map, TypeDef.name]

/-- What the first character of a text says. -/
inductive LabelKind where
  | wildcard
  | word
  | number
  | quoted
deriving DecidableEq

def LabelKind.ofFirst (first : Char) : LabelKind :=
  if first = '_' then .wildcard
  else if isLetter first then .word
  else if first = '\x27' ∨ first = '"' then .quoted
  else .number

def wordValues : List Value :=
  [.nil, .bool true, .bool false]

private theorem mem_wordValues_iff {value : Value} :
    value ∈ wordValues ↔ value = .nil ∨ value = .bool true ∨ value = .bool false := by
  simp [wordValues]

section Words

variable {text : String}

/-- Letters, digits and underscores are no marks. -/
theorem isMark_of_isNameCharacter {character : Char} (fits : isNameCharacter character = true) :
    isMark character = false := by
  rw [Bool.eq_false_iff]
  intro marked
  have oneOf : character = ',' ∨ character = ')' ∨ character = '\x27' ∨ character = '"' := by
    simpa [isMark] using marked
  rcases oneOf with rfl | rfl | rfl | rfl <;> exact absurd fits (by decide)

theorem unmarked_of_isLettered (lettered : isLettered text = true) :
    ∀ character ∈ text.toList, isMark character = false :=
  fun character inside =>
    isMark_of_isNameCharacter (IsWordy.of_isLettered lettered character inside)

private theorem unmarked_integerText (value : Int) :
    ∀ character ∈ (Number.integerText value).toList, isMark character = false := by
  intro character inside
  have oneOf : character = '-' ∨ isDecimalDigit character = true := by
    rw [toList_integerText] at inside
    rcases List.mem_append.mp inside with sign | digit
    · split at sign
      · exact Or.inl (List.mem_singleton.mp sign)
      · cases sign
    · exact Or.inr (isDigit_of_mem_digits digit)
  rcases oneOf with rfl | digit
  · rfl
  · exact isMark_of_isNameCharacter (by simp [isNameCharacter, digit])

private theorem isLettered_of_word {value : Value} (isWord : value ∈ wordValues) :
    isLettered value.spelling = true := by
  rcases mem_wordValues_iff.mp isWord with rfl | rfl | rfl <;> rfl

private theorem spelling_ne_top {value : Value} (isWord : value ∈ wordValues) :
    value.spelling ≠ "Top" := by
  rcases mem_wordValues_iff.mp isWord with rfl | rfl | rfl <;> decide

private theorem spelling_inj_of_word {first second : Value} (isFirst : first ∈ wordValues)
    (isSecond : second ∈ wordValues) (same : first.spelling = second.spelling) :
    first = second := by
  rcases mem_wordValues_iff.mp isFirst with rfl | rfl | rfl <;>
    rcases mem_wordValues_iff.mp isSecond with rfl | rfl | rfl <;>
      simp [Value.spelling] at same ⊢

private theorem ofFirst_of_isLettered (lettered : isLettered text = true) :
    text.toList.head?.map LabelKind.ofFirst = some .word := by
  unfold isLettered at lettered
  split at lettered
  · cases lettered
  · rename_i first others whole
    have letter : isLetter first = true := ((Bool.and_eq_true _ _).mp lettered).1
    have noWildcard : first ≠ '_' := by
      rintro rfl
      cases letter
    simp [whole, LabelKind.ofFirst, noWildcard, letter]

/-- Integers that are read back from one text are the same. -/
private theorem integerText_inj {first second : Int} (isFirst : Number.isWritable first = true)
    (isSecond : Number.isWritable second = true)
    (same : Number.integerText first = Number.integerText second) : first = second := by
  have read := numberValue_integerText (of_decide_eq_true isFirst)
  rw [same, numberValue_integerText (of_decide_eq_true isSecond)] at read
  cases read
  rfl

private theorem ofFirst_integerText (value : Int) :
    (Number.integerText value).toList.head?.map LabelKind.ofFirst = some .number := by
  cases isHead : (Number.integerText value).toList.head? with
  | none =>
      rw [List.head?_eq_none_iff, toList_integerText, List.append_eq_nil_iff] at isHead
      exact absurd isHead.2 Nat.toDigits_ne_nil
  | some first =>
      have noWord : first ≠ '_' ∧ isLetter first = false ∧ first ≠ '\x27' ∧ first ≠ '"' := by
        rcases head_integerText isHead with digit | rfl
        · refine ⟨?_, ?_, ?_, ?_⟩
          · rintro rfl
            cases digit
          · rw [Bool.eq_false_iff]
            intro letter
            rw [isDecimalDigit_of_isLetter letter] at digit
            cases digit
          · rintro rfl
            cases digit
          · rintro rfl
            cases digit
        · decide
      simp [LabelKind.ofFirst, noWord]

private theorem ofFirst_quoted (content : String) :
    (Text.quoted content).toList.head?.map LabelKind.ofFirst = some .quoted := by
  rw [Text.quoted, String.toList_ofList, Text.quotedCharacters]
  rcases Text.isQuote_quoteFor content.toList with isQuote | isQuote <;> rw [isQuote] <;> rfl

private theorem quoted_inj {first second : String} (same : Text.quoted first = Text.quoted second) :
    first = second := by
  have characters := String.ofList_inj.mp same
  exact String.toList_inj.mp (Text.quotedCharacters_append_inj (congrArg (· ++ []) characters)).1

end Words

namespace Specializer

inductive Shows (table : TypeTable) : LabelKind → Specializer → String → Prop where
  | any : Shows table .wildcard .any "_"
  | type {name : String} {id : TypeId} (found : table.lookup? name = some id)
      (lettered : isLettered name = true) (proper : name ≠ "Top") :
      Shows table .word (.ofType id) name
  | word {value : Value} (isWord : value ∈ wordValues) :
      Shows table .word (.exactly value) value.spelling
  | number {value : Int} (writable : Number.isWritable value = true) :
      Shows table .number (.exactly (.int value)) (Number.integerText value)
  | text (value : String) : Shows table .quoted (.exactly (.str value)) (Text.quoted value)

/-- A type and a word value with one name. -/
inductive Namesakes (table : TypeTable) : Specializer → Specializer → Prop where
  | typeFirst {id : TypeId} {value : Value} (isWord : value ∈ wordValues)
      (found : table.lookup? value.spelling = some id) :
      Namesakes table (.ofType id) (.exactly value)
  | wordFirst {id : TypeId} {value : Value} (isWord : value ∈ wordValues)
      (found : table.lookup? value.spelling = some id) :
      Namesakes table (.exactly value) (.ofType id)

variable {table : TypeTable} {kind : LabelKind} {specializer first second : Specializer}
  {text : String}

namespace Shows

/-- The text is the one that labels have. -/
theorem label_eq (shown : Shows table kind specializer text) :
    specializer.label table = .ok text := by
  cases shown with
  | any => rfl
  | type found lettered proper => exact TypeTable.name_of_lookup? found proper
  | word isWord =>
      rcases mem_wordValues_iff.mp isWord with rfl | rfl | rfl <;> rfl
  | number writable => exact label_exactly writable
  | text value => rfl

theorem endsItself (shown : Shows table kind specializer text) : EndsItself text := by
  cases shown with
  | any => exact Or.inl (by simp [isMark])
  | type found lettered proper => exact Or.inl (unmarked_of_isLettered lettered)
  | word isWord => exact Or.inl (unmarked_of_isLettered (isLettered_of_word isWord))
  | number writable => exact Or.inl (unmarked_integerText _)
  | text value => exact Or.inr ⟨value, rfl⟩

/-- **The first character of the text tells its kind.** -/
theorem kind_eq (shown : Shows table kind specializer text) :
    text.toList.head?.map LabelKind.ofFirst = some kind := by
  cases shown with
  | any => rfl
  | type found lettered proper => exact ofFirst_of_isLettered lettered
  | word isWord => exact ofFirst_of_isLettered (isLettered_of_word isWord)
  | number writable => exact ofFirst_integerText _
  | text value => exact ofFirst_quoted value

/-- The name of the top type is the text of no specializer. -/
theorem ne_top (shown : Shows table kind specializer text) : text ≠ "Top" := by
  intro isTop
  have isKind := shown.kind_eq
  rw [isTop] at isKind
  cases shown with
  | any => cases isKind
  | type found lettered proper => exact proper isTop
  | word isWord => exact absurd isTop (spelling_ne_top isWord)
  | number value => cases isKind
  | text value => cases isKind

/-- **A text tells its specializer, unless a type is named like a word value.** -/
theorem eq_or_namesakes {otherKind : LabelKind} (isFirst : Shows table kind first text)
    (isSecond : Shows table otherKind second text) :
    first = second ∨ Namesakes table first second := by
  obtain rfl : kind = otherKind := Option.some.inj (isFirst.kind_eq.symm.trans isSecond.kind_eq)
  generalize sameText : text = other at isSecond
  cases isFirst with
  | any =>
      cases isSecond
      exact Or.inl rfl
  | type found lettered proper =>
      cases isSecond with
      | type otherFound _ _ =>
          rw [sameText, otherFound] at found
          cases found
          exact Or.inl rfl
      | word isWord => exact Or.inr (.typeFirst isWord (sameText ▸ found))
  | word isWord =>
      cases isSecond with
      | type found _ _ => exact Or.inr (.wordFirst isWord (sameText ▸ found))
      | word otherIsWord =>
          rw [spelling_inj_of_word isWord otherIsWord sameText]
          exact Or.inl rfl
  | number writable =>
      cases isSecond with
      | number otherWritable =>
          rw [integerText_inj writable otherWritable sameText]
          exact Or.inl rfl
  | text value =>
      cases isSecond with
      | text otherValue =>
          rw [quoted_inj sameText]
          exact Or.inl rfl

theorem isScalar {value : Value} (shown : Shows table kind (.exactly value) text) :
    IsScalar value := by
  cases shown with
  | word isWord =>
      rcases mem_wordValues_iff.mp isWord with rfl | rfl | rfl <;> trivial
  | number writable => exact writable
  | text value => trivial

/-- Equal specializers of a program are one and the same. -/
theorem eq_of_beq {otherKind : LabelKind} {other : String} (isFirst : Shows table kind first text)
    (isSecond : Shows table otherKind second other) (equal : (first == second) = true) :
    first = second := by
  cases first with
  | any =>
      cases second with
      | any => rfl
      | _ => cases equal
  | ofType id =>
      cases second with
      | ofType otherId =>
          have sameId : id = otherId := of_decide_eq_true equal
          rw [sameId]
      | _ => cases equal
  | exactly value =>
      cases second with
      | exactly otherValue => rw [isFirst.isScalar.eq_of_eql isSecond.isScalar equal]
      | _ => cases equal

end Shows

def HasText (table : TypeTable) (specializer : Specializer) (text : String) : Prop :=
  ∃ kind, Shows table kind specializer text

theorem Namesakes.label_eq (namesakes : Namesakes table first second) :
    first.label table = second.label table := by
  cases namesakes with
  | typeFirst isWord found =>
      rw [(Shows.word isWord).label_eq]
      exact TypeTable.name_of_lookup? found (spelling_ne_top isWord)
  | wordFirst isWord found =>
      rw [(Shows.word isWord).label_eq]
      exact (TypeTable.name_of_lookup? found (spelling_ne_top isWord)).symm

end Specializer

/-! ## Labels of methods -/

namespace Method

open Specializer

variable {table : TypeTable} {method first second : Method} {texts firsts seconds : List String}

theorem label_eq_ok (shown : List.Forall₂ (HasText table) method.specializers texts)
    (name : String) : method.label (.named table) name = .ok (labelText name texts) := by
  have labels : method.specializers.mapM (Naming.named table).label = .ok texts :=
    Traversal.mapM_eq_ok_iff.mpr (shown.imp fun _ _ ⟨_, isShown⟩ => isShown.label_eq)
  rw [label, labels]
  rfl

/-- Methods whose specializers have equal texts have equal labels. -/
theorem label_congr {name : String}
    (labels : List.Forall₂ (fun own other => own.label table = other.label table)
      first.specializers second.specializers) :
    first.label (.named table) name = second.label (.named table) name := by
  have walks : first.specializers.mapM (Naming.named table).label =
      second.specializers.mapM (Naming.named table).label :=
    Traversal.mapM_eq_of_forall₂ labels
  rw [label, label, walks]

/-- **Labels of one function are equal exactly if the specializers are, up to those of
one name.** -/
theorem label_eq_iff (isFirst : List.Forall₂ (HasText table) first.specializers firsts)
    (isSecond : List.Forall₂ (HasText table) second.specializers seconds)
    (lengths : first.specializers.length = second.specializers.length) (name : String) :
    first.label (.named table) name = second.label (.named table) name ↔
      List.Forall₂ (fun own other => own = other ∨ Namesakes table own other)
        first.specializers second.specializers := by
  constructor
  · intro same
    rw [label_eq_ok isFirst, label_eq_ok isSecond] at same
    have endsItself : ∀ specializer text, HasText table specializer text → EndsItself text :=
      fun _ _ ⟨_, isShown⟩ => isShown.endsItself
    rw [← texts_eq_of_labelText_eq endsItself isFirst isSecond lengths (Except.ok.inj same)]
      at isSecond
    refine Traversal.forall₂_of_common isFirst isSecond ?_
    intro own other text hasText otherHasText
    obtain ⟨kind, isShown⟩ := hasText
    obtain ⟨otherKind, otherIsShown⟩ := otherHasText
    exact isShown.eq_or_namesakes otherIsShown
  · intro related
    apply label_congr
    refine related.imp ?_
    intro own other same
    rcases same with rfl | namesakes
    · rfl
    · exact namesakes.label_eq

end Method

end StaticDispatch
