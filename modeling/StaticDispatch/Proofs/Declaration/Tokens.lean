import Mathlib.Data.List.TakeWhile
import StaticDispatch.Declaration.Program

/-!
Contract: what the tokens of a text are, and where they go.

Every token is what one rule makes of its characters. So numbers have decimal digits
behind their sign, and a number that is read can be written again. The groups and parts
that declarations are read from have no other tokens than the text.

Owns: the rules behind tokens, the tokens of groups and parts, and the digits of numbers.
Does not own: the order of tokens, and the characters of names.
-/

namespace StaticDispatch.Declaration

variable {vocabulary : Vocabulary} {start : Point} {text : List Char}
  {accepted tokens part : List Token}

/-! ## Rules -/

section Rules

variable {character : Char} {rest : List Char} {lexeme : Lexeme} {count : Nat}

/-- What the rules make, and of which characters numbers and names are made. -/
theorem lexeme?_cases (fits : lexeme? vocabulary character rest = some (lexeme, count)) :
    (lexeme = .token .number ∧
        (isDecimalDigit character = true ∨ character = '+' ∨ character = '-') ∧
        count = (rest.takeWhile isDecimalDigit).length) ∨
      (lexeme = .name ∧ isLetter character = true ∧
        count = (rest.takeWhile isNameCharacter).length) ∨
      lexeme = .skipped ∨ lexeme = .token .text ∨
      ∃ mark ∈ vocabulary.marks, lexeme = .token mark.2 := by
  unfold lexeme? at fits
  dsimp only at fits
  split at fits
  · rename_i digit
    cases fits
    exact .inl ⟨rfl, .inl digit, rfl⟩
  split at fits
  · rename_i signed
    cases fits
    simp only [Bool.and_eq_true, Bool.or_eq_true, decide_eq_true_eq] at signed
    exact .inl ⟨rfl, .inr signed.1, rfl⟩
  split at fits
  · rename_i letter
    cases fits
    exact .inr (.inl ⟨rfl, letter, rfl⟩)
  split at fits
  · cases fits
    exact .inr (.inr (.inl rfl))
  split at fits
  · cases fits
    exact .inr (.inr (.inl rfl))
  split at fits
  · obtain ⟨_, -, same⟩ := Option.map_eq_some_iff.mp fits
    cases same
    exact .inr (.inr (.inr (.inl rfl)))
  · obtain ⟨mark, found, same⟩ := Option.map_eq_some_iff.mp fits
    cases same
    exact .inr (.inr (.inr (.inr ⟨mark, List.mem_of_find?_eq_some found, rfl⟩)))

end Rules

/-- **What the rules make of their characters holds of every token.** -/
theorem forall_mem_scanFrom {property : Token → Prop}
    (each : ∀ {character : Char} {rest : List Char} {lexeme : Lexeme} {count : Nat}
      {position : Position} {token : Token},
      lexeme? vocabulary character rest = some (lexeme, count) →
      lexeme.token? vocabulary position (String.ofList (character :: rest.take count)) =
        some token → property token)
    (offset : Nat) (position : Position) (text : List Char) :
    ∀ token ∈ (scanFrom vocabulary offset position text).tokens, property token := by
  fun_induction scanFrom vocabulary offset position text with
  | case1 => simp
  | case2 => simp
  | case3 offset position character rest lexeme count fits taken scan skipped inductionHypothesis =>
      exact inductionHypothesis
  | case4 offset position character rest lexeme count fits taken scan token made
      inductionHypothesis =>
      exact List.forall_mem_cons.mpr ⟨each fits made, inductionHypothesis⟩

/-- The tokens of an accepted text are all that it is cut into. -/
theorem eq_scan_of_tokens (scanned : Declaration.tokens vocabulary start text = .ok accepted) :
    accepted = (scan vocabulary text).tokens := by
  unfold Declaration.tokens at scanned
  dsimp only at scanned
  split at scanned
  · cases scanned
  · split at scanned
    · cases scanned
    · split at scanned
      · cases scanned
        rfl
      · cases scanned

/-! ## Groups and parts -/

theorem subset_of_mem_groups {group : Token × List Token} (isGroup : group ∈ groups tokens) :
    group.2 ⊆ tokens := by
  induction tokens with
  | nil => cases isGroup
  | cons token rest inductionHypothesis =>
      unfold groups at isGroup
      split at isGroup
      · rcases List.mem_cons.mp isGroup with rfl | later
        · exact List.subset_cons_of_subset _ (List.takeWhile_subset _)
        · exact List.subset_cons_of_subset _ (inductionHypothesis later)
      · exact List.subset_cons_of_subset _ (inductionHypothesis isGroup)

theorem exists_splitCommas (tokens : List Token) :
    ∃ first others, splitCommas tokens = first :: others := by
  cases tokens with
  | nil => exact ⟨[], [], rfl⟩
  | cons token rest =>
      unfold splitCommas
      split
      · exact ⟨_, _, rfl⟩
      · split <;> exact ⟨_, _, rfl⟩

theorem splitCommas_cons {token : Token} {rest first : List Token} {others : List (List Token)}
    (notComma : token.terminal ≠ .comma) (split : splitCommas rest = first :: others) :
    splitCommas (token :: rest) = (token :: first) :: others := by
  rw [splitCommas, if_neg notComma, split]

theorem subset_of_mem_splitCommas (isPart : part ∈ splitCommas tokens) : part ⊆ tokens := by
  induction tokens generalizing part with
  | nil => simp_all [splitCommas]
  | cons token rest inductionHypothesis =>
      obtain ⟨first, others, split⟩ := exists_splitCommas rest
      rw [split] at inductionHypothesis
      by_cases isComma : token.terminal = .comma
      · rw [splitCommas, if_pos isComma, split] at isPart
        rcases List.mem_cons.mp isPart with rfl | later
        · exact List.nil_subset _
        · exact List.subset_cons_of_subset _ (inductionHypothesis later)
      · rw [splitCommas_cons isComma split] at isPart
        rcases List.mem_cons.mp isPart with rfl | later
        · exact List.cons_subset_cons _ (inductionHypothesis (by simp))
        · exact List.subset_cons_of_subset _ (inductionHypothesis (by simp [later]))

theorem subset_of_mem_parts (isPart : part ∈ parts tokens) : part ⊆ tokens := by
  unfold parts at isPart
  dsimp only at isPart
  split at isPart
  · cases isPart
  · intro token inside
    have isInside := subset_of_mem_splitCommas isPart inside
    have behindOpen := List.mem_of_mem_drop ((List.takeWhile_sublist _).mem isInside)
    exact (List.dropWhile_sublist _).mem behindOpen

/-! ## Numbers -/

/-- A number has decimal digits behind its sign. -/
def Token.IsNumeral (token : Token) : Prop :=
  token.terminal = .number →
    ∀ character ∈ (Number.splitSign token.text.toList).2, isDecimalDigit character = true

/-- Only the rule for numbers makes numbers. -/
def Vocabulary.Unnumbered (vocabulary : Vocabulary) : Prop :=
  (∀ word ∈ vocabulary.words, word.2 ≠ .number) ∧ ∀ mark ∈ vocabulary.marks, mark.2 ≠ .number

instance (vocabulary : Vocabulary) : Decidable vocabulary.Unnumbered :=
  inferInstanceAs (Decidable (_ ∧ _))

theorem splitSign_of_isDecimalDigit {first : Char} (digit : isDecimalDigit first = true)
    (rest : List Char) : Number.splitSign (first :: rest) = (false, first :: rest) := by
  unfold Number.splitSign
  split
  next isMinus =>
    cases isMinus
    cases digit
  next isPlus =>
    cases isPlus
    cases digit
  next => rfl

private theorem isNumeral_of_token? (unnumbered : vocabulary.Unnumbered) {character : Char}
    {rest : List Char} {lexeme : Lexeme} {count : Nat} {position : Position} {token : Token}
    (fits : lexeme? vocabulary character rest = some (lexeme, count))
    (made : lexeme.token? vocabulary position (String.ofList (character :: rest.take count)) =
      some token) : token.IsNumeral := by
  intro isNumber
  rcases lexeme?_cases fits with ⟨rfl, opens, rfl⟩ | ⟨rfl, -⟩ | rfl | rfl | ⟨mark, isMark, rfl⟩
  · cases made
    rw [← List.prefix_iff_eq_take.mp (List.takeWhile_prefix _), String.toList_ofList]
    have digits : ∀ digit ∈ rest.takeWhile isDecimalDigit, isDecimalDigit digit = true :=
      fun digit => List.mem_takeWhile_imp
    rcases opens with digit | rfl | rfl
    · rw [splitSign_of_isDecimalDigit digit]
      exact List.forall_mem_cons.mpr ⟨digit, digits⟩
    · exact digits
    · exact digits
  · cases made
    dsimp only at isNumber
    obtain ⟨terminal, isWord, rfl⟩ : ∃ terminal, vocabulary.words.lookup
        (String.ofList (character :: rest.take count)) = some terminal ∧ terminal = .number := by
      cases isWord : vocabulary.words.lookup (String.ofList (character :: rest.take count)) with
      | none =>
          rw [isWord] at isNumber
          cases isNumber
      | some terminal =>
          rw [isWord] at isNumber
          exact ⟨terminal, rfl, isNumber⟩
    obtain ⟨before, after, isWords, -⟩ := List.lookup_eq_some_iff.mp isWord
    refine absurd rfl (unnumbered.1 (String.ofList (character :: rest.take count), .number) ?_)
    rw [isWords]
    exact List.mem_append_right before List.mem_cons_self
  · cases made
  · cases made
    cases isNumber
  · cases made
    exact absurd isNumber (unnumbered.2 mark isMark)

theorem isNumeral_of_tokens (unnumbered : vocabulary.Unnumbered)
    (scanned : Declaration.tokens vocabulary start text = .ok accepted) :
    ∀ token ∈ accepted, token.IsNumeral := by
  rw [eq_scan_of_tokens scanned]
  exact forall_mem_scanFrom (isNumeral_of_token? unnumbered) _ _ text

/-- Digits that each add less than the base make a number below a power of it. -/
theorem foldl_lt_pow {base : Nat} {step : Nat → Char → Nat} {digits : List Char}
    (small : ∀ digit ∈ digits, ∀ value, step value digit < base * (value + 1)) (value : Nat) :
    digits.foldl step value < (value + 1) * Nat.pow base digits.length := by
  induction digits generalizing value with
  | nil => simp
  | cons digit rest inductionHypothesis =>
      obtain ⟨own, others⟩ := List.forall_mem_cons.mp small
      rw [List.foldl_cons]
      calc
        _ < (step value digit + 1) * Nat.pow base rest.length := inductionHypothesis others _
        _ ≤ (base * (value + 1)) * Nat.pow base rest.length := Nat.mul_le_mul_right _ (own value)
        _ = (value + 1) * Nat.pow base (digit :: rest).length := by
          rw [Nat.mul_comm base, Nat.mul_assoc, Nat.mul_comm base]
          rfl

/-- Digits make a number that has no more digits. -/
private theorem length_toDigits_le {digits : List Char} {limit : Nat}
    (decimal : ∀ digit ∈ digits, isDecimalDigit digit = true) (short : digits.length ≤ limit)
    (positive : 0 < limit) : (Nat.toDigits 10 (Number.digitsValue digits)).length ≤ limit := by
  have small : ∀ digit ∈ digits, ∀ value,
      10 * value + (digit.toNat - '0'.toNat) < 10 * (value + 1) := by
    intro digit inside value
    have bounds := decimal digit inside
    simp only [isDecimalDigit, Bool.and_eq_true, decide_eq_true_eq] at bounds
    have atMost : digit.toNat ≤ '9'.toNat := UInt32.le_iff_toNat_le.mp bounds.2
    have value : digit.toNat - '0'.toNat ≤ 9 := Nat.sub_le_of_le_add atMost
    omega
  have bound : Number.digitsValue digits < Nat.pow 10 digits.length := by
    simpa [Number.digitsValue] using foldl_lt_pow small 0
  rw [Nat.length_toDigits_le_iff (by decide) positive]
  exact Nat.lt_of_lt_of_le bound (Nat.pow_le_pow_right (by decide) short)

/-- **A number that is read can be written.** -/
theorem isWritable_of_readInteger {negative : Bool} {digits : List Char} {value : Int}
    (decimal : ∀ digit ∈ digits, isDecimalDigit digit = true)
    (read : Number.readInteger negative digits = .ok value) :
    Number.isWritable value = true := by
  unfold Number.readInteger at read
  split at read
  · cases read
  · rename_i short
    have size : value.natAbs = Number.digitsValue digits := by
      cases negative <;> cases read <;> simp
    rw [Number.isWritable, decide_eq_true_eq, Number.digitCount, size]
    exact length_toDigits_le decimal (Nat.not_lt.mp short) (by decide)

end StaticDispatch.Declaration
