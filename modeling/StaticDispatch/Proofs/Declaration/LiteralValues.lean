import StaticDispatch.Proofs.Declaration.Tokens
import StaticDispatch.Proofs.Traversal

/-!
Contract: which literals have no value, told without decoding them.

A number has none if it has too many digits. A quoted text has none with a null
character, a bare carriage return, or a broken escape: one that asks for digits and
lacks them, or gives a code past the last character.

An escape may also name a character, or give one half of a pair of codes. Texts with
such escapes are not spelled out, and nothing is said of them here.

Owns: texts that are spelled out, and their literals without a value.
Does not own: what the values are.
-/

namespace StaticDispatch.Declaration

/-! ## Escapes -/

/-- The codes that stand for a character only in pairs. -/
def isHalf (code : Nat) : Bool :=
  0xD800 ≤ code && code < 0xE000

def escapeCode? (letter : Char) (rest : List Char) : Option Nat :=
  (escapeWidth? letter).bind fun width =>
    if (rest.take width).length = width then Text.hexNumber? (rest.take width) else none

/-- No escape names a character or gives one half of a pair of codes. -/
def isSpelledOut : List Char → Bool
  | '\\' :: letter :: rest =>
      letter ≠ 'N' && !(escapeCode? letter rest).any isHalf && isSpelledOut rest
  | _ :: rest => isSpelledOut rest
  | [] => true

/-- An escape asks for digits, and they give no code or one past the last character. -/
def LacksCode (letter : Char) (rest : List Char) : Prop :=
  (escapeWidth? letter).isSome = true ∧
    ∀ code, escapeCode? letter rest = some code → 0x110000 ≤ code

/-- A text has a bare carriage return, a backslash at its end, or an escape without a code. -/
inductive Broken : List Char → Prop where
  | bareReturn (rest : List Char) : Broken ('\r' :: rest)
  | openEscape : Broken ['\\']
  | codeless {letter : Char} {rest : List Char} (lacks : LacksCode letter rest) :
      Broken ('\\' :: letter :: rest)
  | later {character : Char} {rest : List Char} (plain : character ≠ '\\')
      (broken : Broken rest) : Broken (character :: rest)
  | behindEscape {letter : Char} {rest : List Char} (broken : Broken rest) :
      Broken ('\\' :: letter :: rest)

private theorem character?_eq_none_iff {code : Nat} :
    character? code = none ↔ isHalf code = true ∨ 0x110000 ≤ code := by
  simp only [character?, Nat.isValidChar, isHalf, ite_eq_right_iff, reduceCtorEq, imp_false,
    Bool.and_eq_true, decide_eq_true_eq]
  omega

/-- Characters of a quoted text that stand for themselves. -/
def ArePlain (characters : List Char) : Prop :=
  ∀ character ∈ characters, character ≠ '\\' ∧ character ≠ '\r'

private theorem broken_cons_iff {character : Char} {rest : List Char} (plain : character ≠ '\\')
    (noReturn : character ≠ '\r') : Broken (character :: rest) ↔ Broken rest := by
  refine ⟨fun broken => ?_, .later plain⟩
  cases broken with
  | bareReturn => exact absurd rfl noReturn
  | openEscape => exact absurd rfl plain
  | codeless => exact absurd rfl plain
  | later _ broken => exact broken
  | behindEscape => exact absurd rfl plain

private theorem broken_append_iff {taken : List Char} (plain : ArePlain taken) (rest : List Char) :
    Broken (taken ++ rest) ↔ Broken rest := by
  induction taken with
  | nil => rfl
  | cons character taken inductionHypothesis =>
      obtain ⟨⟨noEscape, noReturn⟩, others⟩ := List.forall_mem_cons.mp plain
      exact (broken_cons_iff noEscape noReturn).trans (inductionHypothesis others)

private theorem isSpelledOut_cons {character : Char} (plain : character ≠ '\\') (rest : List Char) :
    isSpelledOut (character :: rest) = isSpelledOut rest := by
  rw [isSpelledOut.eq_def]
  split
  · rename_i same
    cases same
    exact absurd rfl plain
  · rename_i same
    cases same
    rfl
  · rename_i same
    cases same

private theorem isSpelledOut_append {taken : List Char} (plain : ArePlain taken)
    (rest : List Char) :
    isSpelledOut (taken ++ rest) = isSpelledOut rest := by
  induction taken with
  | nil => rfl
  | cons character taken inductionHypothesis =>
      obtain ⟨⟨noEscape, -⟩, others⟩ := List.forall_mem_cons.mp plain
      rw [List.cons_append, isSpelledOut_cons noEscape, inductionHypothesis others]

/-! ## Decoding -/

private theorem plain_of_hexValue? {digit : Char} (isDigit : (Text.hexValue? digit).isSome = true) :
    digit ≠ '\\' ∧ digit ≠ '\r' := by
  constructor <;> rintro rfl <;> revert isDigit <;> decide

private theorem arePlain_of_hexNumber? {digits : List Char} {code : Nat}
    (isNumber : Text.hexNumber? digits = some code) : ArePlain digits := by
  have all : ∀ (digits : List Char) (start : Nat),
      (digits.foldlM (fun number digit =>
        (Text.hexValue? digit).map (number * 16 + ·)) start).isSome =
        true → ArePlain digits := by
    intro digits
    induction digits with
    | nil => exact fun _ _ => List.forall_mem_nil _
    | cons digit rest inductionHypothesis =>
        intro start answered
        rw [List.foldlM_cons] at answered
        cases isValue : Text.hexValue? digit with
        | none => simp [isValue] at answered
        | some value =>
            rw [isValue] at answered
            exact List.forall_mem_cons.mpr
              ⟨plain_of_hexValue? (by simp [isValue]), inductionHypothesis _ answered⟩
  exact all digits 0 (Option.isSome_iff_exists.mpr ⟨code, isNumber⟩)

private theorem octalDigit_spec {digit : Char} (isDigit : isOctalDigit digit = true) :
    digit.toNat - '0'.toNat < 8 ∧ digit ≠ '\\' ∧ digit ≠ '\r' := by
  obtain ⟨-, small⟩ := (Bool.and_eq_true _ _).mp isDigit
  have bound : digit.toNat ≤ '7'.toNat := of_decide_eq_true small
  have seven : '7'.toNat = 55 := rfl
  have zero : '0'.toNat = 48 := rfl
  refine ⟨by omega, ?_, ?_⟩ <;> rintro rfl <;> revert isDigit <;> decide

/-- Up to three octal digits give the code of a character. -/
private theorem exists_character_of_octal {digits : List Char}
    (octal : ∀ digit ∈ digits, isOctalDigit digit = true) (short : digits.length ≤ 3) :
    ∃ character, character?
      (digits.foldl (fun code digit => code * 8 + (digit.toNat - '0'.toNat)) 0) =
        some character := by
  have bound : digits.foldl (fun code digit => code * 8 + (digit.toNat - '0'.toNat)) 0 <
      (0 + 1) * Nat.pow 8 digits.length :=
    foldl_lt_pow (fun digit inside value => by
      have := (octalDigit_spec (octal digit inside)).1
      omega) 0
  have small : Nat.pow 8 digits.length ≤ Nat.pow 8 3 := Nat.pow_le_pow_right (by decide) short
  have cube : Nat.pow 8 3 = 512 := rfl
  refine Option.ne_none_iff_exists'.mp fun none => ?_
  rcases character?_eq_none_iff.mp none with half | large
  · simp only [isHalf, Bool.and_eq_true, decide_eq_true_eq] at half
    omega
  · omega

/-- An escape that asks for hexadecimal digits stands for the character of its code. -/
theorem escape?_of_width {letter : Char} {width : Nat} (asks : escapeWidth? letter = some width)
    (rest : List Char) :
    escape? letter rest =
      ((escapeCode? letter rest).bind character?).map fun character => ([character], width) := by
  have opened : escape? letter rest =
      if (rest.take width).length = width then
        ((Text.hexNumber? (rest.take width)).bind character?).map
          fun character => ([character], width)
      else
        none := by
    unfold escapeWidth? at asks
    split at asks <;> cases asks <;> rfl
  rw [opened, escapeCode?, asks, Option.bind_some]
  split <;> rfl

/-- Every other escape has a character, unless it names one. -/
private theorem escape?_of_no_width {letter : Char} (asksNot : escapeWidth? letter = none)
    (namesNot : letter ≠ 'N') (rest : List Char) :
    ∃ characters count, escape? letter rest = some (characters, count) ∧
      ArePlain (rest.take count) := by
  have nothing : ArePlain (rest.take 0) := List.forall_mem_nil _
  unfold escape?
  split
  · exact ⟨[], 0, rfl, nothing⟩
  · split
    · rename_i character _
      exact ⟨[character], 0, rfl, nothing⟩
    · split
      · rename_i isOctal
        have octal : ∀ digit ∈ letter :: (rest.take 2).takeWhile isOctalDigit,
            isOctalDigit digit = true :=
          List.forall_mem_cons.mpr ⟨isOctal, fun _ => List.mem_takeWhile_imp⟩
        have short : (letter :: (rest.take 2).takeWhile isOctalDigit).length ≤ 3 := by
          have := (List.takeWhile_prefix isOctalDigit (l := rest.take 2)).length_le
          have := List.length_take_le 2 rest
          rw [List.length_cons]
          omega
        obtain ⟨character, isCharacter⟩ := exists_character_of_octal octal short
        refine ⟨[character], ((rest.take 2).takeWhile isOctalDigit).length, ?_, ?_⟩
        · dsimp only
          rw [isCharacter]
          rfl
        · have taken := List.prefix_iff_eq_take.mp
            ((List.takeWhile_prefix isOctalDigit).trans (List.take_prefix 2 rest))
          rw [← taken]
          exact fun digit inside =>
            (octalDigit_spec (octal digit (List.mem_cons_of_mem _ inside))).2
      · rw [asksNot]
        exact ⟨_, 0, rfl, nothing⟩

private theorem escape?_of_lacksCode {letter : Char} {rest : List Char}
    (lacks : LacksCode letter rest) :
    escape? letter rest = none := by
  obtain ⟨width, asks⟩ := Option.isSome_iff_exists.mp lacks.1
  rw [escape?_of_width asks]
  cases isCode : escapeCode? letter rest with
  | none => rfl
  | some code =>
      rw [Option.bind_some, character?_eq_none_iff.mpr (.inr (lacks.2 code isCode))]
      rfl

/-- Every other escape has a character, unless it names one or gives half a pair. -/
theorem escape?_of_not_lacksCode {letter : Char} {rest : List Char} (namesNot : letter ≠ 'N')
    (whole : (escapeCode? letter rest).any isHalf = false) (fine : ¬ LacksCode letter rest) :
    ∃ characters count, escape? letter rest = some (characters, count) ∧
      ArePlain (rest.take count) := by
  cases asks : escapeWidth? letter with
  | none => exact escape?_of_no_width asks namesNot rest
  | some width =>
      obtain ⟨code, isCode, small⟩ : ∃ code, escapeCode? letter rest = some code ∧
          ¬ 0x110000 ≤ code := by
        simpa [LacksCode, asks] using fine
      have isCharacter : character? code ≠ none := fun none =>
        (character?_eq_none_iff.mp none).elim (fun half => by simp [isCode, half] at whole) small
      obtain ⟨character, isCharacter⟩ := Option.ne_none_iff_exists'.mp isCharacter
      refine ⟨[character], width, ?_, ?_⟩
      · rw [escape?_of_width asks, isCode, Option.bind_some, isCharacter]
        rfl
      · rw [escapeCode?, asks, Option.bind_some] at isCode
        split at isCode
        · exact arePlain_of_hexNumber? isCode
        · cases isCode

private theorem isSpelledOut_escape {letter : Char} {rest : List Char}
    (spelledOut : isSpelledOut ('\\' :: letter :: rest) = true) :
    letter ≠ 'N' ∧ (escapeCode? letter rest).any isHalf = false ∧ isSpelledOut rest = true := by
  simpa [isSpelledOut, and_assoc] using spelledOut

private theorem broken_escape_iff {letter : Char} {rest : List Char}
    (fine : ¬ LacksCode letter rest) :
    Broken ('\\' :: letter :: rest) ↔ Broken rest := by
  refine ⟨fun broken => ?_, .behindEscape⟩
  cases broken with
  | codeless lacks => exact absurd lacks fine
  | later plain _ => exact absurd rfl plain
  | behindEscape broken => exact broken

/-- **A text that is spelled out cannot be decoded exactly if it is broken.** -/
theorem unescape?_eq_none_iff {content : List Char} (spelledOut : isSpelledOut content = true) :
    unescape? content = none ↔ Broken content := by
  fun_induction unescape? content with
  | case1 => exact ⟨nofun, nofun⟩
  | case2 => exact ⟨fun _ => .openEscape, fun _ => rfl⟩
  | case3 letter rest unread =>
      obtain ⟨namesNot, whole, -⟩ := isSpelledOut_escape spelledOut
      have lacks : LacksCode letter rest := by
        by_contra fine
        obtain ⟨characters, count, read, -⟩ := escape?_of_not_lacksCode namesNot whole fine
        rw [read] at unread
        cases unread
      exact ⟨fun _ => .codeless lacks, fun _ => rfl⟩
  | case4 letter rest characters count read inductionHypothesis =>
      obtain ⟨namesNot, whole, later⟩ := isSpelledOut_escape spelledOut
      have fine : ¬ LacksCode letter rest := fun lacks => by
        rw [escape?_of_lacksCode lacks] at read
        cases read
      obtain ⟨_, _, same, plain⟩ := escape?_of_not_lacksCode namesNot whole fine
      rw [read] at same
      cases same
      rw [← List.take_append_drop count rest, isSpelledOut_append plain] at later
      rw [Option.map_eq_none_iff, inductionHypothesis later, broken_escape_iff fine,
        ← broken_append_iff plain, List.take_append_drop]
  | case5 rest => exact ⟨fun _ => .bareReturn rest, fun _ => rfl⟩
  | case6 character rest notOpen notEscape noReturn inductionHypothesis =>
      have plain : character ≠ '\\' := by
        rintro rfl
        cases rest with
        | nil => exact notOpen rfl rfl
        | cons letter rest => exact notEscape letter rest rfl rfl
      rw [isSpelledOut_cons plain] at spelledOut
      rw [Option.map_eq_none_iff, inductionHypothesis spelledOut, broken_cons_iff plain noReturn]

/-! ## Tokens -/

def quotedContent (text : String) : List Char :=
  (text.toList.drop 1).dropLast

/-- A number with too many digits, or a quoted text with a null character or broken. -/
inductive Token.Lacks (token : Token) : LiteralFault → Prop where
  | digits (isNumber : token.terminal = .number)
      (long : Number.digitLimit < (Number.splitSign token.text.toList).2.length) :
      Lacks token (.tooManyDigits ⟨(Number.splitSign token.text.toList).2.length⟩)
  | null (isText : token.terminal = .text) (null : '\x00' ∈ token.text.toList) :
      Lacks token .nullCharacter
  | broken (isText : token.terminal = .text) (noNull : '\x00' ∉ token.text.toList)
      (broken : Broken (quotedContent token.text)) : Lacks token .malformedText

def Token.isSpelledOut (token : Token) : Bool :=
  token.terminal != .text || Declaration.isSpelledOut (quotedContent token.text)

private theorem numberValue_eq_error_iff {text : String} {fault : LiteralFault} :
    numberValue text = .error fault ↔
      Number.digitLimit < (Number.splitSign text.toList).2.length ∧
        .tooManyDigits ⟨(Number.splitSign text.toList).2.length⟩ = fault := by
  unfold numberValue
  dsimp only
  by_cases long : Number.digitLimit < (Number.splitSign text.toList).2.length
  · rw [Number.readInteger, if_pos long]
    simp [long]
  · rw [Number.readInteger, if_neg long]
    simp [long]

private theorem textValue_eq_error_iff {text : String} {fault : LiteralFault}
    (spelledOut : isSpelledOut (quotedContent text) = true) :
    textValue text = .error fault ↔
      '\x00' ∈ text.toList ∧ .nullCharacter = fault ∨
        '\x00' ∉ text.toList ∧ Broken (quotedContent text) ∧ .malformedText = fault := by
  rw [← unescape?_eq_none_iff spelledOut]
  unfold textValue quotedContent
  by_cases null : '\x00' ∈ text.toList
  · simp [null]
  · cases unescape? (text.toList.drop 1).dropLast <;> simp [null]

private theorem Token.lacks_iff {token : Token} {fault : LiteralFault} :
    token.Lacks fault ↔
      token.terminal = .number ∧
          Number.digitLimit < (Number.splitSign token.text.toList).2.length ∧
          .tooManyDigits ⟨(Number.splitSign token.text.toList).2.length⟩ = fault ∨
        token.terminal = .text ∧
          ('\x00' ∈ token.text.toList ∧ .nullCharacter = fault ∨
            '\x00' ∉ token.text.toList ∧ Broken (quotedContent token.text) ∧
              .malformedText = fault) := by
  constructor
  · rintro (⟨isNumber, long⟩ | ⟨isText, null⟩ | ⟨isText, noNull, broken⟩)
    · exact .inl ⟨isNumber, long, rfl⟩
    · exact .inr ⟨isText, .inl ⟨null, rfl⟩⟩
    · exact .inr ⟨isText, .inr ⟨noNull, broken, rfl⟩⟩
  · rintro (⟨isNumber, long, rfl⟩ | ⟨isText, ⟨null, rfl⟩ | ⟨noNull, broken, rfl⟩⟩)
    · exact .digits isNumber long
    · exact .null isText null
    · exact .broken isText noNull broken

/-- **A literal that is spelled out has no value exactly if it is too long, has a null
character or is broken.** -/
theorem Token.value?_eq_error_iff {token : Token} (spelledOut : token.isSpelledOut = true)
    {fault : LiteralFault} : token.value? = .error fault ↔ token.Lacks fault := by
  rw [Token.lacks_iff, ← Traversal.error?_eq_some]
  unfold Token.value?
  split
  · rename_i isNumber
    rw [Traversal.error?_map, Traversal.error?_eq_some, numberValue_eq_error_iff]
    simp [isNumber]
  · rename_i isText
    rw [Token.isSpelledOut, isText] at spelledOut
    rw [Traversal.error?_map, Traversal.error?_eq_some, textValue_eq_error_iff spelledOut]
    simp [isText]
  all_goals simp_all [Traversal.error?]

/-! ## Texts -/

def FirstLacks (tokens : List Token) (fault : LiteralFault) : Prop :=
  ∃ before token after, tokens = before ++ token :: after ∧ token.Lacks fault ∧
    ∀ other ∈ before, ∀ fault, ¬ other.Lacks fault

def spellsOut (vocabulary : Vocabulary) (start : Point) (text : String) : Bool :=
  ((tokens vocabulary start text.toList).toOption.getD []).all Token.isSpelledOut

theorem isSpelledOut_of_tokens {vocabulary : Vocabulary} {start : Point} {text : String}
    {accepted : List Token} (spelledOut : spellsOut vocabulary start text = true)
    (scanned : tokens vocabulary start text.toList = .ok accepted) :
    ∀ token ∈ accepted, token.isSpelledOut = true := by
  rw [spellsOut, scanned] at spelledOut
  exact List.all_eq_true.mp spelledOut

end StaticDispatch.Declaration
