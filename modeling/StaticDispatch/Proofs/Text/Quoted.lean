import Mathlib.Algebra.Group.Nat.Defs
import StaticDispatch.Declaration.Literal
import StaticDispatch.Text.Quoted

/-!
Contract: a quoted text shows where it ends.

Each character between quotes is written so that reading one character gives it back
with all that follows it, and none is written with the closing quote in front. So two
quoted texts that start one text are one and the same, whatever stands behind them.

Owns: reading back hexadecimal digits and quoted characters, and the end of a quoted
text.
Does not own: byte strings, and where quoted texts stand.
-/

namespace StaticDispatch.Text

open Declaration (escape? escapeWidth? character?)

/-! ## Hexadecimal digits -/

private theorem length_hexDigits (width number : Nat) :
    (hexDigits width number).length = width := by
  induction width generalizing number with
  | zero => rfl
  | succ width inductionHypothesis => simp [hexDigits, inductionHypothesis]

private theorem hexValue?_digitChar {digit : Nat} (isDigit : digit < 16) :
    hexValue? (Nat.digitChar digit) = some digit := by
  have all : ∀ digit < 16, hexValue? (Nat.digitChar digit) = some digit := by decide
  exact all digit isDigit

private theorem hexNumber?_concat (digits : List Char) (digit : Char) :
    hexNumber? (digits ++ [digit]) =
      (hexNumber? digits).bind fun number => (hexValue? digit).map (number * 16 + ·) := by
  simp [hexNumber?, List.foldlM_append]

/-- Digits are read back if there are enough of them. -/
private theorem hexNumber?_hexDigits {width number : Nat} (fits : number < 16 ^ width) :
    hexNumber? (hexDigits width number) = some number := by
  induction width generalizing number with
  | zero =>
      have isZero : number = 0 := by simpa using fits
      rw [isZero]
      rfl
  | succ width inductionHypothesis =>
      have less : number / 16 < 16 ^ width := by
        apply Nat.div_lt_of_lt_mul
        rw [Nat.mul_comm, ← Nat.pow_succ]
        exact fits
      have whole : number / 16 * 16 + number % 16 = number := by omega
      rw [hexDigits, hexNumber?_concat, inductionHypothesis less, Option.bind_some,
        hexValue?_digitChar (by omega), Option.map_some, whole]

/-! ## Single characters -/

private theorem character?_toNat (character : Char) :
    character? character.toNat = some character := by
  have valid : character.toNat.isValidChar := character.valid
  rw [character?, if_pos valid, Char.ofNat_toNat]

/-- An escape by code is read back if its letter asks for enough digits. -/
private theorem escape?_hexDigits {letter character : Char} {width : Nat}
    (asks : escapeWidth? letter = some width) (fits : character.toNat < 16 ^ width)
    (rest : List Char) :
    escape? letter (hexDigits width character.toNat ++ rest) = some ([character], width) := by
  have digits : (hexDigits width character.toNat ++ rest).take width =
      hexDigits width character.toNat :=
    List.take_left' (length_hexDigits _ _)
  have read : (hexNumber? (hexDigits width character.toNat)).bind character? =
      some character := by
    rw [hexNumber?_hexDigits fits, Option.bind_some, character?_toNat]
  unfold escapeWidth? at asks
  split at asks <;> cases asks
  all_goals
    simp [escape?, Declaration.escapedLetter?, Declaration.isOctalDigit, escapeWidth?, digits,
      length_hexDigits, read]

/-- The first character of what stands between quotes, and what follows it. -/
def nextCharacter? : List Char → Option (List Char × List Char)
  | [] => none
  | '\\' :: letter :: rest =>
      (escape? letter rest).map fun (characters, count) => (characters, rest.drop count)
  | character :: rest => some ([character], rest)

private theorem nextCharacter?_codeEscape (character : Char) (rest : List Char) :
    nextCharacter? (codeEscape character.toNat ++ rest) = some ([character], rest) := by
  have written : ∃ letter width, escapeWidth? letter = some width ∧
      character.toNat < 16 ^ width ∧
      codeEscape character.toNat = '\\' :: letter :: hexDigits width character.toNat := by
    unfold codeEscape
    split
    · exact ⟨'x', 2, rfl, by assumption, rfl⟩
    split
    · exact ⟨'u', 4, rfl, by assumption, rfl⟩
    · have valid : character.toNat.isValidChar := character.valid
      exact ⟨'U', 8, rfl, by unfold Nat.isValidChar at valid; omega, rfl⟩
  obtain ⟨letter, width, asks, fits, isEscape⟩ := written
  rw [isEscape, List.cons_append, List.cons_append, nextCharacter?, escape?_hexDigits asks fits]
  simp [length_hexDigits]

variable {quote : Char}

/-- **A character between quotes is read back, with what follows it.** -/
theorem nextCharacter?_quotedCharacter (isQuote : quote = '\x27' ∨ quote = '"')
    (character : Char) (rest : List Char) :
    nextCharacter? (quotedCharacter quote character ++ rest) = some ([character], rest) := by
  unfold quotedCharacter
  split
  · rename_i marked
    rcases marked with rfl | rfl
    · rcases isQuote with rfl | rfl <;> rfl
    · rfl
  rename_i unmarked
  split
  · rename_i isLineFeed
    rw [isLineFeed]
    rfl
  split
  · rename_i isReturn
    rw [isReturn]
    rfl
  split
  · rename_i isTab
    rw [isTab]
    rfl
  split
  · apply nextCharacter?.eq_3
    intro letter others isBackslash
    exact absurd isBackslash (fun same => unmarked (Or.inr same))
  · exact nextCharacter?_codeEscape character rest

private theorem quotedCharacter_append_inj (isQuote : quote = '\x27' ∨ quote = '"')
    {first second : Char} {rest others : List Char}
    (same : quotedCharacter quote first ++ rest = quotedCharacter quote second ++ others) :
    first = second ∧ rest = others := by
  have read := nextCharacter?_quotedCharacter isQuote first rest
  rw [same, nextCharacter?_quotedCharacter isQuote] at read
  cases read
  exact ⟨rfl, rfl⟩

/-- No character is written with the closing quote in front. -/
theorem quotedCharacter_append_ne (isQuote : quote = '\x27' ∨ quote = '"') (character : Char)
    (rest others : List Char) : quotedCharacter quote character ++ rest ≠ quote :: others := by
  intro same
  have noBackslash : quote ≠ '\\' := by
    rcases isQuote with rfl | rfl <;> decide
  have read := nextCharacter?_quotedCharacter isQuote character rest
  -- What starts with the quote is read as the quote, which is written with a backslash.
  rw [same, nextCharacter?.eq_3 _ _ fun _ _ isBackslash => absurd isBackslash noBackslash] at read
  obtain rfl : quote = character := by simpa using congrArg (Option.map Prod.fst) read
  rw [quotedCharacter, if_pos (Or.inl rfl)] at same
  exact noBackslash (List.cons.inj same).1.symm

/-! ## Whole texts -/

theorem isQuote_quoteFor (content : List Char) :
    quoteFor content = '\x27' ∨ quoteFor content = '"' := by
  unfold quoteFor
  split
  · exact Or.inr rfl
  · exact Or.inl rfl

/-- Characters between quotes end at the first quote that no character starts with. -/
private theorem flatMap_quotedCharacter_inj (isQuote : quote = '\x27' ∨ quote = '"')
    {first second rest others : List Char}
    (same : first.flatMap (quotedCharacter quote) ++ quote :: rest =
      second.flatMap (quotedCharacter quote) ++ quote :: others) :
    first = second ∧ rest = others := by
  induction first generalizing second with
  | nil =>
      cases second with
      | nil => exact ⟨rfl, (List.cons.inj same).2⟩
      | cons character second =>
          rw [List.flatMap_cons, List.append_assoc] at same
          exact absurd same.symm (quotedCharacter_append_ne isQuote character _ _)
  | cons character first inductionHypothesis =>
      rw [List.flatMap_cons, List.append_assoc] at same
      cases second with
      | nil => exact absurd same (quotedCharacter_append_ne isQuote character _ _)
      | cons other second =>
          rw [List.flatMap_cons, List.append_assoc] at same
          obtain ⟨rfl, later⟩ := quotedCharacter_append_inj isQuote same
          obtain ⟨rfl, behind⟩ := inductionHypothesis later
          exact ⟨rfl, behind⟩

/-- **A quoted text shows where it ends.** -/
theorem quotedCharacters_append_inj {first second rest others : List Char}
    (same : quotedCharacters first ++ rest = quotedCharacters second ++ others) :
    first = second ∧ rest = others := by
  simp only [quotedCharacters, List.cons_append, List.append_assoc, List.nil_append] at same
  obtain ⟨sameQuote, body⟩ := List.cons.inj same
  rw [sameQuote] at body
  exact flatMap_quotedCharacter_inj (isQuote_quoteFor second) body

end StaticDispatch.Text
