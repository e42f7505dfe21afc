import StaticDispatch.Proofs.Declaration.Layout
import StaticDispatch.Proofs.Traversal

/-!
Contract: the tokens of declarations and call sites mean what they spell.

The tokens stand at any places. A list in parentheses is cut at its commas into the
tokens of its parts, a program at its opening words into the tokens of its declarations,
and each piece is read as what it spells, at the place of its first token.

Owns: reading parts, declarations, programs and call sites from tokens.
Does not own: the text that the tokens are cut from.
-/

namespace StaticDispatch.Declaration

section Tokens

variable {place : Nat → Position} {number : Nat}

private theorem tokensAt_append (place : Nat → Position) (number : Nat) (first second : List Word) :
    tokensAt place number (first ++ second) =
      tokensAt place number first ++ tokensAt place (number + first.length) second := by
  induction first generalizing number with
  | nil => rfl
  | cons word rest inductionHypothesis =>
      rw [List.cons_append, tokensAt, tokensAt, inductionHypothesis, List.length_cons,
        List.cons_append, Nat.add_assoc number 1, Nat.add_comm 1]

/-- What holds of the terminals of words holds of the terminals of their tokens. -/
theorem forall_mem_tokensAt (holds : Terminal → Prop) {words : List Word}
    (each : ∀ word ∈ words, holds word.terminal) :
    ∀ token ∈ tokensAt place number words, holds token.terminal := by
  induction words generalizing number with
  | nil => simp [tokensAt]
  | cons word rest inductionHypothesis =>
      rw [tokensAt, List.forall_mem_cons]
      exact ⟨each word (by simp),
        inductionHypothesis fun other inside => each other (by simp [inside])⟩

/-! ## Names -/

private theorem names_append (first second : List Token) :
    names (first ++ second) = names first ++ names second := by
  simp [names]

private theorem names_tokensAt_name (place : Nat → Position) (number : Nat) (name : String)
    (rest : List Word) :
    names (tokensAt place number (.name name :: rest)) =
      name :: names (tokensAt place (number + 1) rest) := rfl

private theorem names_listedNames (names : List String) :
    Declaration.names (tokensAt place number (listedNames names)) = names := by
  induction names generalizing number with
  | nil => rfl
  | cons name rest inductionHypothesis =>
      cases rest with
      | nil => rfl
      | cons second others => exact congrArg (name :: ·) inductionHypothesis

/-! ## Lists -/

private theorem splitCommas_append_comma {run rest : List Token} {comma : Token}
    (plain : ∀ token ∈ run, token.terminal ≠ .comma) (isComma : comma.terminal = .comma) :
    splitCommas (run ++ comma :: rest) = run :: splitCommas rest := by
  induction run with
  | nil => rw [List.nil_append, splitCommas, if_pos isComma]
  | cons token run inductionHypothesis =>
      rw [List.cons_append, splitCommas, if_neg (plain token (by simp)),
        inductionHypothesis fun other inside => plain other (by simp [inside])]

private theorem splitCommas_of_plain {run : List Token}
    (plain : ∀ token ∈ run, token.terminal ≠ .comma) : splitCommas run = [run] := by
  induction run with
  | nil => rfl
  | cons token run inductionHypothesis =>
      rw [splitCommas, if_neg (plain token (by simp)),
        inductionHypothesis fun other inside => plain other (by simp [inside])]

def Terminal.isInner : Terminal → Bool
  | .equal => true
  | .text => true
  | .falseWord => true
  | .name => true
  | .nilWord => true
  | .questionMark => true
  | .number => true
  | .star => true
  | .trueWord => true
  | .underscore => true
  | .doubleStar => true
  | _ => false

structure IsReadBy {α : Type} (words : α → List Word) (move : α → Position → α)
    (read : List Token → Except LiteralFault (Option α)) (part : α) : Prop where
  nonempty : words part ≠ []
  inner : (words part).all (·.terminal.isInner) = true
  reads : ∀ place number, read (tokensAt place number (words part)) =
    .ok (some (move part (place number)))

variable {α : Type} {words : α → List Word} {move : α → Position → α}
  {read : List Token → Except LiteralFault (Option α)} {items : List α}

private theorem filterMapM_splitCommas (each : ∀ part ∈ items, IsReadBy words move read part)
    (nonempty : items ≠ []) :
    (splitCommas (tokensAt place number (listed (items.map words)))).filterMapM read =
      .ok (placedParts words move place number items) := by
  induction items generalizing number with
  | nil => exact absurd rfl nonempty
  | cons part rest inductionHypothesis =>
      have own := each part (by simp)
      have plain : ∀ token ∈ tokensAt place number (words part), token.terminal ≠ .comma := by
        refine forall_mem_tokensAt (· ≠ .comma) fun word inside isComma => ?_
        have inner := List.all_eq_true.mp own.inner word inside
        rw [isComma] at inner
        cases inner
      cases rest with
      | nil =>
          rw [List.map_singleton, listed, splitCommas_of_plain plain, List.filterMapM_cons,
            own.reads]
          rfl
      | cons second others =>
          have later := @inductionHypothesis (number + (words part).length + 1)
            (fun other inside => each other (by simp [inside])) (by simp)
          rw [List.map_cons, List.map_cons, listed, tokensAt_append, tokensAt,
            splitCommas_append_comma plain rfl, List.filterMapM_cons, own.reads,
            ← List.map_cons, placedParts]
          simp only [Traversal.ok_bind, later]
          rfl

private theorem tokensAt_ne_nil {list : List Word} (nonempty : list ≠ []) :
    tokensAt place number list ≠ [] := by
  cases list with
  | nil => exact absurd rfl nonempty
  | cons word rest => simp [tokensAt]

private theorem listed_ne_nil (each : ∀ part ∈ items, words part ≠ []) (nonempty : items ≠ []) :
    listed (items.map words) ≠ [] := by
  cases items with
  | nil => exact absurd rfl nonempty
  | cons part rest =>
      have own := each part (by simp)
      cases rest <;> simp [listed, own]

/-- Every word of a list is a comma or stands in a part. -/
theorem inner_listed (each : ∀ part ∈ items, IsReadBy words move read part) :
    ∀ word ∈ listed (items.map words), word.terminal = .comma ∨ word.terminal.isInner = true :=
  forall_mem_listed (fun word => word.terminal = .comma ∨ _) (Or.inl rfl)
    fun part isPart word inside =>
    Or.inr (List.all_eq_true.mp (each part isPart).inner word inside)

/-- The tokens inside the first parentheses are those of the list. -/
private theorem parts_tokensAt (each : ∀ part ∈ items, IsReadBy words move read part)
    (name : String) (after : List Word) :
    parts (tokensAt place number (.name name :: .fixed .openParen ::
        (listed (items.map words) ++ .fixed .closeParen :: after))) =
      let inside := tokensAt place (number + 2) (listed (items.map words))
      if inside.isEmpty then [] else splitCommas inside := by
  have cut : (tokensAt place (number + 2) (listed (items.map words) ++
      .fixed .closeParen :: after)).takeWhile (·.terminal ≠ .closeParen) =
        tokensAt place (number + 2) (listed (items.map words)) := by
    rw [tokensAt_append, tokensAt]
    refine takeWhile_stop ?_ (by simp [Word.tokenAt, Word.fixed])
    refine forall_mem_tokensAt (fun terminal => decide (terminal ≠ .closeParen) = true) ?_
    intro word isWord
    rcases inner_listed each word isWord with isComma | inner
    · rw [isComma]
      rfl
    · revert inner
      cases word.terminal <;> decide
  rw [← cut]
  rfl

/-- **The parts of a list in parentheses are read back**, each at the place of its first
word. -/
theorem filterMapM_parts (each : ∀ part ∈ items, IsReadBy words move read part) (name : String)
    (after : List Word) :
    (parts (tokensAt place number (.name name :: .fixed .openParen ::
        (listed (items.map words) ++ .fixed .closeParen :: after)))).filterMapM read =
      .ok (placedParts words move place (number + 2) items) := by
  rw [parts_tokensAt each]
  dsimp only
  by_cases empty : items = []
  · subst empty
    rfl
  · have nonempty : tokensAt place (number + 2) (listed (items.map words)) ≠ [] :=
      tokensAt_ne_nil (listed_ne_nil (fun part inside => (each part inside).nonempty) empty)
    rw [if_neg (by simpa using nonempty), filterMapM_splitCommas each empty]

end Tokens

/-! ## Parts -/

private theorem inner_literal (value : Value) :
    [Word.literal value].all (·.terminal.isInner) = true := by
  have isLiteral := Word.isLiteral_literal value
  rw [List.all_cons, List.all_nil, Bool.and_true]
  revert isLiteral
  cases (Word.literal value).terminal <;> decide

/-- The first literal behind tokens that are none. -/
theorem firstValue_append_literal {value : Value} (isLiteral : isLiteralValue value = true)
    {before : List Token} (plain : before.all (!·.terminal.isLiteral) = true)
    (position : Position) :
    firstValue (before ++ [(Word.literal value).tokenAt position]) = .ok (some value) := by
  have found : ((Word.literal value).tokenAt position).terminal.isLiteral = true :=
    Word.isLiteral_literal value
  have first : (before ++ [(Word.literal value).tokenAt position]).find?
      (·.terminal.isLiteral) = some ((Word.literal value).tokenAt position) := by
    rw [List.find?_append, List.find?_eq_none.mpr (by simpa using plain)]
    simp [found]
  rw [firstValue, first]
  exact value?_literal isLiteral position

private theorem ParamDecl.isReadBy {decl : ParamDecl} (spellable : decl.isSpellable = true) :
    IsReadBy words moved ofPart? decl := by
  obtain ⟨kind, name, position⟩ := decl
  rw [isSpellable, Bool.and_eq_true] at spellable
  cases kind with
  | plain =>
      obtain ⟨own, rfl⟩ := Option.isSome_iff_exists.mp spellable.2
      exact ⟨List.cons_ne_nil _ _, rfl, fun _ _ => rfl⟩
  | fallback value =>
      obtain ⟨isNamed, isLiteral⟩ := (Bool.and_eq_true _ _).mp spellable.2
      obtain ⟨own, rfl⟩ := Option.isSome_iff_exists.mp isNamed
      refine ⟨List.cons_ne_nil _ _, inner_literal value, fun place number => ?_⟩
      show (firstValue (tokensAt place number [.name own, .fixed .equal] ++
        [(Word.literal value).tokenAt (place (number + 1 + 1))]) >>= _) = _
      rw [firstValue_append_literal isLiteral rfl]
      rfl
  | star => cases name <;> exact ⟨List.cons_ne_nil _ _, rfl, fun _ _ => rfl⟩
  | doubleStar =>
      obtain ⟨own, rfl⟩ := Option.isSome_iff_exists.mp spellable.2
      exact ⟨List.cons_ne_nil _ _, rfl, fun _ _ => rfl⟩

/-- The word of a literal by itself. -/
theorem firstValue_literal {value : Value} (isLiteral : isLiteralValue value = true)
    (position : Position) :
    firstValue [(Word.literal value).tokenAt position] = .ok (some value) :=
  @firstValue_append_literal value isLiteral [] rfl position

private theorem SpecDecl.isReadBy {decl : SpecDecl} (spellable : decl.isSpellable = true) :
    IsReadBy words moved ofPart? decl := by
  obtain ⟨kind, position⟩ := decl
  cases kind with
  | any => exact ⟨List.cons_ne_nil _ _, rfl, fun _ _ => rfl⟩
  | ofType name => exact ⟨List.cons_ne_nil _ _, rfl, fun _ _ => rfl⟩
  | exactly value =>
      refine ⟨List.cons_ne_nil _ _, inner_literal value, fun place number => ?_⟩
      have isLiteral := Word.isLiteral_literal value
      show (firstValue [(Word.literal value).tokenAt (place number)] >>= _) = _
      rw [firstValue_literal spellable]
      simp only [Word.tokenAt, words, tokensAt, Traversal.ok_bind, moved]
      -- The terminal of a literal is not that of a name, which would come first.
      generalize (Word.literal value).terminal = terminal at isLiteral
      cases terminal <;> cases isLiteral <;> rfl

private theorem ArgDecl.isReadBy {decl : ArgDecl} (spellable : decl.isSpellable = true) :
    IsReadBy words moved ofPart? decl := by
  obtain ⟨kind, position⟩ := decl
  cases kind with
  | top => exact ⟨List.cons_ne_nil _ _, rfl, fun _ _ => rfl⟩
  | ofType name => exact ⟨List.cons_ne_nil _ _, rfl, fun _ _ => rfl⟩
  | literal value =>
      refine ⟨List.cons_ne_nil _ _, inner_literal value, fun place number => ?_⟩
      have isLiteral := Word.isLiteral_literal value
      show (firstValue [(Word.literal value).tokenAt (place number)] >>= _) = _
      rw [firstValue_literal spellable]
      simp only [Word.tokenAt, words, tokensAt, Traversal.ok_bind, moved]
      -- The terminal of a literal is not that of a name, which would come first.
      generalize (Word.literal value).terminal = terminal at isLiteral
      cases terminal <;> cases isLiteral <;> rfl

/-! ## Declarations -/

private theorem groups_append {body rest : List Token}
    (plain : ∀ token ∈ body, token.terminal.opensDeclaration = false) :
    groups (body ++ rest) = groups rest := by
  induction body with
  | nil => rfl
  | cons token body inductionHypothesis =>
      rw [List.cons_append, groups, if_neg (by simp [plain token (by simp)])]
      exact inductionHypothesis fun other inside => plain other (by simp [inside])

/-- A declaration ends where the next one is opened. -/
private theorem groups_declaration {opener : Token} {body rest : List Token}
    (opens : opener.terminal.opensDeclaration = true)
    (plain : ∀ token ∈ body, token.terminal.opensDeclaration = false)
    (next : ∀ token ∈ rest.head?, token.terminal.opensDeclaration = true) :
    groups (opener :: (body ++ rest)) = (opener, body) :: groups rest := by
  have cut : (body ++ rest).takeWhile (!·.terminal.opensDeclaration) = body :=
    takeWhile_stop (by simpa using plain) (by simpa using next)
  rw [groups, if_pos opens, cut, groups_append plain]

structure Item.IsGroup (item : Item) (opener : Terminal) (body : List Word) : Prop where
  words : item.words = .fixed opener :: body
  opens : opener.opensDeclaration = true
  plain : ∀ word ∈ body, word.terminal.opensDeclaration = false
  reads : ∀ place number, ofGroup ((Word.fixed opener).tokenAt (place number),
    tokensAt place (number + 1) body) = .ok (item.placed place number)

private theorem plain_listedNames (names : List String) :
    ∀ word ∈ listedNames names, word.terminal.opensDeclaration = false := by
  refine forall_mem_listed (·.terminal.opensDeclaration = false) rfl ?_
  intro name _ word inside
  rw [List.mem_singleton.mp inside]
  rfl

private theorem plain_precedenceWords (precedence : Option (List String)) :
    ∀ word ∈ precedenceWords precedence, word.terminal.opensDeclaration = false := by
  cases precedence with
  | none => simp [precedenceWords]
  | some names =>
      simp only [precedenceWords, List.forall_mem_cons, List.forall_mem_append]
      exact ⟨rfl, rfl, plain_listedNames names, rfl, by simp⟩

private theorem plain_of_inner {terminal : Terminal}
    (inList : terminal = .comma ∨ terminal.isInner = true) :
    terminal.opensDeclaration = false ∧ terminal ≠ .precedenceWord := by
  revert inList
  cases terminal <;> decide

theorem TypeDecl.isGroup (decl : TypeDecl) : ∃ body, (Item.type decl).IsGroup .typeWord body := by
  refine ⟨_, rfl, rfl, ?_, fun place number => ?_⟩
  · rw [List.forall_mem_cons]
    refine ⟨rfl, ?_⟩
    split
    · simp
    · exact List.forall_mem_cons.mpr ⟨rfl, plain_listedNames _⟩
  · show Except.ok (Item.type (ofTokens (place number) _)) = _
    obtain ⟨name, supertypes, position⟩ := decl
    cases supertypes with
    | nil => rfl
    | cons first rest =>
        have supertypes :
            names (tokensAt place (number + 1 + 1 + 1) (listedNames (first :: rest))) =
            first :: rest := names_listedNames _
        simp only [ofTokens, names_tokensAt_name, List.headD_cons, List.drop_one, List.tail_cons]
        show Except.ok (Item.type ⟨name, names (tokensAt place (number + 1 + 1 + 1)
          (listedNames (first :: rest))), place number⟩) = _
        rw [supertypes]
        rfl

/-- Nothing before the word for precedence is that word. -/
private theorem precedenceNames?_tokensAt {place : Nat → Position} {number : Nat}
    {before : List Word} (plain : ∀ word ∈ before, word.terminal ≠ .precedenceWord)
    (precedence : Option (List String)) :
    precedenceNames? (tokensAt place number (before ++ precedenceWords precedence)) =
      precedence := by
  have passed : ∀ token ∈ tokensAt place number before,
      decide (token.terminal ≠ .precedenceWord) = true :=
    forall_mem_tokensAt (fun terminal => decide (terminal ≠ .precedenceWord) = true)
      (by simpa using plain)
  rw [precedenceNames?, tokensAt_append, List.dropWhile_append_of_pos passed]
  cases precedence with
  | none => rfl
  | some order =>
      generalize number + before.length = start
      show some (names (tokensAt place (start + 1) (.fixed .openParen ::
        (listedNames order ++ [.fixed .closeParen])))) = some order
      rw [tokensAt, tokensAt_append]
      show some (names (tokensAt place (start + 1 + 1) (listedNames order) ++ _)) = some order
      rw [names_append, names_listedNames]
      simp [names, tokensAt, Word.tokenAt, Word.fixed]

theorem GenericDecl.isGroup {decl : GenericDecl} (spellable : decl.isSpellable = true) :
    ∃ body, (Item.generic decl).IsGroup .genericWord body := by
  simp only [isSpellable, Bool.and_eq_true, List.all_eq_true] at spellable
  have each : ∀ param ∈ decl.params,
      IsReadBy ParamDecl.words ParamDecl.moved ParamDecl.ofPart? param :=
    fun param inside => ParamDecl.isReadBy (spellable.1.2 param inside)
  have inner := inner_listed each
  refine ⟨_, rfl, rfl, ?_, fun place number => ?_⟩
  · refine List.forall_mem_cons.mpr ⟨rfl, List.forall_mem_cons.mpr ⟨rfl,
      List.forall_mem_append.mpr ⟨fun word inside => (plain_of_inner (inner word inside)).1,
        List.forall_mem_cons.mpr ⟨rfl, plain_precedenceWords _⟩⟩⟩⟩
  · have params := @filterMapM_parts place (number + 1) _ _ _ _ _ each decl.name
      (precedenceWords decl.precedence)
    have ordered : precedenceNames? (tokensAt place (number + 1) (.name decl.name ::
        .fixed .openParen :: (listed (decl.params.map ParamDecl.words) ++
          .fixed .closeParen :: precedenceWords decl.precedence))) = decl.precedence := by
      rw [List.append_cons, ← List.cons_append, ← List.cons_append]
      apply precedenceNames?_tokensAt
      simp only [List.forall_mem_cons, List.forall_mem_append]
      exact ⟨by simp [Word.name], by decide,
        fun word inside => (plain_of_inner (inner word inside)).2,
        by decide, by simp⟩
    show (ofTokens (place number) _).map Item.generic = _
    simp only [ofTokens, params, ordered, Traversal.ok_bind]
    rfl

theorem MethodDecl.isGroup {decl : MethodDecl} (spellable : decl.isSpellable = true) :
    ∃ body, (Item.method decl).IsGroup .methodWord body := by
  rw [isSpellable, Bool.and_eq_true, List.all_eq_true] at spellable
  have each : ∀ spec ∈ decl.specs, IsReadBy SpecDecl.words SpecDecl.moved SpecDecl.ofPart? spec :=
    fun spec inside => SpecDecl.isReadBy (spellable.2 spec inside)
  have inner := inner_listed each
  refine ⟨_, rfl, rfl, ?_, fun place number => ?_⟩
  · simp only [List.forall_mem_cons, List.forall_mem_append]
    exact ⟨rfl, rfl, fun word inside => (plain_of_inner (inner word inside)).1, rfl, by simp⟩
  · have specs := @filterMapM_parts place (number + 1) _ _ _ _ _ each decl.generic []
    show (ofTokens (place number) _).map Item.method = _
    simp only [ofTokens, specs, Traversal.ok_bind]
    rfl

theorem Item.isGroup {item : Item} (spellable : item.isSpellable = true) :
    ∃ opener body, item.IsGroup opener body := by
  cases item with
  | type decl => exact ⟨.typeWord, decl.isGroup⟩
  | generic decl => exact ⟨.genericWord, GenericDecl.isGroup spellable⟩
  | method decl => exact ⟨.methodWord, MethodDecl.isGroup spellable⟩

/-- Declarations start with an opening word. -/
private theorem head_items {place : Nat → Position} {number : Nat} {items : List Item}
    (spellable : ∀ item ∈ items, item.isSpellable = true) :
    ∀ token ∈ (tokensAt place number (items.flatMap Item.words)).head?,
      token.terminal.opensDeclaration = true := by
  intro token isHead
  cases items with
  | nil => cases isHead
  | cons item rest =>
      obtain ⟨opener, body, group⟩ := Item.isGroup (spellable item (by simp))
      rw [List.flatMap_cons, group.words] at isHead
      cases isHead
      exact group.opens

/-- **The declarations of a program are read back**, each at the place of its first
word. -/
theorem mapM_groups {place : Nat → Position} {number : Nat} {items : List Item}
    (spellable : ∀ item ∈ items, item.isSpellable = true) :
    (groups (tokensAt place number (items.flatMap Item.words))).mapM Item.ofGroup =
      .ok (placedItems place number items) := by
  induction items generalizing number with
  | nil => rfl
  | cons item rest inductionHypothesis =>
      obtain ⟨opener, body, group⟩ := Item.isGroup (spellable item (by simp))
      have restSpellable : ∀ other ∈ rest, other.isSpellable = true :=
        fun other inside => spellable other (by simp [inside])
      have cut : groups (tokensAt place number ((item :: rest).flatMap Item.words)) =
          ((Word.fixed opener).tokenAt (place number), tokensAt place (number + 1) body) ::
            groups (tokensAt place (number + item.words.length) (rest.flatMap Item.words)) := by
        rw [List.flatMap_cons, tokensAt_append, group.words, tokensAt, List.cons_append]
        apply groups_declaration
        · exact group.opens
        · exact forall_mem_tokensAt (·.opensDeclaration = false) group.plain
        · exact head_items restSpellable
      rw [cut, List.mapM_cons, group.reads, inductionHypothesis restSpellable]
      rfl

/-- **A call site is read back.** -/
theorem CallDecl.ofTokens_tokensAt {place : Nat → Position} {decl : CallDecl}
    (spellable : decl.isSpellable = true) :
    ofTokens (tokensAt place 0 decl.words) = .ok (decl.placed place) := by
  rw [isSpellable, Bool.and_eq_true, List.all_eq_true] at spellable
  have each : ∀ arg ∈ decl.args, IsReadBy ArgDecl.words ArgDecl.moved ArgDecl.ofPart? arg :=
    fun arg inside => ArgDecl.isReadBy (spellable.2 arg inside)
  have args := @filterMapM_parts place 0 _ _ _ _ _ each decl.name []
  simp only [ofTokens, words, args, Traversal.ok_bind]
  rfl

end StaticDispatch.Declaration
