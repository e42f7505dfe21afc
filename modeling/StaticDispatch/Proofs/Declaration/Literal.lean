import StaticDispatch.Proofs.Declaration.Tokens
import StaticDispatch.Proofs.Hierarchy.WellFormed
import StaticDispatch.Proofs.Traversal
import StaticDispatch.Value.Display

/-!
Contract: texts only spell scalars.

A literal is a number, a text, a truth value or nil. So whatever hierarchy a text
is read against, it knows the classes of the values that the text spells, and each of
these values can be written.

Owns: the values and the classes of literals in declarations and call sites, and the
groups of tokens that declare.
Does not own: what the declarations and call sites mean.
-/

namespace StaticDispatch.Declaration

def IsPlain (value : Value) : Prop :=
  Hierarchy.builtin.Knows value.cls

/-- An integer that can be written, a text, a truth value or nil. -/
def IsScalar : Value → Prop
  | .nil => True
  | .bool _ => True
  | .int value => Number.isWritable value = true
  | .str _ => True
  | _ => False

theorem IsScalar.isPlain {value : Value} (scalar : IsScalar value) : IsPlain value := by
  cases value with
  | nil => simp only [IsPlain, Value.cls]; decide
  | bool _ => simp only [IsPlain, Value.cls]; decide
  | int _ => simp only [IsPlain, Value.cls]; decide
  | str _ => simp only [IsPlain, Value.cls]; decide
  | _ => exact scalar.elim

theorem IsScalar.isWritable {value : Value} (scalar : IsScalar value) :
    value.isWritable = true := by
  cases value with
  | nil => rfl
  | bool _ => rfl
  | int _ => exact scalar
  | str _ => rfl
  | _ => exact scalar.elim

private theorem isScalar_of_numberValue {text : String} {value : Value}
    (decimal : ∀ digit ∈ (Number.splitSign text.toList).2, isDecimalDigit digit = true)
    (spelled : numberValue text = .ok value) : IsScalar value := by
  unfold numberValue at spelled
  dsimp only at spelled
  split at spelled
  · rename_i own read
    cases spelled
    exact isWritable_of_readInteger decimal read
  · cases spelled

private theorem isScalar_of_textValue {text : String} {value : Value}
    (spelled : textValue text = .ok value) : IsScalar value := by
  unfold textValue at spelled
  split at spelled
  · cases spelled
  · split at spelled
    · cases spelled
      trivial
    · cases spelled

/-- **A literal is a scalar.** -/
theorem isScalar_of_value? {token : Token} {value : Value} (numeral : token.IsNumeral)
    (spelled : token.value? = .ok (some value)) : IsScalar value := by
  unfold Token.value? at spelled
  split at spelled
  · rename_i isNumber
    obtain ⟨own, isOwn, same⟩ := Traversal.map_eq_ok.mp spelled
    cases same
    exact isScalar_of_numberValue (numeral isNumber) isOwn
  · obtain ⟨own, isOwn, same⟩ := Traversal.map_eq_ok.mp spelled
    cases same
    exact isScalar_of_textValue isOwn
  · cases spelled
    trivial
  · cases spelled
    trivial
  · cases spelled
    trivial
  · cases spelled

theorem isScalar_of_firstValue {tokens : List Token} {value : Value}
    (numerals : ∀ token ∈ tokens, token.IsNumeral)
    (spelled : firstValue tokens = .ok (some value)) : IsScalar value := by
  unfold firstValue at spelled
  split at spelled
  · cases spelled
  · rename_i token found
    exact isScalar_of_value? (numerals token (List.mem_of_find?_eq_some found)) spelled

def SpecDecl.IsScalar (decl : SpecDecl) : Prop :=
  ∀ value, decl.kind = .exactly value → Declaration.IsScalar value

def ArgDecl.IsPlain (decl : ArgDecl) : Prop :=
  ∀ value, decl.kind = .literal value → Declaration.IsPlain value

def ArgDecl.IsScalar (decl : ArgDecl) : Prop :=
  ∀ value, decl.kind = .literal value → Declaration.IsScalar value

private theorem SpecDecl.isScalar_of_ofPart? {part : List Token} {decl : SpecDecl}
    (numerals : ∀ token ∈ part, token.IsNumeral)
    (spelled : SpecDecl.ofPart? part = .ok (some decl)) : decl.IsScalar := by
  obtain ⟨first, isFirst, made⟩ := Traversal.bind_eq_ok.mp spelled
  obtain ⟨token, -, declIs⟩ := Option.map_eq_some_iff.mp (Except.ok.inj made)
  intro value isExactly
  rw [← declIs] at isExactly
  dsimp only at isExactly
  split at isExactly
  · cases isExactly
  · cases isExactly
    exact isScalar_of_firstValue numerals isFirst
  · cases isExactly

private theorem ArgDecl.isScalar_of_ofPart? {part : List Token} {decl : ArgDecl}
    (numerals : ∀ token ∈ part, token.IsNumeral)
    (spelled : ArgDecl.ofPart? part = .ok (some decl)) : decl.IsScalar := by
  obtain ⟨first, isFirst, made⟩ := Traversal.bind_eq_ok.mp spelled
  obtain ⟨token, -, declIs⟩ := Option.map_eq_some_iff.mp (Except.ok.inj made)
  intro value literal
  rw [← declIs] at literal
  dsimp only at literal
  split at literal
  · cases literal
  · cases literal
    exact isScalar_of_firstValue numerals isFirst
  · cases literal

private theorem MethodDecl.isScalar_of_ofTokens {position : Position} {tokens : List Token}
    {decl : MethodDecl} (numerals : ∀ token ∈ tokens, token.IsNumeral)
    (spelled : MethodDecl.ofTokens position tokens = .ok decl) :
    ∀ spec ∈ decl.specs, spec.IsScalar := by
  obtain ⟨specs, specsAre, same⟩ := Traversal.bind_eq_ok.mp spelled
  cases same
  intro spec inside
  obtain ⟨part, isPart, isSpec⟩ := Traversal.exists_of_mem_filterMapM specsAre inside
  exact SpecDecl.isScalar_of_ofPart?
    (fun token isToken => numerals token (subset_of_mem_parts isPart isToken)) isSpec

/-- A program is read from the groups of its tokens. -/
theorem Program.exists_of_read {text : String} {program : Program}
    (spelled : Program.read text = .ok program) :
    ∃ accepted items, tokens .program .declaration text.toList = .ok accepted ∧
      (groups accepted).mapM Item.ofGroup = .ok items ∧ program = Program.ofItems items := by
  unfold Program.read at spelled
  split at spelled
  · cases spelled
  · rename_i accepted scanned
    split at spelled
    · cases spelled
    · rename_i items itemsAre
      cases spelled
      exact ⟨accepted, items, scanned, itemsAre, rfl⟩

/-- What a group of tokens declares. -/
theorem Item.ofGroup_cases {group : Token × List Token} {item : Item}
    (made : Item.ofGroup group = .ok item) :
    item = .type (TypeDecl.ofTokens group.1.position group.2) ∨
      (∃ decl, item = .generic decl ∧ group.1.terminal = .genericWord ∧
        GenericDecl.ofTokens group.1.position group.2 = .ok decl) ∨
      ∃ decl, item = .method decl ∧
        MethodDecl.ofTokens group.1.position group.2 = .ok decl := by
  unfold Item.ofGroup at made
  dsimp only at made
  split at made
  · rename_i isGeneric
    obtain ⟨decl, isDecl, same⟩ := Traversal.map_eq_ok.mp made
    exact Or.inr (Or.inl ⟨decl, same.symm, isGeneric, isDecl⟩)
  · obtain ⟨decl, isDecl, same⟩ := Traversal.map_eq_ok.mp made
    exact Or.inr (Or.inr ⟨decl, same.symm, isDecl⟩)
  · cases made
    exact Or.inl rfl

/-- A method is declared by a group of tokens. -/
theorem Program.exists_group_of_method {accepted : List Token} {items : List Item}
    (itemsAre : (groups accepted).mapM Item.ofGroup = .ok items) {decl : MethodDecl}
    (isMethod : decl ∈ (Program.ofItems items).methods) :
    ∃ group ∈ groups accepted, MethodDecl.ofTokens group.1.position group.2 = .ok decl := by
  obtain ⟨item, inside, isDecl⟩ := List.mem_filterMap.mp isMethod
  obtain ⟨group, isGroup, isItem⟩ :=
    Traversal.exists_of_mem_right (Traversal.mapM_eq_ok_iff.mp itemsAre) inside
  rcases Item.ofGroup_cases isItem with rfl | ⟨_, rfl, -⟩ | ⟨own, rfl, made⟩
  · cases isDecl
  · cases isDecl
  · cases isDecl
    exact ⟨group, isGroup, made⟩

/-- **A program asks for scalars only.** -/
theorem Program.isScalar_of_read {text : String} {program : Program}
    (spelled : Program.read text = .ok program) :
    ∀ decl ∈ program.methods, ∀ spec ∈ decl.specs, spec.IsScalar := by
  obtain ⟨accepted, items, scanned, itemsAre, rfl⟩ := Program.exists_of_read spelled
  intro decl isMethod
  obtain ⟨group, isGroup, made⟩ := Program.exists_group_of_method itemsAre isMethod
  exact MethodDecl.isScalar_of_ofTokens (fun token isToken =>
    isNumeral_of_tokens (by decide) scanned token (subset_of_mem_groups isGroup isToken)) made

/-- **A call site has scalar literals only.** -/
theorem CallDecl.isScalar_of_read {text : String} {decl : CallDecl}
    (spelled : CallDecl.read text = .ok decl) : ∀ arg ∈ decl.args, arg.IsScalar := by
  unfold CallDecl.read at spelled
  split at spelled
  · cases spelled
  · rename_i accepted scanned
    obtain ⟨args, argsAre, same⟩ :=
      Traversal.bind_eq_ok.mp (Traversal.mapError_eq_ok.mp spelled)
    cases same
    intro arg inside
    obtain ⟨part, isPart, isArg⟩ := Traversal.exists_of_mem_filterMapM argsAre inside
    exact ArgDecl.isScalar_of_ofPart? (fun token isToken =>
      isNumeral_of_tokens (by decide) scanned token (subset_of_mem_parts isPart isToken)) isArg

theorem CallDecl.isPlain_of_read {text : String} {decl : CallDecl}
    (spelled : CallDecl.read text = .ok decl) : ∀ arg ∈ decl.args, arg.IsPlain :=
  fun arg inside value literal => (isScalar_of_read spelled arg inside value literal).isPlain

end StaticDispatch.Declaration
