import StaticDispatch.Proofs.ParamList

/-!
Contract: what the parameters and the arguments in the source of a wrapper mean.

The source writes its parameters, and the arguments of every call, as a list of items
with commas between them. Read as parameters, the items make a signature, whose defaults
are found by name. Read as arguments, they make a call, whose values are found in the
frame of the running function. Names are read in their normal form.

Owns: items, their reading and writing, signatures and calls that items make.
Does not own: what a signature binds.
-/

namespace StaticDispatch

/-! ## Items -/

/-- One item of a list of parameters or of arguments, as it is written. -/
inductive Piece where
  | plain (own : String)
  | assigned (own source : String)
  | spread (own : String)
  /-- A star alone, behind which there are only parameters that are given by name. -/
  | mark
  | spreadKeys (own : String)
deriving DecidableEq

namespace Piece

def text : Piece → String
  | .plain own => own
  | .assigned own source => own ++ "=" ++ source
  | .spread own => "*" ++ own
  | .mark => "*"
  | .spreadKeys own => "**" ++ own

def names : Piece → List String
  | .plain own => [own]
  | .assigned own source => [own, source]
  | .spread own => [own]
  | .mark => []
  | .spreadKeys own => [own]

def ofText? : List Char → Option Piece
  | ['*'] => some .mark
  | '*' :: '*' :: own => some (.spreadKeys (.ofList own))
  | '*' :: own => some (.spread (.ofList own))
  | item =>
      match item.splitOn '=' with
      | [own] => some (.plain (.ofList own))
      | [own, source] => some (.assigned (.ofList own) (.ofList source))
      | _ => none

/-- The items of a list. Blanks before an item do not count. -/
def listOfText? (text : String) : Option (List Piece) :=
  if text.toList.isEmpty then
    some []
  else
    (text.toList.splitOn ',').mapM fun item => ofText? (item.dropWhile (· == ' '))

def isMark (character : Char) : Bool :=
  character == ',' || character == '=' || character == '*' || character == ' '

structure Legible (own : String) : Prop where
  nonempty : own.toList ≠ []
  unmarked : ∀ character ∈ own.toList, isMark character = false

private theorem Legible.not_mem {own : String} (legible : Legible own) {character : Char}
    (marks : isMark character = true) : character ∉ own.toList := by
  intro inside
  rw [legible.unmarked character inside] at marks
  cases marks

private theorem isMark_of_isIdentifierContinue {character : Char}
    (marks : isMark character = true) : Text.isIdentifierContinue character = false := by
  simp only [isMark, Bool.or_eq_true, beq_iff_eq] at marks
  rcases marks with ((rfl | rfl) | rfl) | rfl <;> decide

private theorem isMark_of_isIdentifierStart {character : Char}
    (marks : isMark character = true) : Text.isIdentifierStart character = false := by
  simp only [isMark, Bool.or_eq_true, beq_iff_eq] at marks
  rcases marks with ((rfl | rfl) | rfl) | rfl <;> decide

theorem legible_of_isIdentifier {own : String} (isName : Text.isIdentifier own = true) :
    Legible own := by
  unfold Text.isIdentifier at isName
  cases characters : own.toList with
  | nil => simp [characters, Text.identifierShape] at isName
  | cons first rest =>
      rw [characters, Text.identifierShape, Bool.and_eq_true, List.all_eq_true] at isName
      obtain ⟨starts, continues⟩ := isName
      refine ⟨by simp [characters], ?_⟩
      rw [characters, List.forall_mem_cons]
      constructor
      · rw [Bool.eq_false_iff]
        intro marks
        simp [isMark_of_isIdentifierStart marks] at starts
      · intro character inside
        rw [Bool.eq_false_iff]
        intro marks
        have unmarked := continues character inside
        simp [isMark_of_isIdentifierContinue marks] at unmarked

/-- An item that starts with no star is read by where its equality sign stands. -/
theorem ofText?_of_not_star {item : List Char} (unstarred : '*' ∉ item) :
    ofText? item = match item.splitOn '=' with
      | [own] => some (.plain (.ofList own))
      | [own, source] => some (.assigned (.ofList own) (.ofList source))
      | _ => none := by
  unfold ofText?
  split <;> simp_all

private theorem splitOn_of_not_mem {mark : Char} {item : List Char} (absent : mark ∉ item) :
    item.splitOn mark = [item] := by
  have split : List.splitOn mark ([mark].intercalate [item]) = [item] :=
    List.splitOn_intercalate mark (by simpa using absent) (by simp)
  simpa using split

private theorem splitOn_equation {own source : String} (ownLegible : Legible own)
    (sourceLegible : Legible source) :
    (own.toList ++ '=' :: source.toList).splitOn '=' = [own.toList, source.toList] := by
  have split : List.splitOn '=' (['='].intercalate [own.toList, source.toList]) =
      [own.toList, source.toList] :=
    List.splitOn_intercalate '='
      (by simpa using ⟨ownLegible.not_mem rfl, sourceLegible.not_mem rfl⟩) (by simp)
  simpa using split

private theorem ofText?_star {own : String} (legible : Legible own) :
    ofText? ('*' :: own.toList) = some (.spread own) := by
  have unstarred : '*' ∉ own.toList := legible.not_mem rfl
  cases characters : own.toList with
  | nil => exact absurd characters legible.nonempty
  | cons first rest =>
      rw [characters, List.mem_cons, not_or] at unstarred
      rw [ofText?, ← characters, String.ofList_toList]
      · simp
      · intro others isOthers
        exact unstarred.1 (List.cons.inj isOthers).1.symm

/-- **An item is read as what was written.** -/
theorem ofText?_text {piece : Piece} (legible : ∀ own ∈ piece.names, Legible own) :
    ofText? piece.text.toList = some piece := by
  cases piece with
  | plain own =>
      have ownLegible : Legible own := legible own (by simp [names])
      rw [text, ofText?_of_not_star (ownLegible.not_mem rfl),
        splitOn_of_not_mem (ownLegible.not_mem rfl)]
      simp
  | assigned own source =>
      have ownLegible : Legible own := legible own (by simp [names])
      have sourceLegible : Legible source := legible source (by simp [names])
      have spelled : (own ++ "=" ++ source).toList = own.toList ++ '=' :: source.toList := by simp
      rw [text, spelled, ofText?_of_not_star, splitOn_equation ownLegible sourceLegible]
      · simp
      · simpa using ⟨ownLegible.not_mem rfl, sourceLegible.not_mem rfl⟩
  | spread own =>
      simpa [text] using ofText?_star (legible own (by simp [names]))
  | mark => rfl
  | spreadKeys own => simp [text, ofText?]

theorem not_mem_text {piece : Piece} (legible : ∀ own ∈ piece.names, Legible own)
    {character : Char} (isDivider : character = ',' ∨ character = ' ') :
    character ∉ piece.text.toList := by
  have marks : isMark character = true := by rcases isDivider with rfl | rfl <;> rfl
  have absent : ∀ own ∈ piece.names, character ∉ own.toList :=
    fun own inside => (legible own inside).not_mem marks
  have notStar : character ≠ '*' := by rcases isDivider with rfl | rfl <;> decide
  have notSign : character ≠ '=' := by rcases isDivider with rfl | rfl <;> decide
  cases piece <;> simp_all [text, names]

private theorem text_ne_nil {piece : Piece} (legible : ∀ own ∈ piece.names, Legible own) :
    piece.text.toList ≠ [] := by
  cases piece with
  | plain own => exact (legible own (by simp [names])).nonempty
  | assigned own source => simp [text]
  | spread own => simp [text]
  | mark => simp [text]
  | spreadKeys own => simp [text]

/-- Between items stands a comma, and each item but the first comes behind a blank. -/
private theorem intercalate_eq (first : List Char) (rest : List (List Char)) :
    [',', ' '].intercalate (first :: rest) =
      [','].intercalate (first :: rest.map (' ' :: ·)) := by
  induction rest generalizing first with
  | nil => simp
  | cons second others inductionHypothesis =>
      rw [List.map_cons, List.intercalate_cons_cons, List.intercalate_cons_cons,
        inductionHypothesis]
      cases others <;> simp

/-- **A list of items is read as what was written.** -/
theorem listOfText?_texts {pieces : List Piece}
    (legible : ∀ piece ∈ pieces, ∀ own ∈ piece.names, Legible own) :
    listOfText? (String.intercalate ", " (pieces.map text)) = some pieces := by
  cases pieces with
  | nil => rfl
  | cons first rest =>
      have firstLegible := legible first (by simp)
      have spelled : (String.intercalate ", " ((first :: rest).map text)).toList =
          [','].intercalate (first.text.toList :: rest.map (' ' :: ·.text.toList)) := by
        rw [String.toList_intercalate, List.map_cons, List.map_cons, List.map_map]
        exact (intercalate_eq _ _).trans (by simp [Function.comp_def])
      have nonempty : (String.intercalate ", " ((first :: rest).map text)).toList.isEmpty =
          false := by
        rw [spelled, List.isEmpty_eq_false_iff]
        cases rest <;> simp [text_ne_nil firstLegible]
      have trimmed : ∀ piece ∈ first :: rest,
          piece.text.toList.dropWhile (· == ' ') = piece.text.toList := by
        intro piece inside
        have absent := not_mem_text (legible piece inside) (.inr rfl)
        cases characters : piece.text.toList with
        | nil => rfl
        | cons character others =>
            rw [characters, List.mem_cons, not_or] at absent
            simp [Ne.symm absent.1]
      rw [listOfText?, nonempty, spelled, List.splitOn_intercalate ',']
      · rw [if_neg (by simp), Traversal.mapM_eq_some_iff, List.forall₂_cons]
        constructor
        · rw [trimmed first (by simp)]
          exact ofText?_text firstLegible
        · rw [List.forall₂_map_left_iff, List.forall₂_same]
          intro piece inside
          have isPiece : piece ∈ first :: rest := by simp [inside]
          rw [List.dropWhile_cons_of_pos (by rfl), trimmed piece isPiece]
          exact ofText?_text (legible piece isPiece)
      · simp only [List.forall_mem_cons, List.forall_mem_map]
        refine ⟨not_mem_text firstLegible (.inl rfl), fun piece inside => ?_⟩
        have isPiece : piece ∈ first :: rest := by simp [inside]
        simpa using not_mem_text (legible piece isPiece) (.inl rfl)
      · simp

end Piece

/-! ## Signatures -/

/-- A name as it is read: an identifier, in its normal form. -/
def readName? (own : String) : Option String :=
  if Text.isIdentifier own && !Text.isReservedWord own then some (Text.normalForm own) else none

namespace Piece

def isPlain : Piece → Bool
  | .plain _ => true
  | _ => false

def isAssigned : Piece → Bool
  | .assigned .. => true
  | _ => false

def parameter? : Piece → Option String
  | .plain own => readName? own
  | _ => none

def defaultParam? (space : List (String × Value)) : Piece → Option DefaultParam
  | .assigned own source => do
      let name ← readName? own
      let fallback ← space.lookup (← readName? source)
      return { name, fallback }
  | _ => none

end Piece

namespace ParamList

/-- The rest parameter, and the items behind the place where it stands. A star alone
stands before a parameter that is given by name. -/
def splitRest? : List Piece → Option (Option String × List Piece)
  | .spread own :: others => (readName? own).map fun name => (some name, others)
  | .mark :: .assigned own source :: others => some (none, .assigned own source :: others)
  | .mark :: _ => none
  | others => some (none, others)

/-- The parameter for other keys, which comes last. -/
def lastKeys? : List Piece → Option (Option String)
  | [] => some none
  | [.spreadKeys own] => (readName? own).map some
  | _ => none

/-- The signature that items make. No two parameters may have the same name. -/
def ofPieces? (space : List (String × Value)) (pieces : List Piece) : Option ParamList := do
  let required ← (pieces.takeWhile Piece.isPlain).mapM Piece.parameter?
  let pieces := pieces.dropWhile Piece.isPlain
  let optional ← (pieces.takeWhile Piece.isAssigned).mapM (Piece.defaultParam? space)
  let (rest, pieces) ← splitRest? (pieces.dropWhile Piece.isAssigned)
  let keywords ← (pieces.takeWhile Piece.isAssigned).mapM (Piece.defaultParam? space)
  let otherKeys ← lastKeys? (pieces.dropWhile Piece.isAssigned)
  let params : ParamList := { required, optional, rest, keywords, otherKeys }
  if params.names.Nodup then some params else none

def ofText? (text : String) (space : List (String × Value)) : Option ParamList := do
  ofPieces? space (← Piece.listOfText? text)

end ParamList

/-! ## Calls -/

inductive Slot where
  | one (value : Value)
  | many (values : List Value)
  | keyed (entries : List (String × Value))

namespace Slot

def value? : Slot → Option Value
  | .one value => some value
  | _ => none

def values? : Slot → Option (List Value)
  | .many values => some values
  | _ => none

def entries? : Slot → Option (List (String × Value))
  | .keyed entries => some entries
  | _ => none

end Slot

/-- What all parameters stand for while a wrapper runs. -/
def ParamList.frame (params : ParamList) (binding : Binding) : List (String × Slot) :=
  params.required.zip (binding.required.map .one) ++
    (params.optional.map (·.name)).zip (binding.optional.map .one) ++
    params.rest.toList.map (·, .many binding.rest) ++
    (params.keywords.map (·.name)).zip (binding.keywords.map .one) ++
    params.otherKeys.toList.map (·, .keyed binding.otherKeys)

namespace Piece

def isPositional : Piece → Bool
  | .plain _ => true
  | .spread _ => true
  | _ => false

def positional? (frame : List (String × Slot)) : Piece → Option (List Value)
  | .plain own => do
      let slot ← frame.lookup (← readName? own)
      return [← slot.value?]
  | .spread own => do
      let slot ← frame.lookup (← readName? own)
      slot.values?
  | _ => none

def named? (frame : List (String × Slot)) : Piece → Option (List (String × Value))
  | .assigned own source => do
      let slot ← frame.lookup (← readName? source)
      return [(← readName? own, ← slot.value?)]
  | .spreadKeys own => do
      let slot ← frame.lookup (← readName? own)
      slot.entries?
  | _ => none

end Piece

namespace Call

/-- The call that items make. Positional arguments come first, and no two arguments may
have the same name. -/
def ofPieces? (frame : List (String × Slot)) (pieces : List Piece) : Option Call := do
  let positional ← (pieces.takeWhile Piece.isPositional).mapM (Piece.positional? frame)
  let named ← (pieces.dropWhile Piece.isPositional).mapM (Piece.named? frame)
  if (named.flatten.map (·.1)).Nodup then
    some { positional := positional.flatten, named := named.flatten }
  else
    none

def ofText? (text : String) (frame : List (String × Slot)) : Option Call := do
  ofPieces? frame (← Piece.listOfText? text)

end Call

end StaticDispatch
