import StaticDispatch.Proofs.ParamList.Binding
import StaticDispatch.Proofs.ParamList.Reading

/-!
Contract: a wrapper passes all its arguments on unchanged.

The text of a wrapper's parameters makes a signature with the same names in the same
groups. The text of its arguments, read in the frame of a binding, makes the call that
passes the binding on, and the signature binds that call as it bound the first one.

Owns: what the two texts of a parameter list make, and that they fit each other.
Does not own: the wrapper around them.
-/

namespace StaticDispatch.ParamList

variable {params signature : ParamList} {call : Call} {binding : Binding}

/-! ## The texts as items -/

def formalPiece (param : DefaultParam) : Piece :=
  .assigned param.name (defaultName param.name)

def restPieces (params : ParamList) : List Piece :=
  match params.rest with
  | some name => [.spread name]
  | none => if params.keywords.isEmpty then [] else [.mark]

def formalPieces (params : ParamList) : List Piece :=
  params.required.map .plain ++ params.optional.map formalPiece ++
    params.restPieces ++ params.keywords.map formalPiece ++
    params.otherKeys.toList.map .spreadKeys

/-- The items of the arguments that pass all parameters on. -/
def callPieces (params : ParamList) : List Piece :=
  params.required.map .plain ++ params.optional.map (.plain ·.name) ++
    params.rest.toList.map .spread ++
    params.keywords.map (fun param => .assigned param.name param.name) ++
    params.otherKeys.toList.map .spreadKeys

theorem formalText_eq (params : ParamList) :
    params.formalText = String.intercalate ", " (params.formalPieces.map Piece.text) := by
  have marks : params.restPieces.map Piece.text = params.restMark := by
    unfold restPieces restMark
    cases params.rest with
    | some name => rfl
    | none => cases params.keywords <;> rfl
  have formals : ∀ given : List DefaultParam,
      (given.map formalPiece).map Piece.text = given.map DefaultParam.formal :=
    fun given => List.map_map
  simp only [formalText, formalPieces, List.map_append, marks, formals]
  simp [Function.comp_def, Piece.text]

theorem callText_eq (params : ParamList) :
    params.callText = String.intercalate ", " (params.callPieces.map Piece.text) := by
  simp [callText, callPieces, Function.comp_def, Piece.text]

private theorem legible_defaultName {name : String} (legible : Piece.Legible name) :
    Piece.Legible (defaultName name) := by
  have spelled : (defaultName name).toList = "_default_".toList ++ name.toList := by
    simp [defaultName]
  refine ⟨by simp [spelled], fun character inside => ?_⟩
  rw [spelled, List.mem_append] at inside
  rcases inside with inStart | inName
  · have plain : "_default_".toList.all (!Piece.isMark ·) = true := by decide
    simpa using List.all_eq_true.mp plain character inStart
  · exact legible.unmarked character inName

private theorem mem_names_of_mem_restPieces {piece : Piece} (inside : piece ∈ params.restPieces) :
    ∀ own ∈ piece.names, params.rest = some own := by
  unfold restPieces at inside
  split at inside
  · rename_i name isRest
    rw [List.mem_singleton.mp inside]
    simp [Piece.names, isRest]
  · split at inside
    · cases inside
    · rw [List.mem_singleton.mp inside]
      simp [Piece.names]

/-- What holds of all parameters and of the names of their defaults holds of all names in
the items of the parameters. -/
theorem names_formalPieces {property : String → Prop}
    (ofName : ∀ name ∈ params.names, property name)
    (ofDefault : ∀ {name}, property name → property (defaultName name)) :
    ∀ piece ∈ params.formalPieces, ∀ own ∈ piece.names, property own := by
  have formals : ∀ param : DefaultParam, param.name ∈ params.names →
      ∀ own ∈ (formalPiece param).names, property own := by
    intro param inside
    simpa [formalPiece, Piece.names] using ⟨ofName _ inside, ofDefault (ofName _ inside)⟩
  simp only [formalPieces, List.forall_mem_append, List.forall_mem_map]
  refine ⟨⟨⟨⟨?_, ?_⟩, ?_⟩, ?_⟩, ?_⟩
  · simpa [Piece.names] using fun name inside => ofName name (mem_names.mpr (.inl inside))
  · exact fun param inside => formals param (mem_names_of_default (.inl inside))
  · intro piece inside own isOwn
    exact ofName own (mem_names.mpr (.inr (.inr (.inl
      (mem_names_of_mem_restPieces inside own isOwn)))))
  · exact fun param inside => formals param (mem_names_of_default (.inr inside))
  · simpa [Piece.names] using fun name inside =>
      ofName name (mem_names.mpr (.inr (.inr (.inr (.inr inside)))))

/-- What holds of all parameters holds of all names in the items of the arguments. -/
theorem names_callPieces {property : String → Prop}
    (ofName : ∀ name ∈ params.names, property name) :
    ∀ piece ∈ params.callPieces, ∀ own ∈ piece.names, property own := by
  simp only [callPieces, List.forall_mem_append, List.forall_mem_map, Piece.names,
    List.forall_mem_cons, List.not_mem_nil, false_implies, implies_true, and_true, and_self]
  refine ⟨⟨⟨⟨?_, ?_⟩, ?_⟩, ?_⟩, ?_⟩
  · exact fun name inside => ofName name (mem_names.mpr (.inl inside))
  · exact fun param inside => ofName _ (mem_names_of_default (.inl inside))
  · intro name inside
    exact ofName name (mem_names.mpr (.inr (.inr (.inl (by simpa using inside)))))
  · exact fun param inside => ofName _ (mem_names_of_default (.inr inside))
  · intro name inside
    exact ofName name (mem_names.mpr (.inr (.inr (.inr (.inr (by simpa using inside))))))

private theorem legible_of_wellNamed (wellNamed : WellNamed params.names) :
    ∀ name ∈ params.names, Piece.Legible name :=
  fun name inside => Piece.legible_of_isIdentifier (wellNamed.identifiers name inside)

/-- The items of well named parameters can be told apart. -/
theorem listOfText?_formalText (wellNamed : WellNamed params.names) :
    Piece.listOfText? params.formalText = some params.formalPieces := by
  rw [formalText_eq]
  exact Piece.listOfText?_texts
    (names_formalPieces (legible_of_wellNamed wellNamed) legible_defaultName)

theorem listOfText?_callText (wellNamed : WellNamed params.names) :
    Piece.listOfText? params.callText = some params.callPieces := by
  rw [callText_eq]
  exact Piece.listOfText?_texts (names_callPieces (legible_of_wellNamed wellNamed))

/-! ## The signature -/

/-- The same names in the same groups. Defaults may differ. -/
structure SameNames (first second : ParamList) : Prop where
  required : first.required = second.required
  optional : first.optional.map (·.name) = second.optional.map (·.name)
  rest : first.rest = second.rest
  keywords : first.keywords.map (·.name) = second.keywords.map (·.name)
  otherKeys : first.otherKeys = second.otherKeys

private theorem readName?_eq (wellNamed : WellNamed params.names) {own : String}
    (inside : own ∈ params.names) : readName? own = some (Text.normalForm own) := by
  simp [readName?, wellNamed.identifiers own inside, wellNamed.unreserved own inside]

/-- A block of items of one kind ends where an item of another kind stands. -/
theorem span_block {kind : Piece → Bool} {block others : List Piece}
    (all : ∀ piece ∈ block, kind piece = true)
    (stops : ∀ piece ∈ others.head?, kind piece = false) :
    (block ++ others).takeWhile kind = block ∧ (block ++ others).dropWhile kind = others := by
  rw [List.takeWhile_append_of_pos all, List.dropWhile_append_of_pos all]
  cases others with
  | nil => simp
  | cons first rest => simp [stops first rfl]

def readDefault? (space : List (String × Value)) (param : DefaultParam) :
    Option DefaultParam :=
  (formalPiece param).defaultParam? space

/-- The items of the keyword parameters and of the other keys. -/
def keyPieces (params : ParamList) : List Piece :=
  params.keywords.map formalPiece ++ params.otherKeys.toList.map .spreadKeys

private theorem splitRest?_eq (wellNamed : WellNamed params.names) :
    splitRest? (params.restPieces ++ params.keyPieces) =
      some (params.rest.map Text.normalForm, params.keyPieces) := by
  unfold restPieces keyPieces
  cases isRest : params.rest with
  | some name =>
      have read := readName?_eq wellNamed (mem_names.mpr (.inr (.inr (.inl isRest))))
      simp [splitRest?, read]
  | none =>
      cases params.keywords with
      | nil => cases params.otherKeys <;> rfl
      | cons first others => rfl

private theorem lastKeys?_eq (wellNamed : WellNamed params.names) :
    lastKeys? (params.otherKeys.toList.map .spreadKeys) =
      some (params.otherKeys.map Text.normalForm) := by
  cases isKeys : params.otherKeys with
  | none => rfl
  | some name =>
      have read := readName?_eq wellNamed (mem_names.mpr (.inr (.inr (.inr (.inr isKeys)))))
      simp [lastKeys?, read]

private theorem mapM_parameter? (wellNamed : WellNamed params.names) :
    (params.required.map .plain).mapM Piece.parameter? =
      some (params.required.map Text.normalForm) := by
  rw [Traversal.mapM_eq_some_iff, List.forall₂_map_left_iff, List.forall₂_map_right_iff,
    List.forall₂_same]
  exact fun own inside => readName?_eq wellNamed (mem_names.mpr (.inl inside))

private theorem kind_of_mem_restPieces {piece : Piece} (inside : piece ∈ params.restPieces) :
    piece.isPlain = false ∧ piece.isAssigned = false := by
  unfold restPieces at inside
  split at inside
  · rw [List.mem_singleton.mp inside]
    exact ⟨rfl, rfl⟩
  · split at inside
    · cases inside
    · rw [List.mem_singleton.mp inside]
      exact ⟨rfl, rfl⟩

private theorem isPlain_of_mem_keyPieces {piece : Piece} (inside : piece ∈ params.keyPieces) :
    piece.isPlain = false := by
  simp only [keyPieces, List.mem_append, List.mem_map] at inside
  rcases inside with ⟨param, -, rfl⟩ | ⟨own, -, rfl⟩ <;> rfl

/-- Where the optional parameters end there is no other item with a default. -/
private theorem isAssigned_head?_rest {piece : Piece}
    (isHead : piece ∈ (params.restPieces ++ params.keyPieces).head?) :
    piece.isAssigned = false := by
  by_cases noMark : params.restPieces = []
  · have noKeywords : params.keywords = [] := by
      unfold restPieces at noMark
      split at noMark
      · cases noMark
      · simpa using noMark
    rw [noMark, keyPieces, noKeywords] at isHead
    obtain ⟨own, -, rfl⟩ := List.mem_map.mp (List.mem_of_mem_head? isHead)
    rfl
  · rw [List.head?_append_of_ne_nil _ noMark] at isHead
    exact (kind_of_mem_restPieces (List.mem_of_mem_head? isHead)).2

/-- **The items of the parameters make a signature of their normal forms**, if their
defaults are found and their names still differ. -/
theorem ofPieces?_formalPieces (wellNamed : WellNamed params.names)
    (space : List (String × Value)) :
    ofPieces? space params.formalPieces = (do
      let optional ← params.optional.mapM (readDefault? space)
      let keywords ← params.keywords.mapM (readDefault? space)
      let made := { params.normalized with optional, keywords }
      if made.names.Nodup then some made else none) := by
  have split : params.formalPieces = params.required.map .plain ++
      (params.optional.map formalPiece ++ (params.restPieces ++ params.keyPieces)) := by
    simp [formalPieces, keyPieces]
  have assigned : ∀ given : List DefaultParam, ∀ piece ∈ given.map formalPiece,
      piece.isAssigned = true := by
    intro given piece inside
    obtain ⟨param, -, rfl⟩ := List.mem_map.mp inside
    rfl
  obtain ⟨takeRequired, dropRequired⟩ :
      params.formalPieces.takeWhile Piece.isPlain = params.required.map .plain ∧
        params.formalPieces.dropWhile Piece.isPlain =
          params.optional.map formalPiece ++ (params.restPieces ++ params.keyPieces) := by
    rw [split]
    refine span_block (List.forall_mem_map.mpr fun _ _ => rfl) fun piece isHead => ?_
    rcases List.mem_append.mp (List.mem_of_mem_head? isHead) with isOptional | isLater
    · obtain ⟨param, -, rfl⟩ := List.mem_map.mp isOptional
      rfl
    · rcases List.mem_append.mp isLater with isRest | isKey
      · exact (kind_of_mem_restPieces isRest).1
      · exact isPlain_of_mem_keyPieces isKey
  have unassigned : ∀ piece ∈ (params.restPieces ++ params.keyPieces).head?,
      piece.isAssigned = false := fun _ => isAssigned_head?_rest
  obtain ⟨takeOptional, dropOptional⟩ := span_block (assigned params.optional) unassigned
  obtain ⟨takeKeywords, dropKeywords⟩ :
      params.keyPieces.takeWhile Piece.isAssigned = params.keywords.map formalPiece ∧
        params.keyPieces.dropWhile Piece.isAssigned =
          params.otherKeys.toList.map .spreadKeys := by
    refine span_block (assigned params.keywords) fun piece isHead => ?_
    obtain ⟨own, -, rfl⟩ := List.mem_map.mp (List.mem_of_mem_head? isHead)
    rfl
  have readDefaults : ∀ given : List DefaultParam,
      (given.map formalPiece).mapM (Piece.defaultParam? space) =
        given.mapM (readDefault? space) := fun given => List.mapM_map
  unfold ofPieces?
  simp only [takeRequired, dropRequired, takeOptional, dropOptional, mapM_parameter? wellNamed,
    splitRest?_eq wellNamed, takeKeywords, dropKeywords, lastKeys?_eq wellNamed, readDefaults,
    Option.bind_eq_bind, Option.bind_some]
  rfl

/-- The signature has the parameters in their normal forms. -/
private theorem sameNames_of_ofPieces? (wellNamed : WellNamed params.names)
    {space : List (String × Value)} (made : ofPieces? space params.formalPieces = some signature) :
    signature.SameNames params.normalized ∧ signature.names.Nodup := by
  have named : ∀ {given found : List DefaultParam}, given.mapM (readDefault? space) = some found →
      (∀ param ∈ given, param.name ∈ params.names) →
      found.map (·.name) = given.map (Text.normalForm ·.name) := by
    intro given found read inside
    rw [Traversal.mapM_eq_some_iff] at read
    induction read with
    | nil => rfl
    | @cons param made _ _ isMade _ inductionHypothesis =>
        rw [List.forall_mem_cons] at inside
        have isName : made.name = Text.normalForm param.name := by
          obtain ⟨name, isRead, isMade⟩ := Option.bind_eq_some_iff.mp isMade
          obtain ⟨_, -, isMade⟩ := Option.bind_eq_some_iff.mp isMade
          obtain ⟨_, -, isMade⟩ := Option.bind_eq_some_iff.mp isMade
          rw [readName?_eq wellNamed inside.1] at isRead
          cases isRead
          cases isMade
          rfl
        rw [List.map_cons, List.map_cons, isName, inductionHypothesis inside.2]
  rw [ofPieces?_formalPieces wellNamed] at made
  obtain ⟨optional, optionalAre, made⟩ := Option.bind_eq_some_iff.mp made
  obtain ⟨keywords, keywordsAre, made⟩ := Option.bind_eq_some_iff.mp made
  dsimp only at made
  split at made
  · rename_i distinct
    cases made
    refine ⟨⟨rfl, ?_, rfl, ?_, rfl⟩, distinct⟩
    · rw [named optionalAre fun param inside => mem_names_of_default (.inl inside)]
      simp [normalized]
    · rw [named keywordsAre fun param inside => mem_names_of_default (.inr inside)]
      simp [normalized]
  · cases made

/-- Among keys that differ, each key has its own entry. -/
theorem lookup_eq_some {α : Type} {entries : List (String × α)} {key : String} {found : α}
    (distinct : (entries.map (·.1)).Nodup) (inside : (key, found) ∈ entries) :
    entries.lookup key = some found := by
  induction entries with
  | nil => cases inside
  | cons first rest inductionHypothesis =>
      rw [List.map_cons, List.nodup_cons] at distinct
      rcases List.mem_cons.mp inside with rfl | isLater
      · simp
      · have different : key ≠ first.1 := by
          rintro rfl
          exact distinct.1 (List.mem_map.mpr ⟨_, isLater, rfl⟩)
        rw [List.lookup_cons, beq_false_of_ne different]
        exact inductionHypothesis distinct.2 isLater

private theorem defaultName_injective : Function.Injective defaultName := by
  intro first second same
  have sameCharacters := congrArg String.toList same
  rw [defaultName, defaultName, String.toList_append, String.toList_append] at sameCharacters
  exact String.toList_inj.mp (List.append_cancel_left sameCharacters)

/-- A word with the mark of generated names is read as itself. -/
theorem readName?_of_marked {name : String} (isWord : Text.IsWord name)
    (marked : name.toList.head? = some '_') : readName? name = some name := by
  have isName : Text.isIdentifier name = true :=
    Text.isIdentifier_of_isWord isWord marked (by decide)
  -- No reserved word starts with that mark.
  have unreserved : Text.isReservedWord name = false := by
    have unmarked : ∀ word ∈ Text.reservedWords, word.toList.head? ≠ some '_' := by decide
    rw [Text.isReservedWord, List.contains_eq_mem, decide_eq_false_iff_not]
    exact fun isReserved => unmarked _ isReserved marked
  simp [readName?, isName, unreserved, Text.normalForm_of_ascii isWord.ascii]

theorem readName?_of_ascii (wellNamed : WellNamed params.names)
    (ascii : ∀ name ∈ params.names, Text.isAscii name.toList = true) {name : String}
    (inside : name ∈ params.names) : readName? name = some name := by
  rw [readName?_eq wellNamed inside, Text.normalForm_of_ascii (ascii _ inside)]

/-- In ASCII, the items of the parameters make the parameters themselves wherever the
defaults are found under their names. -/
theorem ofPieces?_of_found {space : List (String × Value)} (wellNamed : WellNamed params.names)
    (ascii : ∀ name ∈ params.names, Text.isAscii name.toList = true)
    (found : ∀ param ∈ params.optional ++ params.keywords,
      space.lookup (defaultName param.name) = some param.fallback) :
    ofPieces? space params.formalPieces = some params := by
  have readOne : ∀ param ∈ params.optional ++ params.keywords,
      readDefault? space param = some param := by
    intro param inside
    have isName : param.name ∈ params.names := mem_names_of_default (List.mem_append.mp inside)
    have isWord := Text.isWord_of_isIdentifier (ascii _ isName) (wellNamed.identifiers _ isName)
    have readDefaultName : readName? (defaultName param.name) = some (defaultName param.name) :=
      readName?_of_marked (isWord_defaultName isWord) (by simp [defaultName])
    simp [readDefault?, formalPiece, Piece.defaultParam?, readName?_of_ascii wellNamed ascii isName,
      readDefaultName, found param inside]
  have read : ∀ given : List DefaultParam,
      (∀ param ∈ given, param ∈ params.optional ++ params.keywords) →
      given.mapM (readDefault? space) = some given := by
    intro given inside
    rw [Traversal.mapM_eq_some_iff, List.forall₂_same]
    exact fun param isGiven => readOne param (inside param isGiven)
  rw [ofPieces?_formalPieces wellNamed, normalized_of_ascii ascii,
    read params.optional fun _ => List.mem_append_left _,
    read params.keywords fun _ => List.mem_append_right _]
  exact if_pos wellNamed.distinct

/-- Among the defaults each is found under its name. -/
private theorem lookup_defaults (wellNamed : WellNamed params.names) {param : DefaultParam}
    (inside : param ∈ params.optional ++ params.keywords) :
    params.defaults.lookup (defaultName param.name) = some param.fallback := by
  apply lookup_eq_some
  · have distinct :=
      (wellNamed.distinct.sublist params.defaults_sublist).map defaultName_injective
    simpa [defaults, Function.comp_def] using distinct
  · exact List.mem_map.mpr ⟨param, inside, rfl⟩

/-! ## The call -/

/-- The names in a frame are those of the parameters. -/
theorem map_fst_frame (binds : params.Binds call binding) :
    (params.frame binding).map (·.1) = params.names := by
  have zipped : ∀ (names : List String) (values : List Value), values.length = names.length →
      (names.zip (values.map Slot.one)).map (·.1) = names :=
    fun names values same => List.map_fst_zip (by simp [same])
  simp only [frame, List.map_append, names]
  rw [zipped _ _ binds.length_required, zipped _ _ (by simp [binds.length_optional]),
    zipped _ _ (by simp [binds.length_keywords])]
  simp [Function.comp_def]

/-- Each name in a frame stands for its own slot. -/
theorem lookup_frame (binds : params.Binds call binding) (distinct : params.names.Nodup)
    {name : String} {slot : Slot} (inside : (name, slot) ∈ params.frame binding) :
    (params.frame binding).lookup name = some slot := by
  apply lookup_eq_some _ inside
  rwa [map_fst_frame binds]

/-- Written names show entries of a frame: they are read as the names of the entries,
which stand for single values. -/
def Shows (frame : List (String × Slot)) (owns : List String) (entries : List (String × Value)) :
    Prop :=
  List.Forall₂ (fun own entry => readName? own = some entry.1 ∧
    frame.lookup entry.1 = some (.one entry.2)) owns entries

private theorem shows_zip {frame : List (String × Slot)} {owns : List String} {values : List Value}
    (sameLength : values.length = owns.length)
    (readable : ∀ own ∈ owns, readName? own = some (Text.normalForm own))
    (found : ∀ entry ∈ (owns.map Text.normalForm).zip values,
      frame.lookup entry.1 = some (.one entry.2)) :
    Shows frame owns ((owns.map Text.normalForm).zip values) := by
  induction owns generalizing values with
  | nil => exact .nil
  | cons own rest inductionHypothesis =>
      cases values with
      | nil => cases sameLength
      | cons value others =>
          rw [List.map_cons, List.zip_cons_cons, List.forall_mem_cons] at found
          rw [List.forall_mem_cons] at readable
          exact .cons ⟨readable.1, found.1⟩
            (inductionHypothesis (Nat.succ.inj sameLength) readable.2 found.2)

def Gives {α : Type} (request : Piece → Option (List α)) (pieces : List Piece) (all : List α) :
    Prop :=
  ∃ given, pieces.mapM request = some given ∧ given.flatten = all

theorem Gives.append {α : Type} {request : Piece → Option (List α)} {first second : List Piece}
    {firstAll secondAll : List α} (firstGives : Gives request first firstAll)
    (secondGives : Gives request second secondAll) :
    Gives request (first ++ second) (firstAll ++ secondAll) := by
  obtain ⟨given, firstIs, rfl⟩ := firstGives
  obtain ⟨others, secondIs, rfl⟩ := secondGives
  refine ⟨given ++ others, ?_, List.flatten_append⟩
  simp [List.mapM_append, firstIs, secondIs]

theorem Shows.positional {frame : List (String × Slot)} {owns : List String}
    {entries : List (String × Value)} (shows : Shows frame owns entries) :
    Gives (Piece.positional? frame) (owns.map .plain) (entries.map (·.2)) := by
  refine ⟨entries.map fun entry => [entry.2], ?_, ?_⟩
  · rw [Traversal.mapM_eq_some_iff, List.forall₂_map_left_iff, List.forall₂_map_right_iff]
    refine List.Forall₂.imp (fun own entry shown => ?_) shows
    simp [Piece.positional?, shown.1, shown.2, Slot.value?]
  · exact List.map_eq_flatMap.symm

theorem Shows.named {frame : List (String × Slot)} {owns : List String}
    {entries : List (String × Value)} (shows : Shows frame owns entries) :
    Gives (Piece.named? frame) (owns.map fun own => .assigned own own) entries := by
  refine ⟨entries.map ([·]), ?_, List.flatMap_singleton' _⟩
  rw [Traversal.mapM_eq_some_iff, List.forall₂_map_left_iff, List.forall₂_map_right_iff]
  refine List.Forall₂.imp (fun own entry shown => ?_) shows
  simp [Piece.named?, shown.1, shown.2, Slot.value?]

theorem one_mem_zip {names : List String} {values : List Value} {entry : String × Value}
    (inside : entry ∈ names.zip values) :
    (entry.1, Slot.one entry.2) ∈ names.zip (values.map .one) := by
  rw [List.zip_map_right]
  exact List.mem_map.mpr ⟨entry, inside, rfl⟩

/-- Where the parameters of a signature are read, the names that were written show them. -/
private theorem shows_parameters (wellNamed : WellNamed params.names)
    (same : signature.SameNames params.normalized) (distinct : signature.names.Nodup)
    (binds : signature.Binds call binding) :
    Shows (signature.frame binding) params.required (signature.required.zip binding.required) ∧
      Shows (signature.frame binding) (params.optional.map (·.name))
        ((signature.optional.map (·.name)).zip binding.optional) ∧
      Shows (signature.frame binding) (params.keywords.map (·.name))
        ((signature.keywords.map (·.name)).zip binding.keywords) := by
  have found : ∀ {names : List String} {values : List Value},
      (∀ entry ∈ names.zip (values.map .one), entry ∈ signature.frame binding) →
      ∀ entry ∈ names.zip values,
        (signature.frame binding).lookup entry.1 = some (.one entry.2) :=
    fun inFrame entry inside => lookup_frame binds distinct (inFrame _ (one_mem_zip inside))
  have optionalNames : signature.optional.map (·.name) =
      (params.optional.map (·.name)).map Text.normalForm := by
    simp [same.optional, normalized]
  have keywordNames : signature.keywords.map (·.name) =
      (params.keywords.map (·.name)).map Text.normalForm := by
    simp [same.keywords, normalized]
  have requiredNames : signature.required = params.required.map Text.normalForm := same.required
  refine ⟨?_, ?_, ?_⟩
  · rw [requiredNames]
    apply shows_zip
    · simp [binds.length_required, requiredNames]
    · exact fun own inside => readName?_eq wellNamed (mem_names.mpr (.inl inside))
    · rw [← requiredNames]
      exact found fun entry inside => by simp [frame, inside]
  · rw [optionalNames]
    apply shows_zip
    · simpa [binds.length_optional] using congrArg List.length optionalNames
    · exact fun own inside => readName?_eq wellNamed (mem_names.mpr (.inr (.inl inside)))
    · rw [← optionalNames]
      exact found fun entry inside => by simp [frame, inside]
  · rw [keywordNames]
    apply shows_zip
    · simpa [binds.length_keywords] using congrArg List.length keywordNames
    · exact fun own inside =>
        readName?_eq wellNamed (mem_names.mpr (.inr (.inr (.inr (.inl inside)))))
    · rw [← keywordNames]
      exact found fun entry inside => by simp [frame, inside]

/-- The rest parameter is passed on value by value. -/
private theorem gives_rest (wellNamed : WellNamed params.names)
    (same : signature.SameNames params.normalized) (distinct : signature.names.Nodup)
    (binds : signature.Binds call binding) :
    Gives (Piece.positional? (signature.frame binding)) (params.rest.toList.map .spread)
      binding.rest := by
  have isRest : signature.rest = params.rest.map Text.normalForm := same.rest
  cases written : params.rest with
  | none =>
      have nothing := binds.rest_eq_nil (by simp [isRest, written])
      exact ⟨[], rfl, nothing.symm⟩
  | some own =>
      have read := readName?_eq wellNamed (mem_names.mpr (.inr (.inr (.inl written))))
      have found : (signature.frame binding).lookup (Text.normalForm own) =
          some (.many binding.rest) :=
        lookup_frame binds distinct (by simp [frame, isRest, written])
      refine ⟨[binding.rest], ?_, by simp⟩
      simp [Piece.positional?, read, found, Slot.values?]

/-- Other keys are passed on entry by entry. -/
private theorem gives_otherKeys (wellNamed : WellNamed params.names)
    (same : signature.SameNames params.normalized) (distinct : signature.names.Nodup)
    (binds : signature.Binds call binding) :
    Gives (Piece.named? (signature.frame binding)) (params.otherKeys.toList.map .spreadKeys)
      binding.otherKeys := by
  have isKeys : signature.otherKeys = params.otherKeys.map Text.normalForm := same.otherKeys
  cases written : params.otherKeys with
  | none =>
      refine ⟨[], rfl, (List.eq_nil_iff_forall_not_mem.mpr fun entry inside => ?_).symm⟩
      have hasPlace := (binds.otherKey_spec inside).2
      simp [isKeys, written] at hasPlace
  | some own =>
      have read := readName?_eq wellNamed (mem_names.mpr (.inr (.inr (.inr (.inr written)))))
      have found : (signature.frame binding).lookup (Text.normalForm own) =
          some (.keyed binding.otherKeys) :=
        lookup_frame binds distinct (by simp [frame, isKeys, written])
      refine ⟨[binding.otherKeys], ?_, by simp⟩
      simp [Piece.named?, read, found, Slot.entries?]

/-- No two arguments that are passed on have the same name. -/
private theorem forward_named_distinct (distinct : params.names.Nodup)
    (binds : params.Binds call binding) (keys : (call.named.map (·.1)).Nodup) :
    ((params.forward binding).named.map (·.1)).Nodup := by
  have zipped : ((params.keywords.map (·.name)).zip binding.keywords).map (·.1) =
      params.keywords.map (·.name) :=
    List.map_fst_zip (by simp [binds.length_keywords])
  rw [forward, List.map_append, zipped]
  refine (keywords_distinct distinct).append (binds.otherKeys_distinct keys) ?_
  intro name isKeyword isOther
  obtain ⟨entry, inside, rfl⟩ := List.mem_map.mp isOther
  exact (binds.otherKey_spec inside).1 (by simp [keyNames, isKeyword])

/-- Positional arguments come before named ones. -/
private theorem span_callPieces (params : ParamList) :
    params.callPieces.takeWhile Piece.isPositional = params.required.map .plain ++
        (params.optional.map (·.name)).map .plain ++ params.rest.toList.map .spread ∧
      params.callPieces.dropWhile Piece.isPositional =
        (params.keywords.map (·.name)).map (fun own => .assigned own own) ++
          params.otherKeys.toList.map .spreadKeys := by
  have split : params.callPieces = (params.required.map .plain ++
      (params.optional.map (·.name)).map .plain ++ params.rest.toList.map .spread) ++
      ((params.keywords.map (·.name)).map (fun own => .assigned own own) ++
        params.otherKeys.toList.map .spreadKeys) := by
    simp [callPieces, Function.comp_def]
  rw [split]
  apply span_block
  · simp only [List.forall_mem_append, List.forall_mem_map]
    exact ⟨⟨fun _ _ => rfl, fun _ _ => rfl⟩, fun _ _ => rfl⟩
  · intro piece isHead
    rcases List.mem_append.mp (List.mem_of_mem_head? isHead) with isKeyword | isKeys
    · obtain ⟨own, -, rfl⟩ := List.mem_map.mp isKeyword
      rfl
    · obtain ⟨own, -, rfl⟩ := List.mem_map.mp isKeys
      rfl

/-- **The items of the arguments make the call that passes a binding on.** -/
theorem ofPieces?_callPieces (wellNamed : WellNamed params.names)
    (same : signature.SameNames params.normalized) (distinct : signature.names.Nodup)
    (binds : signature.Binds call binding) (keys : (call.named.map (·.1)).Nodup) :
    Call.ofPieces? (signature.frame binding) params.callPieces =
      some (signature.forward binding) := by
  obtain ⟨required, optional, keywords⟩ := shows_parameters wellNamed same distinct binds
  obtain ⟨positional, positionalAre, positionalFlat⟩ :=
    (required.positional.append optional.positional).append
      (gives_rest wellNamed same distinct binds)
  obtain ⟨named, namedAre, namedFlat⟩ :=
    keywords.named.append (gives_otherKeys wellNamed same distinct binds)
  obtain ⟨takePositional, dropPositional⟩ := span_callPieces params
  have values : ∀ {names : List String} {values : List Value}, values.length = names.length →
      (names.zip values).map (·.2) = values :=
    fun same => List.map_snd_zip (by simp [same])
  rw [values binds.length_required, values (by simp [binds.length_optional])] at positionalFlat
  unfold Call.ofPieces?
  simp only [takePositional, dropPositional, positionalAre, namedAre, Option.bind_eq_bind,
    Option.bind_some, positionalFlat, namedFlat]
  exact if_pos (forward_named_distinct distinct binds keys)

/-! ## Passing on -/

/-- **A wrapper passes every argument on unchanged.** If the signature that its text of
parameters makes binds a call, its text of arguments makes a call from that binding, and
the signature binds this call to the same values. Parameters in ASCII are their own
signature. -/
theorem arguments_pass_unchanged {params : ParamList} (valid : params.validate = .ok params) :
    ((∀ name ∈ params.names, Text.isAscii name.toList = true) →
        ofText? params.formalText params.defaults = some params) ∧
      ∀ signature call binding,
        ofText? params.formalText params.defaults = some signature →
        (call.named.map (·.1)).Nodup → signature.bind? call = some binding →
        signature.SameNames params.normalized ∧
          ∃ passed, Call.ofText? params.callText (signature.frame binding) = some passed ∧
            passed = signature.forward binding ∧ signature.bind? passed = some binding := by
  have wellNamed := validate_eq_ok.mp valid
  simp only [ofText?, Call.ofText?, listOfText?_formalText wellNamed,
    listOfText?_callText wellNamed, Option.bind_eq_bind, Option.bind_some]
  refine ⟨fun ascii => ofPieces?_of_found wellNamed ascii fun _ => lookup_defaults wellNamed, ?_⟩
  intro signature call binding signed keys bound
  obtain ⟨same, distinct⟩ := sameNames_of_ofPieces? wellNamed signed
  have binds := bind?_eq_some_iff.mp bound
  exact ⟨same, signature.forward binding,
    ofPieces?_callPieces wellNamed same distinct binds keys, rfl,
    bind?_eq_some_iff.mpr (binds.forward distinct)⟩

namespace Sparing

def spare : ParamList where
  required := ["a"]
  optional := [⟨"b", .int 2⟩]
  rest := some "r"
  keywords := [⟨"k", .int 4⟩]
  otherKeys := some "o"

/-- A call with more positional arguments than parameters, and with other keys that are
called like the parameters which collect such arguments. -/
def spareCall : Call where
  positional := [.int 1, .int 20, .int 30, .int 31]
  named := [("o", .int 5), ("r", .int 6)]

def spareBinding : Binding where
  required := [.int 1]
  optional := [.int 20]
  rest := [.int 30, .int 31]
  keywords := [.int 4]
  otherKeys := [("o", .int 5), ("r", .int 6)]

theorem spare_arguments_pass :
    spare.validate = .ok spare ∧ spare.callText = "a, b, *r, k=k, **o" ∧
      spare.bind? spareCall = some spareBinding ∧
      ∃ passed, Call.ofText? spare.callText (spare.frame spareBinding) = some passed ∧
        passed = spare.forward spareBinding ∧ spare.bind? passed = some spareBinding := by
  have valid : spare.validate = .ok spare := by
    have faultless : firstFault? [] spare.names = none := by decide +kernel
    rw [validate, faultless]
  have bound : spare.bind? spareCall = some spareBinding := rfl
  obtain ⟨ownSignature, passes⟩ := arguments_pass_unchanged valid
  have signed := ownSignature (by decide +kernel)
  obtain ⟨-, passed⟩ := passes spare spareCall spareBinding signed (by decide +kernel) bound
  exact ⟨valid, by decide +kernel, bound, passed⟩

end Sparing

end StaticDispatch.ParamList
