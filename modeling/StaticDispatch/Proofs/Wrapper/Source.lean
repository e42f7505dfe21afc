import StaticDispatch.Proofs.ParamList
import StaticDispatch.Wrapper.Source

/-!
Contract: the words in the source of a wrapper.

A text is cut into words at every character that is not part of one. In the source of a
wrapper a word is a keyword, the name of the function, a parameter, the name of a
default, or a name that a branch or the final call uses.

Owns: the words of a text, and those of a wrapper's source.
Does not own: what the words stand for.
-/

namespace StaticDispatch

/-! ## Words -/

namespace Text

/-- The longest runs of word characters in a text, in their order. -/
def words (text : List Char) : List String :=
  ((text.splitOnP (!isWordCharacter ·)).filter (!·.isEmpty)).map String.ofList

variable {character : Char} {name word : String}

private theorem words_nil : words [] = [] := rfl

private theorem words_append_cons (before after : List Char)
    (divides : isWordCharacter character = false) :
    words (before ++ character :: after) = words before ++ words after := by
  unfold words
  rw [List.splitOnP_append_cons before after (by simp [divides]), List.filter_append,
    List.map_append]

private theorem words_cons (after : List Char) (divides : isWordCharacter character = false) :
    words (character :: after) = words after :=
  words_append_cons [] after divides

private theorem words_of_isWord (isWord : IsWord name) : words name.toList = [name] := by
  have whole : name.toList.splitOnP (!isWordCharacter ·) = [name.toList] :=
    List.splitOnP_eq_singleton fun character inside => by
      simp [isWordCharacter_of_isPlain (isWord.plain character inside)]
  unfold words
  rw [whole]
  simp [isWord.nonempty]

/-- The words of a list of texts are theirs and those of what divides them, if that starts
and ends in other characters. -/
theorem mem_words_intercalate (first last : Char) (middle : List Char) {items : List String}
    (opens : isWordCharacter first = false) (closes : isWordCharacter last = false)
    (inside : word ∈ words ((first :: (middle ++ [last])).intercalate (items.map String.toList))) :
    word ∈ words middle ∨ ∃ item ∈ items, word ∈ words item.toList := by
  induction items with
  | nil => simp [words_nil] at inside
  | cons item rest inductionHypothesis =>
      cases rest with
      | nil =>
          rw [List.map_singleton, List.intercalate_singleton] at inside
          exact Or.inr ⟨item, by simp, inside⟩
      | cons second others =>
          rw [List.map_cons, List.map_cons, List.intercalate_cons_cons, List.append_assoc,
            List.cons_append, words_append_cons _ _ opens, List.append_assoc,
            List.singleton_append, words_append_cons _ _ closes] at inside
          rcases List.mem_append.mp inside with inItem | inRest
          · exact Or.inr ⟨item, by simp, inItem⟩
          · rcases List.mem_append.mp inRest with inMiddle | inOthers
            · exact Or.inl inMiddle
            · rcases inductionHypothesis inOthers with inMiddle | ⟨other, isOther, inOther⟩
              · exact Or.inl inMiddle
              · exact Or.inr ⟨other, by simp [isOther], inOther⟩

private theorem mem_words_list {items : List String}
    (inside : word ∈ words (String.intercalate ", " items).toList) :
    ∃ item ∈ items, word ∈ words item.toList := by
  rw [String.toList_intercalate] at inside
  have divided : word ∈ words [] ∨ ∃ item ∈ items, word ∈ words item.toList :=
    mem_words_intercalate ',' ' ' [] (by decide) (by decide) inside
  simpa [words_nil] using divided

/-- The words of a text are those of its lines. -/
private theorem words_lines (lines : List String) :
    words (String.join (lines.map (· ++ "\n"))).toList = lines.flatMap (words ·.toList) := by
  induction lines with
  | nil => rfl
  | cons line rest inductionHypothesis =>
      rw [List.map_cons, String.join_cons, String.toList_append, String.toList_append,
        List.append_assoc, List.flatMap_cons, ← inductionHypothesis]
      exact words_append_cons _ _ (by decide)

end Text

open Text (words words_nil words_append_cons words_cons words_of_isWord IsWord)

/-! ## Parameters -/

namespace ParamList

variable {params : ParamList} {word : String}

/-! Each part of a list of parameters has the words of its names. -/

private theorem words_star {name : String} (isWord : IsWord name) :
    words ("*" ++ name).toList = [name] := by
  rw [String.toList_append, ← words_of_isWord isWord]
  exact words_cons _ (by decide)

private theorem words_doubleStar {name : String} (isWord : IsWord name) :
    words ("**" ++ name).toList = [name] := by
  rw [String.toList_append, ← words_of_isWord isWord]
  exact (words_cons _ (by decide)).trans (words_cons _ (by decide))

private theorem words_equation {name value : String} (isName : IsWord name)
    (isValue : IsWord value) :
    words (name ++ "=" ++ value).toList = [name, value] := by
  have characters : (name ++ "=" ++ value).toList = name.toList ++ '=' :: value.toList := by simp
  rw [characters, words_append_cons _ _ (by decide), words_of_isWord isName,
    words_of_isWord isValue]
  rfl

private theorem mem_words_callText (areWords : ∀ name ∈ params.names, IsWord name)
    (inside : word ∈ words params.callText.toList) : word ∈ params.names := by
  obtain ⟨item, isItem, inItem⟩ := Text.mem_words_list inside
  simp only [List.mem_append, List.mem_map, Option.mem_toList] at isItem
  rcases isItem with (((isRequired | ⟨param, isParam, rfl⟩) | ⟨name, isName, rfl⟩) |
    ⟨param, isParam, rfl⟩) | ⟨name, isName, rfl⟩
  · have isName := mem_names.mpr (.inl isRequired)
    rw [words_of_isWord (areWords item isName), List.mem_singleton] at inItem
    rwa [inItem]
  · have isName := mem_names_of_default (.inl isParam)
    rw [words_of_isWord (areWords _ isName), List.mem_singleton] at inItem
    rwa [inItem]
  · have isRest := mem_names.mpr (.inr (.inr (.inl isName)))
    rw [words_star (areWords _ isRest), List.mem_singleton] at inItem
    rwa [inItem]
  · have isName := mem_names_of_default (.inr isParam)
    have isWord := areWords _ isName
    rw [words_equation isWord isWord] at inItem
    simp only [List.mem_cons, List.not_mem_nil, or_false, or_self] at inItem
    rwa [inItem]
  · have isOther := mem_names.mpr (.inr (.inr (.inr (.inr isName))))
    rw [words_doubleStar (areWords _ isOther), List.mem_singleton] at inItem
    rwa [inItem]

/-- The part of a parameter with a default has its name and that of its default. -/
theorem mem_words_formal (areWords : ∀ name ∈ params.names, IsWord name) {param : DefaultParam}
    (isParam : param ∈ params.optional ∨ param ∈ params.keywords)
    (inside : word ∈ words (DefaultParam.formal param).toList) :
    word ∈ params.names ∨ word = defaultName param.name := by
  have isName := mem_names_of_default isParam
  have isWord := areWords _ isName
  rw [DefaultParam.formal, words_equation isWord (isWord_defaultName isWord)] at inside
  simp only [List.mem_cons, List.not_mem_nil, or_false] at inside
  rcases inside with rfl | isDefault
  · exact Or.inl isName
  · exact Or.inr isDefault

private theorem mem_words_formalText (areWords : ∀ name ∈ params.names, IsWord name)
    (inside : word ∈ words params.formalText.toList) :
    word ∈ params.names ∨
      ∃ param ∈ params.optional ++ params.keywords, word = defaultName param.name := by
  obtain ⟨item, isItem, inItem⟩ := Text.mem_words_list inside
  simp only [List.mem_append, List.mem_map, Option.mem_toList] at isItem ⊢
  rcases isItem with (((isRequired | ⟨param, isParam, rfl⟩) | isMark) |
    ⟨param, isParam, rfl⟩) | ⟨name, isName, rfl⟩
  · have isName := mem_names.mpr (.inl isRequired)
    rw [words_of_isWord (areWords item isName), List.mem_singleton] at inItem
    exact Or.inl (inItem ▸ isName)
  · exact (mem_words_formal areWords (.inl isParam) inItem).imp_right fun isDefault =>
      ⟨param, .inl isParam, isDefault⟩
  · unfold restMark at isMark
    split at isMark
    next name isRest =>
      rw [List.mem_singleton] at isMark
      have isName := mem_names.mpr (.inr (.inr (.inl isRest)))
      rw [isMark, words_star (areWords _ isName), List.mem_singleton] at inItem
      exact Or.inl (inItem ▸ isName)
    next =>
      split at isMark
      · cases isMark
      · rw [List.mem_singleton.mp isMark] at inItem
        cases inItem
  · exact (mem_words_formal areWords (.inr isParam) inItem).imp_right fun isDefault =>
      ⟨param, .inr isParam, isDefault⟩
  · have isOther := mem_names.mpr (.inr (.inr (.inr (.inr isName))))
    rw [words_doubleStar (areWords _ isOther), List.mem_singleton] at inItem
    exact Or.inl (inItem ▸ isOther)

end ParamList

/-! ## Wrappers -/

namespace Wrapper

variable {word : String}

def Check.names : Check → List String
  | .isInstance argument host => [instanceTestName, argument, host]
  | .passes argument test => [test, argument]
  | .equals argument value => [equalityTestName, argument, value]

def Branch.names (branch : Branch) : List String :=
  branch.checks.flatMap Check.names ++ [branch.target]

theorem Branch.mem_names {branch : Branch} {check : Check} {name : String}
    (isCheck : check ∈ branch.checks) (isName : name ∈ check.names) : name ∈ branch.names :=
  List.mem_append_left _ (List.mem_flatMap.mpr ⟨check, isCheck, isName⟩)

/-- The names that the branches and the final call use. -/
def usedNames (wrapper : Wrapper) : List String :=
  wrapper.branches.flatMap Branch.names ++ [wrapper.final]

def keywords : List String := ["def", "if", "elif", "and", "return"]

/-- A call of a function has the words of its name and of its arguments. -/
theorem words_call {function : String} (isWord : IsWord function) (arguments : String) :
    words (s!"{function}({arguments})").toList = function :: words arguments.toList := by
  have characters : (s!"{function}({arguments})").toList =
      function.toList ++ '(' :: (arguments.toList ++ ')' :: []) := by simp [toString]
  rw [characters, words_append_cons _ _ (by decide), words_append_cons _ _ (by decide),
    words_of_isWord isWord, words_nil, List.append_nil]
  rfl

private theorem words_pair {first second : String} (isFirst : IsWord first)
    (isSecond : IsWord second) :
    words (s!"{first}, {second}").toList = [first, second] := by
  have characters : (s!"{first}, {second}").toList =
      first.toList ++ ',' :: ' ' :: second.toList := by simp [toString]
  rw [characters, words_append_cons _ _ (by decide), words_cons _ (by decide),
    words_of_isWord isFirst, words_of_isWord isSecond]
  rfl

private theorem words_check {check : Check} (areWords : ∀ name ∈ check.names, IsWord name) :
    words check.text.toList = check.names := by
  cases check with
  | isInstance argument host =>
      simp only [Check.names, List.forall_mem_cons] at areWords
      obtain ⟨isTest, isArgument, isHost, -⟩ := areWords
      have text : (Check.isInstance argument host).text =
          (let arguments := s!"{argument}, {host}"; s!"{instanceTestName}({arguments})") := by
        simp [Check.text, toString, String.append_assoc]
      rw [text, words_call isTest, words_pair isArgument isHost]
      rfl
  | passes argument test =>
      simp only [Check.names, List.forall_mem_cons] at areWords
      obtain ⟨isTest, isArgument, -⟩ := areWords
      rw [Check.text, words_call isTest, words_of_isWord isArgument]
      rfl
  | equals argument value =>
      simp only [Check.names, List.forall_mem_cons] at areWords
      obtain ⟨isTest, isArgument, isValue, -⟩ := areWords
      have text : (Check.equals argument value).text =
          (let arguments := s!"{argument}, {value}"; s!"{equalityTestName}({arguments})") := by
        simp [Check.text, toString, String.append_assoc]
      rw [text, words_call isTest, words_pair isArgument isValue]
      rfl

/-- The words of a condition are the names of its checks, and the word between them. -/
private theorem mem_words_condition {checks : List Check}
    (areWords : ∀ check ∈ checks, ∀ name ∈ check.names, IsWord name)
    (inside : word ∈ words (String.intercalate " and " (checks.map Check.text)).toList) :
    word = "and" ∨ word ∈ checks.flatMap Check.names := by
  rw [String.toList_intercalate] at inside
  rcases Text.mem_words_intercalate ' ' ' ' ['a', 'n', 'd'] (by decide) (by decide) inside with
    isAnd | ⟨text, isText, inText⟩
  · have isWord : IsWord "and" := by decide
    exact Or.inl (List.mem_singleton.mp (words_of_isWord isWord ▸ isAnd))
  · obtain ⟨check, isCheck, rfl⟩ := List.mem_map.mp isText
    rw [words_check (areWords check isCheck)] at inText
    exact Or.inr (List.mem_flatMap.mpr ⟨check, isCheck, inText⟩)

/-- The words of the first line. -/
private theorem words_definition {name : String} (isWord : IsWord name) (formal : String) :
    words (s!"def {name}({formal}):").toList = "def" :: name :: words formal.toList := by
  have isDef : IsWord "def" := by decide
  have characters : (s!"def {name}({formal}):").toList =
      "def".toList ++ ' ' :: ((s!"{name}({formal})").toList ++ ':' :: []) := by simp [toString]
  rw [characters, words_append_cons _ _ (by decide), words_append_cons _ _ (by decide),
    words_call isWord, words_of_isWord isDef, words_nil, List.append_nil]
  rfl

/-- The words of the line that opens a branch. -/
private theorem words_condition {keyword : String} (isWord : IsWord keyword) (condition : String) :
    words (s!"    {keyword} {condition}:").toList = keyword :: words condition.toList := by
  have characters : (s!"    {keyword} {condition}:").toList = ' ' :: ' ' :: ' ' :: ' ' ::
      (keyword.toList ++ ' ' :: (condition.toList ++ ':' :: [])) := by simp [toString]
  rw [characters]
  iterate 4 rw [words_cons _ (by decide)]
  rw [words_append_cons _ _ (by decide), words_append_cons _ _ (by decide),
    words_of_isWord isWord, words_nil, List.append_nil]
  rfl

/-- The words of a line that returns what a call does, however far it is indented. -/
theorem words_return {target : String} (isWord : IsWord target) (arguments : String)
    (indent : Nat) :
    words (List.replicate indent ' ' ++ (s!"return {target}({arguments})").toList) =
      "return" :: target :: words arguments.toList := by
  induction indent with
  | zero =>
      have isReturn : IsWord "return" := by decide
      have characters : (s!"return {target}({arguments})").toList =
          "return".toList ++ ' ' :: (s!"{target}({arguments})").toList := by simp [toString]
      rw [List.replicate_zero, List.nil_append, characters, words_append_cons _ _ (by decide),
        words_call isWord, words_of_isWord isReturn]
      rfl
  | succ indent inductionHypothesis =>
      rw [List.replicate_succ, List.cons_append, words_cons _ (by decide), inductionHypothesis]

/-- **The words of the branches**: keywords, arguments, and the names that they use. -/
theorem mem_words_branchSource {arguments keyword : String} {branches : List Branch}
    (isKeyword : keyword ∈ keywords)
    (areWords : ∀ name ∈ branches.flatMap Branch.names, IsWord name) {line : String}
    (isLine : line ∈ branchSource arguments keyword branches)
    (inside : word ∈ words line.toList) :
    word ∈ keywords ∨ word ∈ words arguments.toList ∨ word ∈ branches.flatMap Branch.names := by
  induction branches generalizing keyword with
  | nil => cases isLine
  | cons branch rest inductionHypothesis =>
      have keywordWords : ∀ word ∈ keywords, IsWord word := by decide
      rw [List.flatMap_cons] at areWords ⊢
      rw [branchSource] at isLine
      rcases List.mem_cons.mp isLine with rfl | isLine
      · rw [words_condition (keywordWords keyword isKeyword)] at inside
        rcases List.mem_cons.mp inside with rfl | inCondition
        · exact Or.inl isKeyword
        · have checkWords : ∀ check ∈ branch.checks, ∀ name ∈ check.names, IsWord name :=
            fun check isCheck name isName => areWords name
              (List.mem_append_left _ (Branch.mem_names isCheck isName))
          rcases mem_words_condition checkWords inCondition with rfl | isName
          · exact Or.inl (by decide)
          · exact Or.inr (.inr (by simp [Branch.names, isName]))
      · rcases List.mem_cons.mp isLine with rfl | isLater
        · have isTarget : IsWord branch.target := areWords _ (by simp [Branch.names])
          have characters : (s!"        return {branch.target}({arguments})").toList =
              List.replicate 8 ' ' ++ (s!"return {branch.target}({arguments})").toList := by
            simp [toString, List.replicate]
          rw [characters, words_return isTarget] at inside
          rcases List.mem_cons.mp inside with rfl | inCall
          · exact Or.inl (by decide)
          · rcases List.mem_cons.mp inCall with rfl | inArguments
            · exact Or.inr (.inr (by simp [Branch.names]))
            · exact Or.inr (.inl inArguments)
        · have laterWords : ∀ name ∈ rest.flatMap Branch.names, IsWord name :=
            fun name isName => areWords name (List.mem_append_right _ isName)
          rcases inductionHypothesis (by decide) laterWords isLater with
            isWord | inArguments | isName
          · exact Or.inl isWord
          · exact Or.inr (.inl inArguments)
          · exact Or.inr (.inr (List.mem_append_right _ isName))

/-- **The words of a wrapper's source**: keywords, its own name, its parameters, the names
of their defaults, and the names that its branches and its final call use. -/
theorem mem_words_source {wrapper : Wrapper} (isName : IsWord wrapper.name)
    (areParams : ∀ name ∈ wrapper.params.names, IsWord name)
    (areUsed : ∀ name ∈ wrapper.usedNames, IsWord name)
    (inside : word ∈ words wrapper.source.toList) :
    word ∈ keywords ∨ word = wrapper.name ∨ word ∈ wrapper.params.names ∨
      (∃ param ∈ wrapper.params.optional ++ wrapper.params.keywords,
        word = ParamList.defaultName param.name) ∨ word ∈ wrapper.usedNames := by
  rw [source, Text.words_lines, List.mem_flatMap] at inside
  obtain ⟨line, isLine, inLine⟩ := inside
  rw [sourceLines] at isLine
  have ofArguments : word ∈ words wrapper.params.callText.toList → word ∈ wrapper.params.names :=
    ParamList.mem_words_callText areParams
  rcases List.mem_append.mp isLine with isFirst | isLast
  · rcases List.mem_cons.mp isFirst with rfl | isBranch
    · rw [words_definition isName] at inLine
      rcases List.mem_cons.mp inLine with rfl | inLine
      · exact Or.inl (by decide)
      · rcases List.mem_cons.mp inLine with rfl | inFormal
        · exact Or.inr (.inl rfl)
        · rcases ParamList.mem_words_formalText areParams inFormal with isParam | isDefault
          · exact Or.inr (.inr (.inl isParam))
          · exact Or.inr (.inr (.inr (.inl isDefault)))
    · rcases mem_words_branchSource (by decide) (fun name isUsed => areUsed name
        (List.mem_append_left _ isUsed)) isBranch inLine with isWord | inArguments | isUsed
      · exact Or.inl isWord
      · exact Or.inr (.inr (.inl (ofArguments inArguments)))
      · exact Or.inr (.inr (.inr (.inr (List.mem_append_left _ isUsed))))
  · have isFinal : IsWord wrapper.final := areUsed _ (by simp [usedNames])
    have characters : (s!"    return {wrapper.final}({wrapper.params.callText})").toList =
        List.replicate 4 ' ' ++ (s!"return {wrapper.final}({wrapper.params.callText})").toList := by
      simp [toString, List.replicate]
    rw [List.mem_singleton.mp isLast, characters, words_return isFinal] at inLine
    rcases List.mem_cons.mp inLine with rfl | inCall
    · exact Or.inl (by decide)
    · rcases List.mem_cons.mp inCall with rfl | inArguments
      · exact Or.inr (.inr (.inr (.inr (by simp [usedNames]))))
      · exact Or.inr (.inr (.inl (ofArguments inArguments)))

end Wrapper

end StaticDispatch
