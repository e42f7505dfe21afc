import StaticDispatch.Proofs.ParamList.Forwarding
import StaticDispatch.Proofs.Wrapper.Source

/-!
Contract: what is read in the source of a wrapper.

A source is read line by line as the definition of one function: a line with its name and
parameters, conditional returns, and a last return that is not conditional. A condition is
one test or more, and tests and results are functions applied to a text of arguments in
brackets. What a wrapper writes is read as what it wrote.

Owns: definitions, their reading, and the definition that a wrapper writes.
Does not own: what a definition does, and what stands between the brackets.
-/

namespace StaticDispatch.Wrapper

/-! ## Definitions -/

structure Application where
  function : String
  arguments : String
deriving DecidableEq

structure Clause where
  tests : List Application
  result : Application
deriving DecidableEq

structure Definition where
  name : String
  /-- The text of the parameters. -/
  parameters : String
  clauses : List Clause
  /-- What is returned if no clause applies. -/
  final : Application
deriving DecidableEq

/-! ## Reading -/

def behind? (opening text : List Char) : Option (List Char) :=
  if opening.isPrefixOf text then some (text.drop opening.length) else none

def Application.ofOpen? (text : List Char) : Option Application :=
  match text.splitOn '(' with
  | [function, arguments] => some ⟨.ofList function, .ofList arguments⟩
  | _ => none

/-- One or more applications with a conjunction between them, and an ending behind them. -/
def Application.listOfText? (ending text : List Char) : Option (List Application) :=
  match text.splitOn ')' with
  | first :: rest =>
      if rest.getLast? = some ending then do
        let first ← ofOpen? first
        let others ← rest.dropLast.mapM fun text => (behind? " and ".toList text).bind ofOpen?
        return first :: others
      else
        none
  | [] => none

def Application.ofText? (ending text : List Char) : Option Application :=
  match listOfText? ending text with
  | some [application] => some application
  | _ => none

def testsOfLine? (keyword : String) (line : List Char) : Option (List Application) := do
  Application.listOfText? [':'] (← behind? ("    ".toList ++ keyword.toList ++ [' ']) line)

def resultOfLine? (indent : Nat) (line : List Char) : Option Application := do
  Application.ofText? [] (← behind? (List.replicate indent ' ' ++ "return ".toList) line)

/-- The clauses and the last result. Only the first clause opens with the given word. -/
def bodyOfLines? : String → List (List Char) → Option (List Clause × Application)
  | _, [] => none
  | _, [last] => (resultOfLine? 4 last).map ([], ·)
  | keyword, condition :: returns :: rest => do
      let tests ← testsOfLine? keyword condition
      let result ← resultOfLine? 8 returns
      let (others, final) ← bodyOfLines? "elif" rest
      return ({ tests, result } :: others, final)

/-- The definition in a text, each of whose lines has an end. -/
def Definition.ofText? (text : String) : Option Definition :=
  match text.toList.splitOn '\n' with
  | first :: rest =>
      if rest.getLast? = some [] then do
        let head ← (behind? "def ".toList first).bind (Application.ofText? [':'])
        let name ← readName? head.function
        let (clauses, final) ← bodyOfLines? "if" rest.dropLast
        return { name, parameters := head.arguments, clauses, final }
      else
        none
  | [] => none

/-! ## Writing -/

def Application.text (application : Application) : String :=
  s!"{application.function}({application.arguments})"

def Check.application : Check → Application
  | .isInstance argument host => ⟨instanceTestName, s!"{argument}, {host}"⟩
  | .passes argument test => ⟨test, argument⟩
  | .equals argument value => ⟨equalityTestName, s!"{argument}, {value}"⟩

def Branch.clause (arguments : String) (branch : Branch) : Clause where
  tests := branch.checks.map Check.application
  result := ⟨branch.target, arguments⟩

def definition (wrapper : Wrapper) : Definition where
  name := wrapper.name
  parameters := wrapper.params.formalText
  clauses := wrapper.branches.map (Branch.clause wrapper.params.callText)
  final := ⟨wrapper.final, wrapper.params.callText⟩

private theorem Check.text_eq (check : Check) : check.text = check.application.text := by
  cases check <;>
    simp [Check.text, Check.application, Application.text, toString, String.append_assoc]

/-! ## Texts without brackets -/

/-- A text that can be told from the brackets and line ends around it. -/
def IsInner (text : List Char) : Prop :=
  ∀ mark ∈ ['(', ')', '\n'], mark ∉ text

theorem IsInner.append {first second : List Char} (isFirst : IsInner first)
    (isSecond : IsInner second) : IsInner (first ++ second) := fun mark isMark => by
  simpa using ⟨isFirst mark isMark, isSecond mark isMark⟩

private theorem isInner_of_isWord {name : String} (isWord : Text.IsWord name) :
    IsInner name.toList := by
  intro mark isMark inside
  have plain := isWord.plain mark inside
  simp only [List.mem_cons, List.not_mem_nil, or_false] at isMark
  rcases isMark with rfl | rfl | rfl <;> exact absurd plain (by decide)

private theorem not_mem_intercalate {mark : Char} {divider : String} {items : List String}
    (notDivider : mark ∉ divider.toList) (notItem : ∀ item ∈ items, mark ∉ item.toList) :
    mark ∉ (String.intercalate divider items).toList := by
  rw [String.toList_intercalate]
  induction items with
  | nil => simp
  | cons item rest inductionHypothesis =>
      rw [List.forall_mem_cons] at notItem
      cases rest with
      | nil => simpa using notItem.1
      | cons second others =>
          rw [List.map_cons, List.map_cons, List.intercalate_cons_cons, List.mem_append,
            List.mem_append, not_or, not_or]
          exact ⟨⟨notItem.1, notDivider⟩, inductionHypothesis notItem.2⟩

private theorem isInner_texts {pieces : List Piece}
    (areWords : ∀ piece ∈ pieces, ∀ own ∈ piece.names, Text.IsWord own) :
    IsInner (String.intercalate ", " (pieces.map Piece.text)).toList := by
  have isDivider : IsInner ", ".toList := by simp [IsInner]
  suffices areInner : ∀ piece ∈ pieces, IsInner piece.text.toList from fun mark isMark =>
    not_mem_intercalate (isDivider mark isMark)
      (List.forall_mem_map.mpr fun piece inside => areInner piece inside mark isMark)
  intro piece inside
  have inner : ∀ own ∈ piece.names, IsInner own.toList :=
    fun own isOwn => isInner_of_isWord (areWords piece inside own isOwn)
  cases piece with
  | plain own => exact inner own (by simp [Piece.names])
  | assigned own source =>
      rw [Piece.text, String.toList_append, String.toList_append]
      exact ((inner own (by simp [Piece.names])).append (by simp [IsInner])).append
        (inner source (by simp [Piece.names]))
  | spread own =>
      rw [Piece.text, String.toList_append]
      exact IsInner.append (by simp [IsInner]) (inner own (by simp [Piece.names]))
  | mark => simp [IsInner, Piece.text]
  | spreadKeys own =>
      rw [Piece.text, String.toList_append]
      exact IsInner.append (by simp [IsInner]) (inner own (by simp [Piece.names]))

/-! ## Applications -/

/-- Brackets and line ends are outside the two parts of an application. -/
structure Application.Legible (application : Application) : Prop where
  function : IsInner application.function.toList
  arguments : IsInner application.arguments.toList

/-- The text of an application up to its closing bracket. -/
def Application.opened (application : Application) : List Char :=
  application.function.toList ++ '(' :: application.arguments.toList

theorem Application.toList_text (application : Application) :
    application.text.toList = application.opened ++ [')'] := by
  simp [text, opened, toString]

private theorem Application.ofOpen?_opened {application : Application}
    (legible : application.Legible) :
    ofOpen? application.opened = some application := by
  have split : List.splitOn '('
      (['('].intercalate [application.function.toList, application.arguments.toList]) =
        [application.function.toList, application.arguments.toList] := by
    refine List.splitOn_intercalate '(' ?_ (by simp)
    simpa using ⟨legible.function '(' (by simp), legible.arguments '(' (by simp)⟩
  have joined : application.opened =
      ['('].intercalate [application.function.toList, application.arguments.toList] := by
    simp [opened]
  rw [ofOpen?, joined, split]
  simp

/-- The opening bracket is the only one, and the line does not end. -/
theorem Application.not_mem_opened {application : Application} (legible : application.Legible)
    {mark : Char} (isMark : mark ∈ [')', '\n']) : mark ∉ application.opened := by
  have notOpening : mark ≠ '(' := by rintro rfl; simp at isMark
  simpa [opened, notOpening] using
    ⟨legible.function mark (by simp_all), legible.arguments mark (by simp_all)⟩

theorem Application.not_mem_text {application : Application} (legible : application.Legible) :
    '\n' ∉ application.text.toList := by
  simpa [toList_text] using not_mem_opened legible (by simp)

private theorem behind?_append (opening text : List Char) :
    behind? opening (opening ++ text) = some text := by
  simp [behind?]

/-- The brackets that close applications cut their list, each application but the first
behind a conjunction. -/
private theorem Application.intercalate_texts (first : Application) (rest : List Application)
    (ending : List Char) :
    (String.intercalate " and " ((first :: rest).map text)).toList ++ ending =
      [')'].intercalate (first.opened ::
        (rest.map (" and ".toList ++ ·.opened) ++ [ending])) := by
  have headed : ∀ (start item : List Char) (items : List (List Char)),
      [')'].intercalate ((start ++ item) :: items) =
        start ++ [')'].intercalate (item :: items) := by
    intro start item items
    cases items <;> simp
  rw [String.toList_intercalate]
  induction rest generalizing first with
  | nil => simp [toList_text]
  | cons second others inductionHypothesis =>
      have later := inductionHypothesis second
      simp only [List.map_cons] at later ⊢
      rw [List.intercalate_cons_cons, List.append_assoc, List.append_assoc, later, toList_text,
        List.cons_append, List.intercalate_cons_cons, headed]

/-- **Applications are read as what was written.** -/
theorem Application.listOfText?_texts {applications : List Application} {ending : List Char}
    (nonempty : applications ≠ [])
    (legible : ∀ application ∈ applications, application.Legible) (ends : ')' ∉ ending) :
    listOfText? ending ((String.intercalate " and " (applications.map text)).toList ++ ending) =
      some applications := by
  cases applications with
  | nil => exact absurd rfl nonempty
  | cons first rest =>
      rw [List.forall_mem_cons] at legible
      have others : (rest.map (" and ".toList ++ ·.opened)).mapM
          (fun text => (behind? " and ".toList text).bind ofOpen?) = some rest := by
        rw [Traversal.mapM_eq_some_iff, List.forall₂_map_left_iff, List.forall₂_same]
        intro application inside
        rw [behind?_append]
        exact ofOpen?_opened (legible.2 application inside)
      rw [intercalate_texts, listOfText?, List.splitOn_intercalate ')']
      · simp only [List.getLast?_concat, List.dropLast_concat, if_pos, others,
          ofOpen?_opened legible.1]
        rfl
      · rw [List.forall_mem_cons, List.forall_mem_append, List.forall_mem_map,
          List.forall_mem_singleton]
        refine ⟨not_mem_opened legible.1 (by simp), fun other inside => ?_, ends⟩
        simpa using not_mem_opened (legible.2 other inside) (by simp)
      · simp

theorem Application.ofText?_text {application : Application} {ending : List Char}
    (legible : application.Legible) (ends : ')' ∉ ending) :
    ofText? ending (application.text.toList ++ ending) = some application := by
  have read := @listOfText?_texts [application] ending (by simp) (by simpa) ends
  rw [List.map_singleton, String.intercalate_singleton] at read
  rw [ofText?, read]

/-! ## Lines -/

private theorem Check.legible_application {check : Check}
    (areWords : ∀ name ∈ check.names, Text.IsWord name) : check.application.Legible := by
  have paired : ∀ {first second : String}, Text.IsWord first → Text.IsWord second →
      IsInner (s!"{first}, {second}").toList := by
    intro first second isFirst isSecond
    have spelled : (s!"{first}, {second}").toList =
        first.toList ++ ", ".toList ++ second.toList := by
      simp [toString]
    rw [spelled]
    exact ((isInner_of_isWord isFirst).append (by simp [IsInner])).append
      (isInner_of_isWord isSecond)
  cases check with
  | isInstance argument host =>
      simp only [Check.names, List.forall_mem_cons] at areWords
      exact ⟨isInner_of_isWord areWords.1, paired areWords.2.1 areWords.2.2.1⟩
  | passes argument test =>
      simp only [Check.names, List.forall_mem_cons] at areWords
      exact ⟨isInner_of_isWord areWords.1, isInner_of_isWord areWords.2.1⟩
  | equals argument value =>
      simp only [Check.names, List.forall_mem_cons] at areWords
      exact ⟨isInner_of_isWord areWords.1, paired areWords.2.1 areWords.2.2.1⟩

/-- The tests of a branch are read in the line that opens it. -/
private theorem testsOfLine?_condition (keyword : String) {checks : List Check} {condition : String}
    (isCondition : condition = String.intercalate " and " (checks.map Check.text))
    (nonempty : checks ≠ []) (areWords : ∀ check ∈ checks, ∀ name ∈ check.names, Text.IsWord name) :
    testsOfLine? keyword (s!"    {keyword} {condition}:").toList =
      some (checks.map Check.application) := by
  have texts : checks.map Check.text = (checks.map Check.application).map Application.text := by
    rw [List.map_map]
    exact List.map_congr_left fun check _ => check.text_eq
  have spelled : (s!"    {keyword} {condition}:").toList =
      ("    ".toList ++ keyword.toList ++ [' ']) ++ (condition.toList ++ [':']) := by
    simp [toString]
  rw [testsOfLine?, spelled, behind?_append, isCondition, texts]
  exact Application.listOfText?_texts (by simpa using nonempty)
    (List.forall_mem_map.mpr fun check inside => check.legible_application (areWords check inside))
    (by decide)

/-- A result is read in the line that returns it. -/
theorem resultOfLine?_return (indent : Nat) {application : Application}
    (legible : application.Legible) :
    resultOfLine? indent
        (List.replicate indent ' ' ++ "return ".toList ++ application.text.toList) =
      some application := by
  have read := @Application.ofText?_text application [] legible (by simp)
  rw [List.append_nil] at read
  rw [resultOfLine?, behind?_append]
  exact read

/-- **The branches are read as clauses**, and the line behind them as the last result. -/
theorem bodyOfLines?_branchSource (keyword : String) {arguments : String}
    {branches : List Branch} {last : String} {final : Application}
    (isInner : IsInner arguments.toList)
    (asks : ∀ branch ∈ branches, branch.checks ≠ [])
    (areWords : ∀ name ∈ branches.flatMap Branch.names, Text.IsWord name)
    (isLast : resultOfLine? 4 last.toList = some final) :
    bodyOfLines? keyword ((branchSource arguments keyword branches ++ [last]).map String.toList) =
      some (branches.map (Branch.clause arguments), final) := by
  induction branches generalizing keyword with
  | nil => simp [branchSource, bodyOfLines?, isLast]
  | cons branch rest inductionHypothesis =>
      rw [List.forall_mem_cons] at asks
      rw [List.flatMap_cons, List.forall_mem_append] at areWords
      obtain ⟨branchWords, restWords⟩ := areWords
      have checkWords : ∀ check ∈ branch.checks, ∀ name ∈ check.names, Text.IsWord name :=
        fun check isCheck name isName => branchWords name (Branch.mem_names isCheck isName)
      have tests := testsOfLine?_condition keyword rfl asks.1 checkWords
      have result : resultOfLine? 8 (s!"        return {branch.target}({arguments})").toList =
          some ⟨branch.target, arguments⟩ := by
        have isTarget : Text.IsWord branch.target := branchWords _ (by simp [Branch.names])
        have legible : Application.Legible ⟨branch.target, arguments⟩ :=
          ⟨isInner_of_isWord isTarget, isInner⟩
        rw [← resultOfLine?_return 8 legible]
        simp [toString, Application.text, List.replicate]
      have others := inductionHypothesis "elif" asks.2 restWords
      rw [branchSource]
      simp only [List.cons_append, List.map_cons, bodyOfLines?, tests, result, others]
      rfl

/-- The lines of a text whose lines all have an end, and the nothing behind them. -/
private theorem splitOn_lines {lines : List String}
    (areLines : ∀ line ∈ lines, '\n' ∉ line.toList) :
    (String.join (lines.map (· ++ "\n"))).toList.splitOn '\n' =
      lines.map String.toList ++ [[]] := by
  have joined : (String.join (lines.map (· ++ "\n"))).toList =
      ['\n'].intercalate (lines.map String.toList ++ [[]]) := by
    induction lines with
    | nil => rfl
    | cons line rest inductionHypothesis =>
        have later := inductionHypothesis fun other inside => areLines other (by simp [inside])
        rw [List.map_cons, String.join_cons, String.toList_append, later]
        cases rest <;> simp
  rw [joined]
  refine List.splitOn_intercalate '\n' ?_ (by simp)
  rw [List.forall_mem_append, List.forall_mem_map]
  exact ⟨areLines, by simp⟩

/-- No line of a branch holds a line end. -/
private theorem not_mem_branchSource {arguments keyword : String} {branches : List Branch}
    (isInner : IsInner arguments.toList) (isKeyword : Text.IsWord keyword)
    (areWords : ∀ name ∈ branches.flatMap Branch.names, Text.IsWord name) :
    ∀ line ∈ branchSource arguments keyword branches, '\n' ∉ line.toList := by
  induction branches generalizing keyword with
  | nil => simp [branchSource]
  | cons branch rest inductionHypothesis =>
      rw [List.flatMap_cons, List.forall_mem_append] at areWords
      obtain ⟨branchWords, restWords⟩ := areWords
      have isTarget : Text.IsWord branch.target := branchWords _ (by simp [Branch.names])
      have oneCondition : '\n' ∉
          (String.intercalate " and " (branch.checks.map Check.text)).toList := by
        refine not_mem_intercalate (by decide) (List.forall_mem_map.mpr fun check isCheck => ?_)
        rw [check.text_eq]
        apply Application.not_mem_text
        apply Check.legible_application
        exact fun name isName => branchWords name (Branch.mem_names isCheck isName)
      rw [branchSource, List.forall_mem_cons, List.forall_mem_cons]
      generalize String.intercalate " and " (branch.checks.map Check.text) = condition
        at oneCondition ⊢
      refine ⟨?_, ?_, inductionHypothesis (by decide) restWords⟩
      · simpa [toString] using ⟨isInner_of_isWord isKeyword '\n' (by simp), oneCondition⟩
      · simpa [toString] using
          ⟨isInner_of_isWord isTarget '\n' (by simp), isInner '\n' (by simp)⟩

/-- **The source of a wrapper is read as the definition that it writes.** -/
theorem ofText?_source {wrapper : Wrapper} (isName : Text.IsWord wrapper.name)
    (readable : readName? wrapper.name = some wrapper.name)
    (areParams : ∀ name ∈ wrapper.params.names, Text.IsWord name)
    (areUsed : ∀ name ∈ wrapper.usedNames, Text.IsWord name)
    (asks : ∀ branch ∈ wrapper.branches, branch.checks ≠ []) :
    Definition.ofText? wrapper.source = some wrapper.definition := by
  have innerFormal : IsInner wrapper.params.formalText.toList := by
    rw [ParamList.formalText_eq]
    exact isInner_texts (ParamList.names_formalPieces areParams ParamList.isWord_defaultName)
  have innerCall : IsInner wrapper.params.callText.toList := by
    rw [ParamList.callText_eq]
    exact isInner_texts (ParamList.names_callPieces areParams)
  obtain ⟨branchWords, finalWord⟩ := List.forall_mem_append.mp areUsed
  rw [List.forall_mem_singleton] at finalWord
  have headLegible : Application.Legible ⟨wrapper.name, wrapper.params.formalText⟩ :=
    ⟨isInner_of_isWord isName, innerFormal⟩
  have finalLegible : Application.Legible ⟨wrapper.final, wrapper.params.callText⟩ :=
    ⟨isInner_of_isWord finalWord, innerCall⟩
  -- The three kinds of lines, as they are read.
  have head : (s!"def {wrapper.name}({wrapper.params.formalText}):").toList = "def ".toList ++
      ((Application.mk wrapper.name wrapper.params.formalText).text.toList ++ [':']) := by
    simp [toString, Application.text]
  have last : (s!"    return {wrapper.final}({wrapper.params.callText})").toList =
      List.replicate 4 ' ' ++ "return ".toList ++
        (Application.mk wrapper.final wrapper.params.callText).text.toList := by
    simp [toString, Application.text, List.replicate]
  have body := bodyOfLines?_branchSource "if" innerCall asks branchWords
    (last ▸ resultOfLine?_return 4 finalLegible)
  have lines : ∀ line ∈ wrapper.sourceLines, '\n' ∉ line.toList := by
    rw [sourceLines, List.cons_append, List.forall_mem_cons, List.forall_mem_append,
      List.forall_mem_singleton, head, last]
    refine ⟨?_, not_mem_branchSource innerCall (by decide) branchWords, ?_⟩
    · simpa using Application.not_mem_text headLegible
    · simpa [List.replicate] using Application.not_mem_text finalLegible
  rw [Definition.ofText?, source, splitOn_lines lines, sourceLines, List.cons_append,
    List.map_cons, List.cons_append]
  simp only [List.getLast?_concat, List.dropLast_concat, if_pos, head, behind?_append,
    Option.bind_some, Application.ofText?_text headLegible (by decide : ')' ∉ [':']), body]
  rw [Option.bind_eq_bind, Option.bind_some, readable]
  rfl

end StaticDispatch.Wrapper
