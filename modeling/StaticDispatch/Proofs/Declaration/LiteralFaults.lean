import Mathlib.Data.List.TakeWhile
import StaticDispatch.Proofs.Declaration.LiteralValues
import StaticDispatch.Proofs.Declaration.Rejection

/-!
Contract: what loading a text reports, and the one kind of fault that it does not report.

A fault of the grammar is the only report of its text. In a text without one, a literal
may still have no value: a number with too many digits, or a quoted text with a broken
escape. The first such literal makes loading fail. Otherwise every declaration with a
fault is reported, in the order of loading.

The reader cuts a text into declarations, lists and parts and asks each part for its
first literal. The grammar has literals only inside lists and at most one in a part, so
none is left out.

Owns: the first literal fault of a text, and the reports of a loaded text.
Does not own: which literals and which declarations have a fault.
-/

namespace StaticDispatch.Declaration

open StaticDispatch.Traversal (error? error?_bind_pure error?_map error?_mapM error?_filterMapM)

def Token.fault? (token : Token) : Option LiteralFault :=
  error? token.value?

def firstFault? (tokens : List Token) : Option LiteralFault :=
  tokens.findSome? Token.fault?

private theorem Token.fault?_of_not_literal {token : Token}
    (other : token.terminal.isLiteral = false) :
    token.fault? = none := by
  unfold Token.fault? Token.value?
  cases isTerminal : token.terminal <;> first | rfl | simp [isTerminal, Terminal.isLiteral] at other

private theorem Token.fault?_eq_some_iff {token : Token} (spelledOut : token.isSpelledOut = true)
    {fault : LiteralFault} : token.fault? = some fault ↔ token.Lacks fault := by
  rw [Token.fault?, Traversal.error?_eq_some, Token.value?_eq_error_iff spelledOut]

private theorem Token.fault?_eq_none_iff {token : Token} (spelledOut : token.isSpelledOut = true) :
    token.fault? = none ↔ ∀ fault, ¬ token.Lacks fault := by
  simp only [Option.eq_none_iff_forall_ne_some, ne_eq, Token.fault?_eq_some_iff spelledOut]

private theorem firstFault?_eq_some_iff {tokens : List Token}
    (spelledOut : ∀ token ∈ tokens, token.isSpelledOut = true) {fault : LiteralFault} :
    firstFault? tokens = some fault ↔ FirstLacks tokens fault := by
  rw [firstFault?, List.findSome?_eq_some_iff, FirstLacks]
  refine exists_congr fun before => exists_congr fun token => exists_congr fun after =>
    and_congr_right fun isTokens => ?_
  have inside : ∀ other ∈ before ++ token :: after, other.isSpelledOut = true :=
    isTokens ▸ spelledOut
  refine and_congr (Token.fault?_eq_some_iff (inside token (by simp))) ?_
  exact forall₂_congr fun other isOther =>
    Token.fault?_eq_none_iff (inside other (by simp [isOther]))

private theorem firstFault?_eq_none_iff {tokens : List Token}
    (spelledOut : ∀ token ∈ tokens, token.isSpelledOut = true) :
    firstFault? tokens = none ↔ ∀ token ∈ tokens, ∀ fault, ¬ token.Lacks fault := by
  rw [firstFault?, List.findSome?_eq_none_iff]
  exact forall₂_congr fun token inside => Token.fault?_eq_none_iff (spelledOut token inside)

private theorem firstFault?_cons (token : Token) (rest : List Token) :
    firstFault? (token :: rest) = token.fault?.or (firstFault? rest) := by
  rw [firstFault?, List.findSome?_cons]
  cases token.fault? <;> rfl

private theorem firstFault?_cons_of_not_literal {token : Token}
    (other : token.terminal.isLiteral = false)
    (rest : List Token) : firstFault? (token :: rest) = firstFault? rest := by
  rw [firstFault?_cons, Token.fault?_of_not_literal other, Option.none_or]

/-! ## Where literals stand -/

namespace Point

variable {point next last : Point} {terminal : Terminal} {token : Token} {tokens : List Token}

theorem run_cons (ran : point.run (token :: tokens) = .ok last) :
    ∃ next, point.step token.terminal = some next ∧ next.run tokens = .ok last := by
  rw [run] at ran
  split at ran
  · cases ran
  · exact ⟨_, by assumption, ran⟩

theorem run_append {first second : List Token} (ran : point.run (first ++ second) = .ok last) :
    ∃ middle, point.run first = .ok middle ∧ middle.run second = .ok last := by
  induction first generalizing point with
  | nil => exact ⟨point, rfl, ran⟩
  | cons token rest inductionHypothesis =>
      obtain ⟨next, steps, later⟩ := run_cons ran
      obtain ⟨middle, taken, left⟩ := inductionHypothesis later
      exact ⟨middle, by rw [run, steps]; exact taken, left⟩

private theorem run_of_isPrefix {taken : List Token} (ran : point.run tokens = .ok last)
    (starts : taken <+: tokens) : ∃ middle, point.run taken = .ok middle := by
  obtain ⟨left, rfl⟩ := starts
  obtain ⟨middle, accepted, -⟩ := run_append ran
  exact ⟨middle, accepted⟩

private theorem run_of_isSuffix {left : List Token} (ran : point.run tokens = .ok last)
    (ends : left <:+ tokens) : ∃ middle : Point, middle.run left = .ok last := by
  obtain ⟨taken, rfl⟩ := ends
  obtain ⟨middle, -, accepted⟩ := run_append ran
  exact ⟨middle, accepted⟩

/-- Where a point stands with respect to the list of its declaration. -/
inductive Phase where
  | before
  | inside
  | after
deriving DecidableEq

def phase : Point → Phase
  | .genericName | .genericOpen | .methodName | .methodOpen | .callName | .callOpen => .before
  | .firstParam | .param | .afterPlain | .fallback | .afterParam | .afterStar | .otherKeysName
  | .firstSpec | .spec | .afterSpec | .firstArg | .arg | .afterArg => .inside
  | _ => .after

/-- Before its list, a declaration has no literals, and the list opens once. -/
private theorem step_before (steps : point.step terminal = some next)
    (isBefore : point.phase = .before) :
    terminal.isLiteral = false ∧
      next.phase = if terminal = .openParen then .inside else .before := by
  cases point <;> cases isBefore <;> cases terminal <;> cases steps <;> decide

/-- A list goes on until it closes. -/
theorem step_inside (steps : point.step terminal = some next) (isInside : point.phase = .inside) :
    next.phase = if terminal = .closeParen then .after else .inside := by
  cases point <;> cases isInside <;> cases terminal <;> cases steps <;> decide

/-- Behind its list, a declaration has no literals. -/
private theorem step_after (steps : point.step terminal = some next)
    (isAfter : point.phase = .after) (sameDeclaration : terminal.opensDeclaration = false) :
    terminal.isLiteral = false ∧ next.phase = .after := by
  cases point <;> cases isAfter <;> cases terminal <;> cases steps <;> cases sameDeclaration <;>
    decide

/-- A literal ends its part. -/
private theorem step_literal (steps : point.step terminal = some next)
    (isLiteral : terminal.isLiteral = true) {following : Terminal} {second : Point}
    (goesOn : next.step following = some second) :
    following = .comma ∨ following = .closeParen := by
  cases terminal <;> cases isLiteral <;> cases point <;> cases steps <;> cases following <;>
    cases goesOn <;> decide

/-- The word that opens a declaration leads to the same point from everywhere. -/
theorem step_opener (steps : point.step terminal = some next)
    (opens : terminal.opensDeclaration = true) : open? terminal = some next := by
  cases terminal <;> cases opens <;> cases point <;> cases steps <;> rfl

def isInCall : Point → Bool
  | .callName | .callOpen | .firstArg | .arg | .afterArg | .callEnd => true
  | _ => false

private theorem step_inCall (steps : point.step terminal = some next)
    (inCall : point.isInCall = true) :
    terminal.opensDeclaration = false ∧ next.isInCall = true := by
  cases point <;> cases inCall <;> cases terminal <;> cases steps <;> decide

/-- A call site opens no declaration. -/
private theorem opensDeclaration_of_inCall (ran : point.run tokens = .ok last)
    (inCall : point.isInCall = true) :
    ∀ token ∈ tokens, token.terminal.opensDeclaration = false := by
  induction tokens generalizing point with
  | nil => exact List.forall_mem_nil _
  | cons token rest inductionHypothesis =>
      obtain ⟨next, steps, later⟩ := run_cons ran
      obtain ⟨opensNot, nextInCall⟩ := step_inCall steps inCall
      exact List.forall_mem_cons.mpr ⟨opensNot, inductionHypothesis later nextInCall⟩

private theorem firstFault?_after (ran : point.run tokens = .ok last)
    (isAfter : point.phase = .after)
    (sameDeclaration : ∀ token ∈ tokens, token.terminal.opensDeclaration = false) :
    firstFault? tokens = none := by
  induction tokens generalizing point with
  | nil => rfl
  | cons token rest inductionHypothesis =>
      obtain ⟨next, steps, later⟩ := run_cons ran
      obtain ⟨notLiteral, nextAfter⟩ := step_after steps isAfter (sameDeclaration token (by simp))
      rw [firstFault?_cons_of_not_literal notLiteral]
      exact inductionHypothesis later nextAfter fun other isIn =>
        sameDeclaration other (by simp [isIn])

/-- From inside a list on, the literals are those before it closes. -/
private theorem firstFault?_inside (ran : point.run tokens = .ok last)
    (isInside : point.phase = .inside)
    (sameDeclaration : ∀ token ∈ tokens, token.terminal.opensDeclaration = false) :
    firstFault? tokens = firstFault? (tokens.takeWhile (·.terminal ≠ .closeParen)) := by
  induction tokens generalizing point with
  | nil => rfl
  | cons token rest inductionHypothesis =>
      obtain ⟨next, steps, later⟩ := run_cons ran
      have nextPhase := step_inside steps isInside
      have restSame : ∀ other ∈ rest, other.terminal.opensDeclaration = false :=
        fun other isIn => sameDeclaration other (by simp [isIn])
      by_cases closes : token.terminal = .closeParen
      · rw [if_pos closes] at nextPhase
        rw [firstFault?_cons_of_not_literal (by rw [closes]; rfl),
          firstFault?_after later nextPhase restSame, List.takeWhile_cons_of_neg (by simp [closes])]
        rfl
      · rw [if_neg closes] at nextPhase
        rw [List.takeWhile_cons_of_pos (by simp [closes]), firstFault?_cons, firstFault?_cons,
          inductionHypothesis later nextPhase restSame]

/-- **All literals of a declaration stand inside its list.** -/
theorem firstFault?_before (ran : point.run tokens = .ok last) (isBefore : point.phase = .before)
    (sameDeclaration : ∀ token ∈ tokens, token.terminal.opensDeclaration = false) :
    firstFault? tokens = firstFault? (((tokens.dropWhile (·.terminal ≠ .openParen)).drop
      1).takeWhile (·.terminal ≠ .closeParen)) := by
  induction tokens generalizing point with
  | nil => rfl
  | cons token rest inductionHypothesis =>
      obtain ⟨next, steps, later⟩ := run_cons ran
      obtain ⟨notLiteral, nextPhase⟩ := step_before steps isBefore
      have restSame : ∀ other ∈ rest, other.terminal.opensDeclaration = false :=
        fun other isIn => sameDeclaration other (by simp [isIn])
      rw [firstFault?_cons_of_not_literal notLiteral]
      by_cases opens : token.terminal = .openParen
      · rw [if_pos opens] at nextPhase
        rw [List.dropWhile_cons_of_neg (by simp [opens])]
        exact firstFault?_inside later nextPhase restSame
      · rw [if_neg opens] at nextPhase
        rw [List.dropWhile_cons_of_pos (by simp [opens])]
        exact inductionHypothesis later nextPhase restSame

end Point

/-! ## Parts -/

def partFault? (part : List Token) : Option LiteralFault :=
  error? (firstValue part)

private theorem partFault?_literal {token : Token} (isLiteral : token.terminal.isLiteral = true)
    (rest : List Token) : partFault? (token :: rest) = token.fault? := by
  rw [partFault?, firstValue, List.find?_cons_of_pos (by simpa using isLiteral)]
  rfl

private theorem partFault?_cons_of_not_literal {token : Token}
    (other : token.terminal.isLiteral = false)
    (rest : List Token) : partFault? (token :: rest) = partFault? rest := by
  rw [partFault?, firstValue, List.find?_cons_of_neg (by simp [other])]
  rfl

/-- **The parts of a list have all its literals**, each part at most one. -/
theorem findSome?_splitCommas {point last : Point} {tokens : List Token}
    (ran : point.run tokens = .ok last)
    (notClosed : ∀ token ∈ tokens, token.terminal ≠ .closeParen) :
    (splitCommas tokens).findSome? partFault? = firstFault? tokens := by
  induction tokens generalizing point with
  | nil => rfl
  | cons token rest inductionHypothesis =>
      obtain ⟨next, steps, later⟩ := Point.run_cons ran
      have others := inductionHypothesis later fun other isIn => notClosed other (by simp [isIn])
      by_cases isComma : token.terminal = .comma
      · rw [splitCommas, if_pos isComma, List.findSome?_cons, others,
          firstFault?_cons_of_not_literal (by rw [isComma]; rfl)]
        rfl
      · obtain ⟨part, parts, split⟩ := exists_splitCommas rest
        rw [splitCommas_cons isComma split]
        rw [split] at others
        cases isLiteral : token.terminal.isLiteral with
        | false =>
            rw [firstFault?_cons_of_not_literal isLiteral, ← others, List.findSome?_cons,
              List.findSome?_cons, partFault?_cons_of_not_literal isLiteral]
        | true =>
            -- Behind a literal the part is over, so the rest of its part is empty.
            have partEmpty : part = [] := by
              cases rest with
              | nil =>
                  cases split
                  rfl
              | cons following rest =>
                  obtain ⟨second, goesOn, -⟩ := Point.run_cons later
                  rcases Point.step_literal steps isLiteral goesOn with isComma | closes
                  · rw [splitCommas, if_pos isComma] at split
                    cases split
                    rfl
                  · exact absurd closes (notClosed following (by simp))
            subst partEmpty
            rw [List.findSome?_cons, partFault?_literal isLiteral, firstFault?_cons, ← others]
            cases token.fault? <;> rfl

/-- The parts of a declaration's list have all its literals. -/
theorem findSome?_parts {point last : Point} {tokens : List Token}
    (ran : point.run tokens = .ok last) (isBefore : point.phase = .before)
    (sameDeclaration : ∀ token ∈ tokens, token.terminal.opensDeclaration = false) :
    (parts tokens).findSome? partFault? = firstFault? tokens := by
  have inList := Point.firstFault?_before ran isBefore sameDeclaration
  have behind : (tokens.dropWhile (·.terminal ≠ .openParen)).drop 1 <:+ tokens :=
    (List.drop_suffix ..).trans (List.dropWhile_suffix _)
  obtain ⟨first, ranBehind⟩ := Point.run_of_isSuffix ran behind
  obtain ⟨final, ranInside⟩ := Point.run_of_isPrefix ranBehind (List.takeWhile_prefix _)
  unfold parts
  dsimp only
  split
  next isEmpty =>
    rw [inList, List.isEmpty_iff.mp isEmpty]
    rfl
  next =>
    have notClosed : ∀ token ∈ ((tokens.dropWhile (·.terminal ≠ .openParen)).drop 1).takeWhile
        (·.terminal ≠ .closeParen), token.terminal ≠ .closeParen :=
      fun token isIn => by simpa using List.mem_takeWhile_imp isIn
    rw [findSome?_splitCommas ranInside notClosed, inList]

/-! ## Declarations -/

/-- The literals of a text are those of its first declaration's rest and of the others. -/
private theorem firstFault?_groups (tokens : List Token) :
    firstFault? tokens = (firstFault? (tokens.takeWhile (!·.terminal.opensDeclaration))).or
      ((groups tokens).findSome? fun group => firstFault? group.2) := by
  induction tokens with
  | nil => rfl
  | cons token rest inductionHypothesis =>
      rw [groups]
      cases opens : token.terminal.opensDeclaration with
      | true =>
          have notLiteral : token.terminal.isLiteral = false := by
            cases isTerminal : token.terminal <;>
              simp [isTerminal, Terminal.opensDeclaration] at opens <;> rfl
          rw [firstFault?_cons_of_not_literal notLiteral, inductionHypothesis, if_pos rfl,
            List.takeWhile_cons_of_neg (by simp [opens]), List.findSome?_cons]
          cases firstFault? (rest.takeWhile (!·.terminal.opensDeclaration)) <;> rfl
      | false =>
          rw [firstFault?_cons, inductionHypothesis, List.takeWhile_cons_of_pos (by simp [opens]),
            firstFault?_cons, Option.or_assoc]
          rfl

/-- Each declaration of an accepted text is accepted behind the word that opens it. -/
private theorem run_of_mem_groups {point last : Point} {tokens : List Token}
    (ran : point.run tokens = .ok last) {group : Token × List Token}
    (isGroup : group ∈ groups tokens) :
    ∃ first final, Point.open? group.1.terminal = some first ∧ first.run group.2 = .ok final ∧
      ∀ token ∈ group.2, token.terminal.opensDeclaration = false := by
  induction tokens generalizing point with
  | nil => cases isGroup
  | cons token rest inductionHypothesis =>
      obtain ⟨next, steps, later⟩ := Point.run_cons ran
      rw [groups] at isGroup
      split at isGroup
      next opens =>
        rcases List.mem_cons.mp isGroup with rfl | inRest
        · obtain ⟨final, taken⟩ := Point.run_of_isPrefix later (List.takeWhile_prefix _)
          exact ⟨next, final, Point.step_opener steps opens, taken, fun token isIn => by
            simpa using List.mem_takeWhile_imp isIn⟩
        · exact inductionHypothesis later inRest
      next => exact inductionHypothesis later isGroup

private theorem error?_genericDecl (position : Position) (tokens : List Token) :
    error? (GenericDecl.ofTokens position tokens) = (parts tokens).findSome? partFault? := by
  rw [GenericDecl.ofTokens, error?_bind_pure, error?_filterMapM]
  simp only [ParamDecl.ofPart?, error?_bind_pure]
  rfl

private theorem error?_methodDecl (position : Position) (tokens : List Token) :
    error? (MethodDecl.ofTokens position tokens) = (parts tokens).findSome? partFault? := by
  rw [MethodDecl.ofTokens, error?_bind_pure, error?_filterMapM]
  simp only [SpecDecl.ofPart?, error?_bind_pure]
  rfl

private theorem error?_callDecl (tokens : List Token) :
    error? (CallDecl.ofTokens tokens) = (parts tokens).findSome? partFault? := by
  rw [CallDecl.ofTokens, error?_bind_pure, error?_filterMapM]
  simp only [ArgDecl.ofPart?, error?_bind_pure]
  rfl

/-- **A declaration of an accepted text fails with its first literal fault.** -/
theorem error?_ofGroup {first final : Point} {group : Token × List Token}
    (opened : Point.open? group.1.terminal = some first) (ran : first.run group.2 = .ok final)
    (sameDeclaration : ∀ token ∈ group.2, token.terminal.opensDeclaration = false) :
    error? (Item.ofGroup group) = firstFault? group.2 := by
  unfold Item.ofGroup
  cases isTerminal : group.1.terminal <;> rw [isTerminal] at opened <;> cases opened
  case typeWord => exact (Point.firstFault?_after ran rfl sameDeclaration).symm
  case genericWord =>
    rw [← findSome?_parts ran rfl sameDeclaration, ← error?_genericDecl group.1.position]
    exact error?_map ..
  case methodWord =>
    rw [← findSome?_parts ran rfl sameDeclaration, ← error?_methodDecl group.1.position]
    exact error?_map ..

/-- The tokens of an accepted text are accepted, up to a point where the text may end. -/
theorem run_of_tokens {vocabulary : Vocabulary} {start : Point} {text : List Char}
    {accepted : List Token} (scanned : tokens vocabulary start text = .ok accepted) :
    ∃ last, start.run accepted = .ok last ∧ last.mayEnd = true := by
  unfold tokens at scanned
  dsimp only at scanned
  split at scanned
  · cases scanned
  next last ran =>
    split at scanned
    · cases scanned
    · split at scanned
      next ends =>
        cases scanned
        exact ⟨last, ran, ends⟩
      · cases scanned

/-- **Reading the declarations of an accepted text fails with its first literal fault.** -/
theorem error?_items {last : Point} {tokens : List Token}
    (ran : Point.run .declaration tokens = .ok last) :
    error? ((groups tokens).mapM Item.ofGroup) = firstFault? tokens := by
  have atWord : tokens.takeWhile (!·.terminal.opensDeclaration) = [] := by
    cases tokens with
    | nil => rfl
    | cons token rest =>
        obtain ⟨next, steps, -⟩ := Point.run_cons ran
        have opens : token.terminal.opensDeclaration = true := by
          cases isTerminal : token.terminal <;> rw [isTerminal] at steps <;> cases steps <;> rfl
        rw [List.takeWhile_cons_of_neg (by simp [opens])]
  have each : ∀ group ∈ groups tokens, error? (Item.ofGroup group) = firstFault? group.2 := by
    intro group isGroup
    obtain ⟨first, final, opened, taken, sameDeclaration⟩ := run_of_mem_groups ran isGroup
    exact error?_ofGroup opened taken sameDeclaration
  calc
    error? ((groups tokens).mapM Item.ofGroup)
    _ = (groups tokens).findSome? fun group => error? (Item.ofGroup group) := error?_mapM ..
    _ = (groups tokens).findSome? fun group => firstFault? group.2 := by
      rw [← List.head?_filterMap, List.filterMap_congr each, List.head?_filterMap]
    _ = firstFault? tokens := by
      rw [firstFault?_groups, atWord]
      rfl

/-- **Reading a call site that is spelled out fails with its first literal fault**, if the
grammar accepts it. -/
theorem CallDecl.read_eq_literal_iff {source : String} {fault : LiteralFault}
    (spelledOut : spellsOut .call .callName source = true) :
    CallDecl.read source = .error (.literal fault) ↔
      ∃ accepted, tokens .call .callName source.toList = .ok accepted ∧
        FirstLacks accepted fault := by
  unfold CallDecl.read
  cases scanned : tokens .call .callName source.toList with
  | error refusal => simp
  | ok accepted =>
      obtain ⟨last, ran, -⟩ := run_of_tokens scanned
      have faults : error? (CallDecl.ofTokens accepted) = firstFault? accepted := by
        rw [error?_callDecl,
          findSome?_parts ran rfl (Point.opensDeclaration_of_inCall ran rfl)]
      simp only [Except.ok.injEq, exists_eq_left',
        ← firstFault?_eq_some_iff (isSpelledOut_of_tokens spelledOut scanned), ← faults]
      cases CallDecl.ofTokens accepted <;> simp [Except.mapError, error?]

/-! ## Reports -/

def Item.fault? (world : World) : Item → Option Located
  | .type decl =>
      (error? (declareType world.table decl)).map ({ fault := ·, position := decl.position })
  | .generic decl => error? (declareGeneric world.registry decl)
  | .method decl => error? (declareMethod world.table world.registry decl).1

namespace World

def faults : World → List Item → List Located
  | _, [] => []
  | world, item :: rest => (item.fault? world).toList ++ faults (world.addItem item) rest

/-- A declaration is reported if it has a fault, and the report is of that fault. -/
private theorem diagnostics_addItem_eq (world : World) (item : Item) :
    (world.addItem item).diagnostics =
        world.diagnostics ++ (item.fault? world).toList.map world.reportOf ∧
      (world.addItem item).file = world.file := by
  cases item with
  | type decl =>
      cases declared : declareType world.table decl <;>
        simp [addItem, addType, Item.fault?, declared, error?, reject, report, reportOf]
  | generic decl =>
      cases declared : declareGeneric world.registry decl <;>
        simp [addItem, addGeneric, Item.fault?, declared, error?, reject, report, reportOf]
  | method decl =>
      rcases declared : declareMethod world.table world.registry decl with ⟨_ | _, left⟩ <;>
        simp [addItem, addMethod, Item.fault?, declared, error?, reject, report, reportOf, span]

/-- A report shows of its world only the file. -/
private theorem reportOf_congr {world other : World} (sameFile : other.file = world.file) :
    other.reportOf = world.reportOf := by
  funext located
  simp only [reportOf, span, sameFile]

/-- **Loading reports every declaration with a fault**, in order. -/
theorem diagnostics_foldl_addItem (world : World) (items : List Item) :
    (items.foldl addItem world).diagnostics =
      world.diagnostics ++ (world.faults items).map world.reportOf := by
  induction items generalizing world with
  | nil => simp [faults]
  | cons item rest inductionHypothesis =>
      obtain ⟨own, sameFile⟩ := diagnostics_addItem_eq world item
      rw [List.foldl_cons, inductionHypothesis, own, reportOf_congr sameFile, faults,
        List.map_append, List.append_assoc]

/-- Loading an accepted text fails with its first literal fault. -/
private theorem error?_load (file : Option String) {text : String} {accepted : List Token}
    (scanned : tokens .program .declaration text.toList = .ok accepted) :
    error? (World.load file text) = firstFault? accepted := by
  obtain ⟨last, ran, -⟩ := run_of_tokens scanned
  rw [← error?_items ran, World.load, Program.read, scanned]
  dsimp only
  cases (groups accepted).mapM Item.ofGroup <;> rfl

private theorem exists_program_of_load {file : Option String} {text : String}
    {accepted : List Token}
    {world : World} (scanned : tokens .program .declaration text.toList = .ok accepted)
    (loaded : World.load file text = .ok world) :
    ∃ program, Program.read text = .ok program ∧ (World.empty file).addProgram program = world := by
  unfold World.load at loaded
  split at loaded
  next program spelled => exact ⟨program, spelled, Except.ok.inj loaded⟩
  next fault failed =>
    rw [Program.read, scanned] at failed
    dsimp only at failed
    split at failed <;> cases failed
  next => cases loaded

/-- **Loading fails exactly on literals without a value.** A fault of the grammar is the
only report of its text, and nothing is loaded. A text without one whose quoted texts are
spelled out fails to load with the fault of its first number or quoted text that has no
value. If there is none, loading has a result, and its reports are those of the
declarations with a fault, in the order of loading. -/
theorem load_fails_iff_literal_fault (file : Option String) (text : String)
    (spelledOut : spellsOut .program .declaration text = true) :
    match tokens .program .declaration text.toList with
    | .error fault =>
        World.load file text =
          .ok { World.empty file with diagnostics := [{
            message := fault.message
            phase := some "parser"
            span := (World.empty file).span fault.position }] }
    | .ok accepted =>
        (∀ fault, World.load file text = .error fault ↔ FirstLacks accepted fault) ∧
          ((∀ token ∈ accepted, ∀ fault, ¬ token.Lacks fault) →
            ∃ program, Program.read text = .ok program ∧
              World.load file text = .ok ((World.empty file).addProgram program) ∧
              ((World.empty file).addProgram program).diagnostics =
                ((World.empty file).faults program.items).map (World.empty file).reportOf) := by
  cases scanned : tokens .program .declaration text.toList with
  | error fault =>
      show World.load file text = _
      rw [World.load, Program.read, scanned]
      rfl
  | ok accepted =>
      have loadFault := error?_load file scanned
      have areSpelledOut := isSpelledOut_of_tokens spelledOut scanned
      refine ⟨fun fault => ?_, fun noFault => ?_⟩
      · rw [← firstFault?_eq_some_iff areSpelledOut, ← loadFault, Traversal.error?_eq_some]
      · rw [(firstFault?_eq_none_iff areSpelledOut).mpr noFault] at loadFault
        obtain ⟨world, loaded⟩ := Traversal.error?_eq_none.mp loadFault
        obtain ⟨program, spelled, rfl⟩ := exists_program_of_load scanned loaded
        refine ⟨program, spelled, loaded, ?_⟩
        rw [addProgram_eq, diagnostics_foldl_addItem]
        rfl

namespace Escaped

def text : String :=
  "method f(\"\\x41\", \"\\x4\")"

def wholeTokens : List Token :=
  [⟨.methodWord, "method", ⟨1, 1⟩⟩, ⟨.name, "f", ⟨1, 8⟩⟩, ⟨.openParen, "(", ⟨1, 9⟩⟩,
    ⟨.text, "\"\\x41\"", ⟨1, 10⟩⟩, ⟨.comma, ",", ⟨1, 16⟩⟩]

def brokenToken : Token :=
  ⟨.text, "\"\\x4\"", ⟨1, 18⟩⟩

/-- The escape of the first text has its two digits, the one of the second lacks one. -/
theorem second_text_fails_to_load :
    spellsOut .program .declaration text = true ∧ World.load none text = .error .malformedText := by
  have scanned : tokens .program .declaration text.toList =
      .ok (wholeTokens ++ brokenToken :: [⟨.closeParen, ")", ⟨1, 23⟩⟩]) := by with_unfolding_all rfl
  have spelledOut : spellsOut .program .declaration text = true := by
    rw [spellsOut, scanned]
    with_unfolding_all rfl
  have lacks : brokenToken.Lacks .malformedText := by
    have uncoded : escapeCode? 'x' ['4'] = none := rfl
    have lacksCode : LacksCode 'x' ['4'] := ⟨rfl, by simp [uncoded]⟩
    have content : quotedContent brokenToken.text = ['\\', 'x', '4'] := by with_unfolding_all rfl
    exact .broken rfl (by decide +kernel) (content ▸ .codeless lacksCode)
  have whole : ∀ other ∈ wholeTokens, ∀ fault, ¬ other.Lacks fault := by
    intro other inside fault otherLacks
    have readable : wholeTokens.all (fun other =>
        other.isSpelledOut && other.value?.toOption.isSome) = true := by with_unfolding_all rfl
    obtain ⟨isSpelledOut, hasValue⟩ :=
      (Bool.and_eq_true _ _).mp (List.all_eq_true.mp readable other inside)
    rw [(Token.value?_eq_error_iff isSpelledOut).mpr otherLacks] at hasValue
    cases hasValue
  have loads := load_fails_iff_literal_fault none text spelledOut
  rw [scanned] at loads
  exact ⟨spelledOut, (loads.1 _).mpr ⟨wholeTokens, brokenToken, _, rfl, lacks, whole⟩⟩

end Escaped

/-- A quoted text with a broken escape is not reported: loading it fails, although the
grammar accepts its declaration. -/
theorem broken_escape_not_reported :
    (tokens .program .declaration "method f(\"\\x4\")".toList).toOption.isSome ∧
      World.load none "method f(\"\\x4\")" = .error .malformedText := by
  constructor <;> with_unfolding_all rfl

end World

end StaticDispatch.Declaration
