import StaticDispatch.Declaration.Literal
import StaticDispatch.Declaration.SyntaxFault

/-!
Contract: declarations and call sites as their texts spell them.

A program declares types, generic functions and methods. Each declaration starts
with a word of its own, and the parts of a list are divided by commas, so an
accepted text is cut at these words and at the commas.

Owns: declarations, programs, call sites, and reading them.
Does not own: whether the names of a program mean anything.
-/

namespace StaticDispatch.Declaration

structure TypeDecl where
  name : String
  supertypes : List String
  position : Position
deriving DecidableEq, Repr

inductive ParamKind where
  | plain
  /-- A parameter with the value it has by itself. -/
  | fallback (value : Value)
  | star
  | doubleStar

structure ParamDecl where
  kind : ParamKind
  /-- Only a star may have none. -/
  name : Option String
  position : Position

structure GenericDecl where
  name : String
  params : List ParamDecl
  precedence : Option (List String)
  position : Position

inductive SpecKind where
  | any
  | ofType (name : String)
  | exactly (value : Value)

structure SpecDecl where
  kind : SpecKind
  position : Position

structure MethodDecl where
  generic : String
  specs : List SpecDecl
  position : Position

inductive Item where
  | type (decl : TypeDecl)
  | generic (decl : GenericDecl)
  | method (decl : MethodDecl)

structure Program where
  types : List TypeDecl
  generics : List GenericDecl
  methods : List MethodDecl

inductive ArgKind where
  /-- Nothing is known of the argument. -/
  | top
  | ofType (name : String)
  | literal (value : Value)

structure ArgDecl where
  kind : ArgKind
  position : Position

structure CallDecl where
  name : String
  args : List ArgDecl
  position : Position

inductive ReadFault where
  | language (fault : SyntaxFault)
  | literal (fault : LiteralFault)

def names (tokens : List Token) : List String :=
  (tokens.filter (·.terminal = .name)).map (·.text)

/-- The runs of tokens between commas; there is one more than there are commas. -/
def splitCommas : List Token → List (List Token)
  | [] => [[]]
  | token :: rest =>
      if token.terminal = .comma then
        [] :: splitCommas rest
      else
        match splitCommas rest with
        | [] => [[token]]
        | first :: others => (token :: first) :: others

def parts (tokens : List Token) : List (List Token) :=
  let inside := ((tokens.dropWhile (·.terminal ≠ .openParen)).drop 1).takeWhile
    (·.terminal ≠ .closeParen)
  if inside.isEmpty then [] else splitCommas inside

def firstValue (tokens : List Token) : Except LiteralFault (Option Value) :=
  match tokens.find? (·.terminal.isLiteral) with
  | none => .ok none
  | some token => token.value?

def ParamDecl.ofPart? (part : List Token) : Except LiteralFault (Option ParamDecl) := do
  let value ← firstValue part
  return part.head?.map fun token =>
    let name := (names part).head?
    let position := token.position
    match token.terminal, value with
    | .star, _ => { kind := .star, name, position }
    | .doubleStar, _ => { kind := .doubleStar, name, position }
    | _, some value => { kind := .fallback value, name, position }
    | _, none => { kind := .plain, name, position }

def SpecDecl.ofPart? (part : List Token) : Except LiteralFault (Option SpecDecl) := do
  let value ← firstValue part
  return part.head?.map fun token =>
    let position := token.position
    match token.terminal, value with
    | .name, _ => { kind := .ofType token.text, position }
    | _, some value => { kind := .exactly value, position }
    | _, none => { kind := .any, position }

def ArgDecl.ofPart? (part : List Token) : Except LiteralFault (Option ArgDecl) := do
  let value ← firstValue part
  return part.head?.map fun token =>
    let position := token.position
    match token.terminal, value with
    | .name, _ => { kind := .ofType token.text, position }
    | _, some value => { kind := .literal value, position }
    | _, none => { kind := .top, position }

def groups : List Token → List (Token × List Token)
  | [] => []
  | token :: rest =>
      if token.terminal.opensDeclaration then
        (token, rest.takeWhile (!·.terminal.opensDeclaration)) :: groups rest
      else
        groups rest

def TypeDecl.ofTokens (position : Position) (tokens : List Token) : TypeDecl :=
  let names := names tokens
  { name := names.headD "", supertypes := names.drop 1, position }

def precedenceNames? (tokens : List Token) : Option (List String) :=
  match tokens.dropWhile (·.terminal ≠ .precedenceWord) with
  | [] => none
  | _ :: rest => some (names rest)

def GenericDecl.ofTokens (position : Position) (tokens : List Token) :
    Except LiteralFault GenericDecl := do
  let params ← (parts tokens).filterMapM ParamDecl.ofPart?
  return {
    name := (names tokens).headD ""
    params
    precedence := precedenceNames? tokens
    position }

def MethodDecl.ofTokens (position : Position) (tokens : List Token) :
    Except LiteralFault MethodDecl := do
  let specs ← (parts tokens).filterMapM SpecDecl.ofPart?
  return { generic := (names tokens).headD "", specs, position }

def CallDecl.ofTokens (tokens : List Token) : Except LiteralFault CallDecl := do
  let args ← (parts tokens).filterMapM ArgDecl.ofPart?
  return {
    name := (names tokens).headD ""
    args
    position := (tokens.head?.map (·.position)).getD .start }

def Item.ofGroup (group : Token × List Token) : Except LiteralFault Item :=
  let position := group.1.position
  match group.1.terminal with
  | .genericWord => (GenericDecl.ofTokens position group.2).map .generic
  | .methodWord => (MethodDecl.ofTokens position group.2).map .method
  | _ => .ok (.type (TypeDecl.ofTokens position group.2))

def Program.ofItems (items : List Item) : Program where
  types := items.filterMap fun
    | .type decl => some decl
    | _ => none
  generics := items.filterMap fun
    | .generic decl => some decl
    | _ => none
  methods := items.filterMap fun
    | .method decl => some decl
    | _ => none

/-- Reads a program. A fault of the grammar comes before any fault of a literal. -/
def Program.read (text : String) : Except ReadFault Program :=
  match tokens .program .declaration text.toList with
  | .error fault => .error (.language fault)
  | .ok tokens =>
      match (groups tokens).mapM Item.ofGroup with
      | .error fault => .error (.literal fault)
      | .ok items => .ok (Program.ofItems items)

def CallDecl.read (text : String) : Except ReadFault CallDecl :=
  match tokens .call .callName text.toList with
  | .error fault => .error (.language fault)
  | .ok tokens => (CallDecl.ofTokens tokens).mapError .literal

end StaticDispatch.Declaration
