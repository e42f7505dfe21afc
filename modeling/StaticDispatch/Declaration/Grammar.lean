import StaticDispatch.Declaration.Token

/-!
Contract: which tokens may follow each other.

Both languages are regular, so a point of a text is one of finitely many: it says
which terminals may come next and whether the text may end here. No point is a
dead end, so the first terminal without a step is the first that rules the text
out.

Owns: the points, their steps, where a text may end, and what is expected.
Does not own: the meaning of an accepted text.
-/

namespace StaticDispatch.Declaration

inductive Point where
  /-- A declaration or the end. -/
  | declaration
  | typeName
  | afterTypeName
  | supertype
  | afterSupertype
  | genericName
  | genericOpen
  | firstParam
  | param
  | afterPlain
  | fallback
  | afterParam
  | afterStar
  | otherKeysName
  | afterGeneric
  | precedenceOpen
  | precedenceName
  | afterPrecedence
  | methodName
  | methodOpen
  | firstSpec
  | spec
  | afterSpec
  | callName
  | callOpen
  | firstArg
  | arg
  | afterArg
  | callEnd
deriving DecidableEq, Repr

namespace Point

def open? : Terminal → Option Point
  | .typeWord => some .typeName
  | .genericWord => some .genericName
  | .methodWord => some .methodName
  | _ => none

def param? : Terminal → Option Point
  | .name => some .afterPlain
  | .star => some .afterStar
  | .doubleStar => some .otherKeysName
  | _ => none

def paramEnd? : Terminal → Option Point
  | .comma => some .param
  | .closeParen => some .afterGeneric
  | _ => none

def spec? (terminal : Terminal) : Option Point :=
  if terminal = .underscore || terminal = .name || terminal.isLiteral then
    some .afterSpec
  else
    none

def arg? (terminal : Terminal) : Option Point :=
  if terminal = .questionMark || terminal = .name || terminal.isLiteral then
    some .afterArg
  else
    none

def only (wanted : Terminal) (next : Point) (terminal : Terminal) : Option Point :=
  if terminal = wanted then some next else none

def step : Point → Terminal → Option Point
  | .declaration, terminal => open? terminal
  | .typeName, terminal => only .name .afterTypeName terminal
  | .afterTypeName, terminal => (only .colon .supertype terminal).or (open? terminal)
  | .supertype, terminal => only .name .afterSupertype terminal
  | .afterSupertype, terminal => (only .comma .supertype terminal).or (open? terminal)
  | .genericName, terminal => only .name .genericOpen terminal
  | .genericOpen, terminal => only .openParen .firstParam terminal
  | .firstParam, terminal => (only .closeParen .afterGeneric terminal).or (param? terminal)
  | .param, terminal => param? terminal
  | .afterPlain, terminal => (only .equal .fallback terminal).or (paramEnd? terminal)
  | .fallback, terminal => if terminal.isLiteral then some .afterParam else none
  | .afterParam, terminal => paramEnd? terminal
  | .afterStar, terminal => (only .name .afterParam terminal).or (paramEnd? terminal)
  | .otherKeysName, terminal => only .name .afterParam terminal
  | .afterGeneric, terminal =>
      (only .precedenceWord .precedenceOpen terminal).or (open? terminal)
  | .precedenceOpen, terminal => only .openParen .precedenceName terminal
  | .precedenceName, terminal => only .name .afterPrecedence terminal
  | .afterPrecedence, terminal =>
      (only .comma .precedenceName terminal).or (only .closeParen .declaration terminal)
  | .methodName, terminal => only .name .methodOpen terminal
  | .methodOpen, terminal => only .openParen .firstSpec terminal
  | .firstSpec, terminal => (only .closeParen .declaration terminal).or (spec? terminal)
  | .spec, terminal => spec? terminal
  | .afterSpec, terminal =>
      (only .comma .spec terminal).or (only .closeParen .declaration terminal)
  | .callName, terminal => only .name .callOpen terminal
  | .callOpen, terminal => only .openParen .firstArg terminal
  | .firstArg, terminal => (only .closeParen .callEnd terminal).or (arg? terminal)
  | .arg, terminal => arg? terminal
  | .afterArg, terminal => (only .comma .arg terminal).or (only .closeParen .callEnd terminal)
  | .callEnd, _ => none

def mayEnd : Point → Bool
  | .declaration => true
  | .afterTypeName => true
  | .afterSupertype => true
  | .afterGeneric => true
  | .callEnd => true
  | _ => false

/-- The terminals that may come next, in the order of their labels. -/
def expected (point : Point) : List Terminal :=
  Terminal.all.filter fun terminal => (point.step terminal).isSome

/-- The point behind a list of tokens, or the first token that may not stand
where it does, with the point before it. -/
def run (point : Point) : List Token → Except (Token × Point) Point
  | [] => .ok point
  | token :: rest =>
      match point.step token.terminal with
      | none => .error (token, point)
      | some next => run next rest

end Point

end StaticDispatch.Declaration
