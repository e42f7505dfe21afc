import StaticDispatch.Json.Basic

/-!
Contract: messages about declarations and call sites.

Owns: spans, diagnostics, their text and their JSON form.
Does not own: when a diagnostic is reported.
-/

namespace StaticDispatch

structure Span where
  file : Option String := none
  line : Option Int := none
  column : Option Int := none
deriving DecidableEq, Repr

/-- File, line and column, up to the first that is not known. An unnamed file is
the input. -/
def Span.label (span : Span) : String :=
  let file := (span.file.filter (!·.isEmpty)).getD "<input>"
  let place :=
    match span.line, span.column with
    | some line, some column => [toString line, toString column]
    | some line, none => [toString line]
    | none, _ => []
  String.intercalate ":" (file :: place)

structure Diagnostic where
  message : String
  code : Option String := none
  /-- The stage that reports: reading, declaring, inlining or configuring. -/
  phase : Option String := none
  severity : String := "error"
  span : Span := {}
  notes : List String := []
deriving DecidableEq, Repr

namespace Diagnostic

def isError (diagnostic : Diagnostic) : Bool :=
  diagnostic.severity = "error"

/-- The message behind its place and severity, and a line for each note. -/
def render (diagnostic : Diagnostic) : String :=
  let head := s!"{diagnostic.span.label}: {diagnostic.severity}: {diagnostic.message}"
  String.intercalate "\n" (head :: diagnostic.notes.map ("  note: " ++ ·))

/-- What is known as JSON; the rest is null. -/
def toJson (diagnostic : Diagnostic) : Json :=
  let text (known : Option String) : Json := (known.map Json.string).getD .null
  let number (known : Option Int) : Json := (known.map Json.int).getD .null
  .object [
    ("phase", text diagnostic.phase),
    ("code", text diagnostic.code),
    ("message", .string diagnostic.message),
    ("severity", .string diagnostic.severity),
    ("file", text diagnostic.span.file),
    ("line", number diagnostic.span.line),
    ("column", number diagnostic.span.column),
    ("notes", .array (diagnostic.notes.map Json.string))]

end Diagnostic

end StaticDispatch
