import StaticDispatch.Json.Printer
import StaticDispatch.Resolution
import StaticDispatch.Wrapper.Source

/-!
Contract: what is reported of a resolved call site.

Owns: the report of a call site as lines of text and as JSON, and the JSON of
diagnostics.
Does not own: where reports go.
-/

namespace StaticDispatch.CommandLine

structure Report where
  /-- The call site as it was given. -/
  call : String
  /-- The function that the call site names, if there is one. -/
  generic : Option GenericFunction
  resolution : Resolution
  /-- The wrapper, if its source was asked for. -/
  wrapper : Option Wrapper

namespace Report

def candidates (report : Report) : List Candidate :=
  match report.resolution with
  | .inlined _ _ candidates => candidates
  | .abstained _ candidates => candidates

def labels (report : Report) (table : TypeTable) (generic : GenericFunction) :
    Except TypeTable.Fault (List (String × Bool)) :=
  report.candidates.mapM fun candidate =>
    return (← candidate.method.label (.named table) generic.name, candidate.isDefinite)

def candidateLines (report : Report) (table : TypeTable) :
    Except TypeTable.Fault (List String) := do
  match report.generic with
  | none => return []
  | some generic =>
      match ← report.labels table generic with
      | [] => return []
      | labels =>
          let line (label : String) (definite : Bool) : String :=
            "    " ++ label ++ (if definite then "  definite" else "  ambiguous")
          return "  candidates:" :: labels.map fun (label, definite) => line label definite

/-- A line of a description with its tabs as four blanks. -/
def spaced (line : String) : String :=
  String.ofList (line.toList.flatMap fun character =>
    if character = '\t' then [' ', ' ', ' ', ' '] else [character])

def sourceLines (report : Report) : List String :=
  match report.wrapper with
  | none => []
  | some wrapper => "  source:" :: wrapper.sourceLines.map ("    " ++ ·)

def outcomeLines (report : Report) (table : TypeTable) :
    Except TypeTable.Fault (List String) :=
  match report.resolution with
  | .inlined generic cascade _ => do
      let mode := if cascade.isUnconditional then "unconditional" else "guarded"
      let described ← cascade.describe (.named table) generic
      return s!"  inline ({mode}):" :: described.map (fun line => "    " ++ spaced line) ++
        report.sourceLines
  | .abstained abstention _ =>
      return [s!"  abstain [{abstention.code}]: {abstention.reason}"]

def lines (report : Report) (table : TypeTable) : Except TypeTable.Fault (List String) := do
  let candidates ← report.candidateLines table
  let outcome ← report.outcomeLines table
  return s!"call {report.call}:" :: candidates ++ outcome

def candidateMembers (report : Report) (table : TypeTable) :
    Except TypeTable.Fault (List (String × Json)) := do
  match report.generic with
  | none => return []
  | some generic =>
      let labels ← report.labels table generic
      let items := labels.map fun (label, definite) =>
        Json.object [("method", .string label), ("definite", .bool definite)]
      return [("candidates", .array items)]

def outcomeMembers (report : Report) (table : TypeTable) :
    Except TypeTable.Fault (List (String × Json)) :=
  match report.resolution with
  | .inlined generic cascade _ => do
      let described ← cascade.describe (.named table) generic
      let source := report.wrapper.toList.map fun wrapper => ("source", Json.string wrapper.source)
      return [
        ("status", .string "inline"),
        ("unconditional", .bool cascade.isUnconditional),
        ("cascade", .array (described.map Json.string))] ++ source
  | .abstained abstention _ =>
      return [
        ("status", .string "abstain"),
        ("code", .string abstention.code),
        ("reason", .string abstention.reason)]

def toJson (report : Report) (table : TypeTable) : Except TypeTable.Fault Json := do
  let candidates ← report.candidateMembers table
  let outcome ← report.outcomeMembers table
  return .object (("call", .string report.call) :: candidates ++ outcome)

end Report

/-- A diagnostic whose phase and file are known: the given ones stand in. -/
def completed (phase file : String) (diagnostic : Diagnostic) : Diagnostic :=
  { diagnostic with
    phase := some ((diagnostic.phase.filter (!·.isEmpty)).getD phase)
    span := { diagnostic.span with
      file := some ((diagnostic.span.file.filter (!·.isEmpty)).getD file) } }

end StaticDispatch.CommandLine
