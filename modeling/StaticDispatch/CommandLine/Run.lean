import StaticDispatch.CommandLine.Files
import StaticDispatch.CommandLine.Help
import StaticDispatch.CommandLine.Options
import StaticDispatch.CommandLine.Report
import StaticDispatch.Declaration.CallSite
import StaticDispatch.Declaration.World
import StaticDispatch.Text.Lines
import StaticDispatch.Text.Utf8

/-!
Contract: the command line as a function of its words and the files it names.

The configuration is read first, then the declarations, and then each call site
is resolved in turn. The first fault ends the run; what was printed before stays
printed.

Owns: outputs, the configuration that the options ask for, and the run.
Does not own: reading files and printing.
-/

namespace StaticDispatch.CommandLine

structure Output where
  exitCode : Nat
  stdout : String
  stderr : String
deriving DecidableEq, Repr

inductive Crash where
  | undecodable (fault : Text.Utf8.Fault)
  | tooManyDigits (fault : Number.TooManyDigits)
  | tooDeep (container : Json.Container)
  /-- A path holds a null character. -/
  | nullInPath
  /-- The value of an option was dropped, and is asked for. -/
  | noValue (name : OptionName)
  | literal (fault : Declaration.LiteralFault)
  | types (fault : TypeTable.Fault)
  | resolution (fault : Resolution.Fault)
  | wrapper (fault : Wrapper.Fault)

/-- What is said of an option whose dropped value is asked for. -/
def noValueMessage : OptionName → String
  | .config => "'list' object has no attribute 'read_text'"
  | .call => "'NoneType' object has no attribute 'char_pos'"
  | _ => "unhashable type: 'list'"

abbrev Reader := String → Except FileFault (List UInt8)

def textOf (lines : List String) : String :=
  String.join (lines.map (· ++ "\n"))

def Stop.output : Stop → Output
  | .help => { exitCode := 0, stdout := textOf helpLines, stderr := "" }
  | .misuse fault =>
      let line := s!"{programName}: error: {fault.message}"
      { exitCode := 2, stdout := "", stderr := textOf (usageLines ++ [line]) }

/-- The configuration that the options ask for, over the one that was read. -/
def Options.effectiveConfig (options : Options) (loaded : Option Config) : Config :=
  let base := loaded.getD { enableAll := options.enable.isEmpty }
  let enabled := options.enable.foldl (fun config name => config.setEnabled name true) base
  let widened := { enabled with enableAll := enabled.enableAll || options.enableAll }
  let disabled := options.disable.foldl (fun config name => config.setEnabled name false) widened
  { disabled with abstainOnUnordered := disabled.abstainOnUnordered && !options.allowUnordered }

/-- The output of a run that ends with diagnostics, behind what was printed. -/
def failed (options : Options) (printed phase file : String) (diagnostics : List Diagnostic) :
    Output :=
  if options.json then
    let items := diagnostics.map fun diagnostic => (completed phase file diagnostic).toJson
    let payload := Json.object [("exit_code", .int 1), ("diagnostics", .array items)]
    { exitCode := 1, stdout := printed ++ textOf [payload.render], stderr := "" }
  else
    { exitCode := 1, stdout := printed, stderr := textOf (diagnostics.map Diagnostic.render) }

def readText (reader : Reader) (path : String) : Except Crash (Except String (List Char)) :=
  if path.toList.contains '\x00' then
    .error .nullInPath
  else
    match reader path with
    | .error fault => .ok (.error (fault.message path))
    | .ok bytes =>
        match Text.Utf8.decode bytes with
        | .error fault => .error (.undecodable fault)
        | .ok characters => .ok (.ok (Text.normalizeLineEnds characters))

def readConfig (reader : Reader) (path : String) : Except Crash (Except String Config) := do
  match ← readText reader path with
  | .error message => return .error message
  | .ok text =>
      match Config.ofText path text with
      | .ok config => return .ok config
      | .error (.invalid fault) => return .error fault.message
      | .error (.tooManyDigits fault) => throw (.tooManyDigits fault)
      | .error (.tooDeep container) => throw (.tooDeep container)

def readWorld (reader : Reader) (path : String) :
    Except Crash (Except String Declaration.World) := do
  match ← readText reader path with
  | .error message => return .error message
  | .ok text =>
      match Declaration.World.load (some path) (String.ofList text) with
      | .ok world => return .ok world
      | .error fault => throw (.literal fault)

/-- The wrapper of an inlined call site, if its source is asked for. -/
def wrapperFor (options : Options) (table : TypeTable) (resolution : Resolution) :
    Except Crash (Option Wrapper) :=
  match resolution, options.emitSource with
  | .inlined generic cascade _, true =>
      match Wrapper.ofCascade generic cascade table true none with
      | .ok wrapper => .ok (some wrapper)
      | .error fault => .error (.wrapper fault)
  | _, _ => .ok none

def resolveCall (options : Options) (inliner : Inliner) (call : String) :
    Except Crash (Except Diagnostic (Report × Inliner)) :=
  match CallSite.read inliner.table call with
  | (.error fault, _) =>
      match fault, fault.report? with
      | _, some (message, position) =>
          let span : Span := { line := some position.line, column := some position.column }
          .ok (.error { message, phase := some "call", span })
      | .literal fault, none => .error (.literal fault)
      | .types fault, none => .error (.types fault)
      | _, none => .ok (.error { message := "", phase := some "call" })
  | (.ok site, table) => do
      let inliner := { inliner with table }
      match inliner.resolve site.name site.types options.checks with
      | .error fault => throw (.resolution fault)
      | .ok (resolution, inliner) =>
          let wrapper ← wrapperFor options table resolution
          let generic := inliner.registry.find? site.name
          return .ok ({ call, generic, resolution, wrapper }, inliner)

structure Progress where
  inliner : Inliner
  printed : String := ""
  results : List Json := []

/-- Adds the report of a call site in the form that is asked for. -/
def Progress.add (progress : Progress) (options : Options) (inliner : Inliner)
    (report : Report) : Except TypeTable.Fault Progress := do
  if options.json then
    let result ← report.toJson inliner.table
    return { progress with inliner, results := progress.results ++ [result] }
  else
    let lines ← report.lines inliner.table
    return { progress with inliner, printed := progress.printed ++ textOf lines }

def resolveCalls (options : Options) (path : String) :
    Progress → List String → Except Crash (Except Output Progress)
  | progress, [] => .ok (.ok progress)
  | progress, call :: rest => do
      match ← resolveCall options progress.inliner call with
      | .error diagnostic =>
          return .error (failed options progress.printed "call" path [diagnostic])
      | .ok (report, inliner) =>
          match progress.add options inliner report with
          | .error fault => throw (.types fault)
          | .ok next => resolveCalls options path next rest

def Progress.finish (progress : Progress) (options : Options) (path : String)
    (diagnostics : List Diagnostic) : Output :=
  let items := diagnostics.map fun diagnostic => (completed "declare" path diagnostic).toJson
  let payload := Json.object [
    ("exit_code", .int 0),
    ("diagnostics", .array items),
    ("inlined", .int progress.inliner.inlined),
    ("results", .array progress.results)]
  let summary := if options.json then textOf [payload.render] else ""
  { exitCode := 0, stdout := progress.printed ++ summary, stderr := "" }

def Options.demand (options : Options) (name : OptionName) : Except Crash Unit :=
  if options.dropped.contains name then .error (.noValue name) else .ok ()

/-- Loads the declarations and resolves the call sites under a configuration. -/
def runWith (reader : Reader) (options : Options) (config : Config) : Except Crash Output := do
  options.demand .enable
  options.demand .disable
  let path := plainPath options.source
  match ← readWorld reader path with
  | .error message =>
      let diagnostic : Diagnostic :=
        { message, phase := some "parser", span := { file := some path } }
      return failed options "" "parser" path [diagnostic]
  | .ok world =>
      if !world.isOk then
        return failed options "" "declare" path world.diagnostics
      let inliner : Inliner := { registry := world.registry, table := world.table, config }
      match ← resolveCalls options path { inliner } options.calls with
      | .error output => return output
      | .ok progress =>
          options.demand .call
          return progress.finish options path world.diagnostics

def runOptions (reader : Reader) (options : Options) : Except Crash Output := do
  options.demand .config
  match options.config with
  | none => runWith reader options (options.effectiveConfig none)
  | some given =>
      let path := plainPath given
      match ← readConfig reader path with
      | .ok config => runWith reader options (options.effectiveConfig (some config))
      | .error message =>
          let diagnostic : Diagnostic :=
            { message, phase := some "config", span := { file := some path } }
          return failed options "" "config" path [diagnostic]

def run (reader : Reader) (words : List String) : Except Crash Output :=
  match Options.read words with
  | .error stop => .ok stop.output
  | .ok options => runOptions reader options

end StaticDispatch.CommandLine
