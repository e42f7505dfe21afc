import StaticDispatch.Json.Reader

/-!
Contract: which generic functions may be inlined, and how careful to be.

Enablement is a value. Each resolution receives the configuration it honours,
and a change gives a new configuration.

Owns: the configuration, enablement, combination of two configurations, and
reading one from JSON.
Does not own: how a resolution uses the policies.
-/

namespace StaticDispatch

structure Config where
  enabled : List String := []
  disabled : List String := []
  /-- Enables every name that is not disabled. -/
  enableAll : Bool := false
  /-- Allows guarded cascades at call sites that do not say otherwise. -/
  checksRequired : Bool := true
  /-- Abstains when two overlapping candidates have no specificity order. -/
  abstainOnUnordered : Bool := true
deriving DecidableEq, Repr

namespace Config

/-- Being disabled wins over every way of being enabled. -/
def isEnabled (config : Config) (name : String) : Bool :=
  !config.disabled.contains name && (config.enableAll || config.enabled.contains name)

def including (name : String) (names : List String) : List String :=
  if names.contains name then names else names ++ [name]

def excluding (name : String) (names : List String) : List String :=
  names.filter (· != name)

def union (first second : List String) : List String :=
  second.foldl (fun names name => including name names) first

def distinct (names : List String) : List String :=
  union [] names

def setEnabled (config : Config) (name : String) (flag : Bool) : Config :=
  if flag then
    { config with
      enabled := including name config.enabled
      disabled := excluding name config.disabled }
  else
    { config with
      enabled := excluding name config.enabled
      disabled := including name config.disabled }

/-- Unites the names of two configurations; the policies are the first one's. -/
def merge (primary secondary : Config) : Config :=
  { primary with
    enabled := union primary.enabled secondary.enabled
    disabled := union primary.disabled secondary.disabled
    enableAll := primary.enableAll || secondary.enableAll }

inductive Fault where
  | notAnObject
  | unsupportedFormat
  | names (field : String)
  | boolean (field : String)
  | invalidText (path : String) (report : String)
deriving DecidableEq, Repr

def Fault.message : Fault → String
  | .notAnObject => "config must be a JSON object"
  | .unsupportedFormat => "unsupported config format/version"
  | .names field => s!"config field '{field}' must be a list of generic function names"
  | .boolean field => s!"config field '{field}' must be a boolean"
  | .invalidText path report => s!"{path}: invalid JSON: {report}"

def formatName : String := "gfinline-config"

/-- A list of names; a blank value stands for the empty list. -/
def namesField (json : Json) (field : String) : Except Fault (List String) :=
  match json.get? field with
  | none => .ok []
  | some value =>
      if value.isBlank then
        .ok []
      else
        match value.array?.bind (·.mapM Json.string?) with
        | some names => .ok (distinct names)
        | none => .error (.names field)

def booleanField (json : Json) (field : String) (absent : Bool) : Except Fault Bool :=
  match json.get? field with
  | none => .ok absent
  | some value =>
      match value.bool? with
      | some flag => .ok flag
      | none => .error (.boolean field)

def isSupported (json : Json) : Bool :=
  (json.get? "format").bind Json.string? == some formatName &&
    (json.get? "version").any Json.isZero

/-- The configuration of a JSON value. The first field at fault is reported. -/
def ofJson (json : Json) : Except Fault Config :=
  match json with
  | .object _ =>
      if isSupported json then do
        let enabled ← namesField json "enabled"
        let disabled ← namesField json "disabled"
        let enableAll ← booleanField json "enable_all" false
        let checksRequired ← booleanField json "checks_required" true
        let abstainOnUnordered ← booleanField json "abstain_on_unordered" true
        return { enabled, disabled, enableAll, checksRequired, abstainOnUnordered }
      else
        .error .unsupportedFormat
  | _ => .error .notAnObject

/-- A configuration text is at fault, or goes beyond what is read at all: an
integer is too long or a value is nested too deep. -/
inductive TextFault where
  | invalid (fault : Fault)
  | tooManyDigits (fault : Number.TooManyDigits)
  | tooDeep (container : Json.Container)
deriving DecidableEq, Repr

def ofText (path : String) (text : List Char) : Except TextFault Config :=
  match Json.read text with
  | .ok json => (ofJson json).mapError .invalid
  | .error (.tooManyDigits fault) => .error (.tooManyDigits fault)
  | .error (.tooDeep container) => .error (.tooDeep container)
  | .error fault => .error (.invalid (.invalidText path (fault.message text)))

/-- A set of names in the order of their characters. -/
def sorted (names : List String) : List String :=
  names.mergeSort fun first second => decide (first ≤ second)

end Config

end StaticDispatch
