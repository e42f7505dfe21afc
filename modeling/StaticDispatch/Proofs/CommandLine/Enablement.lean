import StaticDispatch.CommandLine.Run
import StaticDispatch.Proofs.CommandLine.Options
import StaticDispatch.Proofs.Config.Enablement
import StaticDispatch.Proofs.Traversal

/-!
Contract: which names a command line enables.

The options change the configuration of a file, or the one that stands in for it. A name
to disable is disabled whatever else is said of it, and a name to enable is enabled
even if the file disables it. On every other name the file decides, and the switch for
all names enables those that the file does not disable. With neither a file nor a name to
enable, all names are enabled that no option disables.

Owns: the effective configuration as a sequence of changes, and the configuration of a run.
Does not own: what a run does with its configuration.
-/

namespace StaticDispatch.CommandLine

open Config (lastFlag?)

/-! ## The effective configuration -/

namespace Options

/-- The changes that options ask for. Disabling comes last. -/
def changes (options : Options) : List (String × Bool) :=
  options.enable.map (·, true) ++ options.disable.map (·, false)

def startConfig (options : Options) (loaded : Option Config) : Config :=
  let base := loaded.getD { enableAll := options.enable.isEmpty }
  { base with enableAll := base.enableAll || options.enableAll }

/-- The switch that enables all stands between the two kinds of changes, and may as well
stand before them. -/
private theorem effectiveConfig_eq_setAll (options : Options) (loaded : Option Config) :
    options.effectiveConfig loaded =
      let changed := (options.startConfig loaded).setAll options.changes
      { changed with
        abstainOnUnordered := changed.abstainOnUnordered && !options.allowUnordered } := by
  simp only [effectiveConfig, startConfig, changes, ← Config.setAll_map,
    Config.setAll_append, Config.enableAll_setAll, Config.setAll_widened]

private theorem lastFlag?_changes (options : Options) (name : String) :
    lastFlag? options.changes name =
      if name ∈ options.disable then some false
      else if name ∈ options.enable then some true
      else none := by
  rw [changes, Config.lastFlag?_append, Config.lastFlag?_map, Config.lastFlag?_map]
  by_cases isDisabled : name ∈ options.disable <;> simp [isDisabled]

private theorem isEnabled_effectiveConfig (options : Options) (loaded : Option Config)
    (name : String) :
    (options.effectiveConfig loaded).isEnabled name =
      (lastFlag? options.changes name).getD ((options.startConfig loaded).isEnabled name) := by
  rw [effectiveConfig_eq_setAll, ← Config.isEnabled_setAll]
  rfl

private theorem isEnabled_startConfig_iff (options : Options) (loaded : Option Config)
    (name : String) :
    (options.startConfig loaded).isEnabled name = true ↔
      (∀ file ∈ loaded, name ∉ file.disabled) ∧
        (options.enableAll = true ∨
          (∃ file ∈ loaded, file.enableAll = true ∨ name ∈ file.enabled) ∨
          loaded = none ∧ options.enable = []) := by
  rw [Config.isEnabled_iff]
  cases loaded with
  | none => simp [startConfig, or_comm]
  | some file => simp [startConfig, or_assoc, or_left_comm]

/-- **Options to disable win, then options to enable, then the file.** -/
theorem isEnabled_effectiveConfig_iff (options : Options) (loaded : Option Config)
    (name : String) :
    (options.effectiveConfig loaded).isEnabled name = true ↔
      name ∉ options.disable ∧
        (name ∈ options.enable ∨ ∀ file ∈ loaded, name ∉ file.disabled) ∧
        (options.enableAll = true ∨
          (∃ file ∈ loaded, file.enableAll = true ∨ name ∈ file.enabled) ∨
          name ∈ options.enable ∨ loaded = none ∧ options.enable = []) := by
  rw [isEnabled_effectiveConfig, lastFlag?_changes]
  by_cases toDisable : name ∈ options.disable
  · simp [toDisable]
  · by_cases toEnable : name ∈ options.enable
    · simp [toDisable, toEnable]
    · simp [toDisable, toEnable, isEnabled_startConfig_iff]

end Options

/-! ## The configuration of a run -/

/-- What the options name as their file is read as a configuration, if they name one. -/
structure Loads (reader : Reader) (options : Options) (loaded : Option Config) : Prop where
  kept : options.dropped.contains .config = false
  read : options.config.map (fun given => readConfig reader (plainPath given)) =
    loaded.map fun file => .ok (.ok file)

private theorem runOptions_of_loads {reader : Reader} {options : Options} {loaded : Option Config}
    (loads : Loads reader options loaded) :
    runOptions reader options = runWith reader options (options.effectiveConfig loaded) := by
  have demanded : options.demand .config = .ok () := by
    rw [Options.demand, loads.kept]
    rfl
  have read := loads.read
  rw [runOptions, demanded, Traversal.ok_bind]
  cases named : options.config with
  | none =>
      rw [named, Option.map_none, eq_comm, Option.map_eq_none_iff] at read
      rw [read]
  | some given =>
      rw [named, Option.map_some, eq_comm, Option.map_eq_some_iff] at read
      obtain ⟨file, rfl, isRead⟩ := read
      simp only [← isRead, Traversal.ok_bind]

/-- **Which names a command line enables.** The configuration that the options make of a
loaded one enables a name exactly if no option disables it, an option enables it or the
file does not disable it, and something enables it: the switch for all names, the file, an
option, or that there is neither a file nor an option with a name. A run resolves its
call sites under this configuration, for the names that its words give. After any changes
the last one of a name decides about it, and a name without one is as it was. -/
theorem command_line_enablement :
    (∀ (options : Options) (loaded : Option Config) (name : String),
      (options.effectiveConfig loaded).isEnabled name = true ↔
        name ∉ options.disable ∧
          (name ∈ options.enable ∨ ∀ file ∈ loaded, name ∉ file.disabled) ∧
          (options.enableAll = true ∨
            (∃ file ∈ loaded, file.enableAll = true ∨ name ∈ file.enabled) ∨
            name ∈ options.enable ∨ loaded = none ∧ options.enable = [])) ∧
    (∀ (words : List String) (options : Options), Options.read words = .ok options →
      (∃ classified, classifyAll words = .ok classified ∧ Reflects classified options) ∧
        ∀ (reader : Reader) (loaded : Option Config), Loads reader options loaded →
          run reader words = runWith reader options (options.effectiveConfig loaded)) ∧
    (∀ (config : Config) (changes : List (String × Bool)) (name : String),
      (∀ before flag after, changes = before ++ (name, flag) :: after →
        (∀ change ∈ after, change.1 ≠ name) → (config.setAll changes).isEnabled name = flag) ∧
      ((∀ change ∈ changes, change.1 ≠ name) →
        (config.setAll changes).isEnabled name = config.isEnabled name)) := by
  refine ⟨Options.isEnabled_effectiveConfig_iff, ?_, ?_⟩
  · intro words options read
    refine ⟨reflects_of_read read, fun reader loaded loads => ?_⟩
    rw [run, read]
    exact runOptions_of_loads loads
  · intro config changes name
    rw [Config.isEnabled_setAll]
    constructor
    · rintro before flag after rfl unnamed
      rw [Config.lastFlag?_of_last unnamed, Option.getD_some]
    · intro unnamed
      rw [Config.lastFlag?_eq_none unnamed, Option.getD_none]

namespace Overriding

/-- Names in both places, and one name to enable and to disable. -/
def words : List String :=
  ["shapes.gf", "--enable", "draw", "--config=inline.json", "--disable", "area",
    "--enable=erase", "--disable=erase"]

def options : Options :=
  { source := "shapes.gf", config := some "inline.json", enable := ["draw", "erase"],
    disable := ["area", "erase"] }

def text : List Char :=
  "\x7b\"format\": \"gfinline-config\", \"version\": 0, ".toList ++
    "\"enabled\": [\"area\", \"paint\"], \"disabled\": [\"draw\"]\x7d".toList

def file : Config := { enabled := ["area", "paint"], disabled := ["draw"] }

def bytes : List UInt8 :=
  text.map fun character => character.toNat.toUInt8

def reader : Reader := fun path =>
  if path = "inline.json" then .ok bytes else .error .notFound

def content : Json :=
  .object [("format", .string "gfinline-config"), ("version", .int 0),
    ("enabled", .array [.string "area", .string "paint"]), ("disabled", .array [.string "draw"])]

private theorem read_text : Json.read text = .ok content := by cbv

private theorem loads_file : Loads reader options (some file) := by
  have decoded : Text.Utf8.decode bytes = .ok text := by decide +kernel
  have lines : Text.normalizeLineEnds text = text := by rfl
  have accepted : Config.ofText "inline.json" text = .ok file := by
    rw [Config.ofText, read_text]
    rfl
  have noNull : ("inline.json".toList.contains '\x00') = false := by rfl
  have given : reader "inline.json" = .ok bytes := if_pos rfl
  have read : readConfig reader "inline.json" = .ok (.ok file) := by
    rw [readConfig, readText, noNull, given]
    simp only [decoded, lines, accepted, Bool.false_eq_true, if_false, Traversal.ok_bind]
    rfl
  have path : plainPath "inline.json" = "inline.json" := by rfl
  refine ⟨by rfl, ?_⟩
  rw [options, Option.map_some, path, read, Option.map_some]

/-- The names to enable and to disable win over what the file has on them, and disabling
wins over enabling. -/
theorem words_override_file :
    Options.read words = .ok options ∧ Loads reader options (some file) ∧
      run reader words = runWith reader options (options.effectiveConfig (some file)) ∧
      (options.effectiveConfig (some file)).isEnabled "draw" = true ∧
      (options.effectiveConfig (some file)).isEnabled "paint" = true ∧
      ¬ (options.effectiveConfig (some file)).isEnabled "area" = true ∧
      ¬ (options.effectiveConfig (some file)).isEnabled "erase" = true ∧
      ¬ (options.effectiveConfig (some file)).isEnabled "trace" = true := by
  have read : Options.read words = .ok options := by decide +kernel
  obtain ⟨enables, runs, -⟩ := command_line_enablement
  refine ⟨read, loads_file, (runs words options read).2 reader _ loads_file, ?_⟩
  simp [enables, options, file]

end Overriding

end StaticDispatch.CommandLine
