import StaticDispatch.CommandLine.Options

/-!
Contract: the options of a command line hold what its words use.

Words are used from left to right, and each use of an option changes the options. A name
to enable or to disable, a switch or the presence of a path is there at the end exactly
if some use among the words brought it about, wherever it stands and however it is
spelled.

Owns: uses of options in words, facts that uses bring about, and the options that are
read from a command line.
Does not own: what the options are for.
-/

namespace StaticDispatch.CommandLine

/-! ## Uses of options -/

/-- Words begin with the use of an option. One without a value stands alone. A value
stands behind the equals sign in the word of its option, where two dashes are none, or
is the next word. -/
inductive Begins : List Word → OptionName → Option String → Prop
  | alone {name : OptionName} {rest : List Word} (noValue : name.takesValue = false) :
      Begins (.option name none :: rest) name none
  | joined {name : OptionName} {value : String} {rest : List Word}
      (hasValue : name.takesValue = true) (kept : value ≠ "--") :
      Begins (.option name (some value) :: rest) name (some value)
  | apart {name : OptionName} {value : String} {rest : List Word}
      (hasValue : name.takesValue = true) :
      Begins (.option name none :: .plain value :: rest) name (some value)

def Uses (words : List Word) (name : OptionName) (value : Option String) : Prop :=
  ∃ rest, rest <:+ words ∧ Begins rest name value

/-- Some use of an option among the words has a property. -/
def SomeUse (property : OptionName → Option String → Prop) (words : List Word) : Prop :=
  ∃ name value, Uses words name value ∧ property name value

section SomeUse

variable {property : OptionName → Option String → Prop} {rest : List Word}

private theorem not_someUse_nil : ¬ SomeUse property [] := by
  rintro ⟨name, value, ⟨rest, isLast, begins⟩, -⟩
  rw [List.suffix_nil] at isLast
  subst isLast
  cases begins

private theorem someUse_cons {word : Word} :
    SomeUse property (word :: rest) ↔
      (∃ name value, Begins (word :: rest) name value ∧ property name value) ∨
        SomeUse property rest := by
  simp only [SomeUse, Uses, List.suffix_cons_iff]
  constructor
  · rintro ⟨name, value, ⟨_, rfl | isLater, begins⟩, holds⟩
    · exact .inl ⟨name, value, begins, holds⟩
    · exact .inr ⟨name, value, ⟨_, isLater, begins⟩, holds⟩
  · rintro (⟨name, value, begins, holds⟩ | ⟨name, value, ⟨later, isLater, begins⟩, holds⟩)
    · exact ⟨name, value, ⟨_, .inl rfl, begins⟩, holds⟩
    · exact ⟨name, value, ⟨later, .inr isLater, begins⟩, holds⟩

private theorem someUse_cons_of_no_option {word : Word}
    (noOption : ∀ name value, word ≠ .option name value) :
    SomeUse property (word :: rest) ↔ SomeUse property rest := by
  rw [someUse_cons]
  refine or_iff_right ?_
  rintro ⟨name, value, begins, -⟩
  cases begins <;> exact noOption _ _ rfl

@[simp] theorem someUse_plain {text : String} :
    SomeUse property (.plain text :: rest) ↔ SomeUse property rest :=
  someUse_cons_of_no_option nofun

@[simp] theorem someUse_divider : SomeUse property (.divider :: rest) ↔ SomeUse property rest :=
  someUse_cons_of_no_option nofun

@[simp] theorem someUse_unknown {text : String} :
    SomeUse property (.unknown text :: rest) ↔ SomeUse property rest :=
  someUse_cons_of_no_option nofun

private theorem someUse_alone {name : OptionName} (noValue : name.takesValue = false) :
    SomeUse property (.option name none :: rest) ↔ property name none ∨ SomeUse property rest := by
  rw [someUse_cons]
  refine or_congr_left ⟨?_, fun holds => ⟨name, none, .alone noValue, holds⟩⟩
  rintro ⟨used, value, begins, holds⟩
  cases begins with
  | alone _ => exact holds
  | apart hasValue => simp [noValue] at hasValue

private theorem someUse_joined {name : OptionName} {value : String}
    (hasValue : name.takesValue = true) :
    SomeUse property (.option name (some value) :: rest) ↔
      value ≠ "--" ∧ property name (some value) ∨ SomeUse property rest := by
  rw [someUse_cons]
  refine or_congr_left ⟨?_, fun ⟨kept, holds⟩ => ⟨name, value, .joined hasValue kept, holds⟩⟩
  rintro ⟨used, given, begins, holds⟩
  cases begins with
  | joined _ kept => exact ⟨kept, holds⟩

private theorem someUse_apart {name : OptionName} {value : String}
    (hasValue : name.takesValue = true) :
    SomeUse property (.option name none :: .plain value :: rest) ↔
      property name (some value) ∨ SomeUse property rest := by
  rw [someUse_cons, someUse_plain]
  refine or_congr_left ⟨?_, fun holds => ⟨name, value, .apart hasValue, holds⟩⟩
  rintro ⟨used, given, begins, holds⟩
  cases begins with
  | alone noValue => simp [noValue] at hasValue
  | apart _ => exact holds

end SomeUse

/-! ## What uses bring about -/

/-- A fact about options that a use brings about exactly if it has a property, and that
no use takes away. -/
structure BroughtBy (property : OptionName → Option String → Prop) (fact : Options → Prop) :
    Prop where
  switch : ∀ options name, name.takesValue = false →
    (fact (options.switch name) ↔ fact options ∨ property name none)
  assign : ∀ options value name, name.takesValue = true →
    (fact (options.assign value name) ↔ fact options ∨ property name (some value))
  drop : ∀ options dropped, fact { options with dropped } ↔ fact options

namespace BroughtBy

variable {property : OptionName → Option String → Prop} {fact : Options → Prop}

theorem give (brought : BroughtBy property fact) (options : Options) (value : String)
    {name : OptionName} (hasValue : name.takesValue = true) :
    fact (options.give value name) ↔
      fact options ∨ value ≠ "--" ∧ property name (some value) := by
  unfold Options.give
  by_cases isDropped : value = "--"
  · simp [isDropped, brought.drop]
  · simp [isDropped, brought.assign options value name hasValue]

/-- **At the end a fact holds exactly if it held before or some use brought it about.** -/
theorem use_iff (brought : BroughtBy property fact) {usage after : Usage} {words : List Word}
    (used : use usage words = .ok after) :
    fact after.options ↔ fact usage.options ∨ SomeUse property words := by
  -- The recursion ends with a fault where an option stops the reading or misses its value.
  fun_induction use usage words with
  | case1 usage =>
      cases used
      exact (or_iff_left not_someUse_nil).symm
  | case2 usage text rest inductionHypothesis => simpa using inductionHypothesis used
  | case3 usage text rest => cases used
  | case4 usage name value rest hasValue inductionHypothesis =>
      rw [inductionHypothesis used, brought.give _ _ hasValue, someUse_joined hasValue, or_assoc]
  | case5 usage name value rest noValue => cases used
  | case6 usage rest => cases used
  | case7 usage name notHelp hasValue value rest inductionHypothesis =>
      rw [inductionHypothesis used, brought.assign _ _ _ hasValue, someUse_apart hasValue, or_assoc]
  | case8 usage name rest notHelp hasValue noPlain => cases used
  | case9 usage name rest notHelp noValue inductionHypothesis =>
      rw [Bool.not_eq_true] at noValue
      rw [inductionHypothesis used, brought.switch _ _ noValue, someUse_alone noValue, or_assoc]
  | case10 usage text rest noSource inductionHypothesis => simpa using inductionHypothesis used
  | case11 usage text rest source inductionHypothesis => simpa using inductionHypothesis used
  | case12 usage text rest noDivider noSource inductionHypothesis =>
      simpa using inductionHypothesis used
  | case13 usage text rest noDivider source inductionHypothesis =>
      simpa using inductionHypothesis used
  | case14 usage text rest noSource inductionHypothesis => simpa using inductionHypothesis used
  | case15 usage text rest source inductionHypothesis => simpa using inductionHypothesis used
  | case16 usage rest noPlain inductionHypothesis => simpa using inductionHypothesis used

end BroughtBy

/-! ## Facts about options -/

def Options.collected (options : Options) : OptionName → List String
  | .enable => options.enable
  | .disable => options.disable
  | _ => []

/-- A call site is kept or not, and nothing else changes. -/
theorem Options.assign_call (options : Options) (value : String) :
    ∃ calls, options.assign value .call = { options with calls } := by
  unfold Options.assign
  by_cases isDropped : options.dropped.contains .call = true
  · exact ⟨options.calls, if_pos isDropped⟩
  · exact ⟨options.calls ++ [value], if_neg isDropped⟩

private theorem collected_broughtBy {option : OptionName}
    (collects : option = .enable ∨ option = .disable) (name : String) :
    BroughtBy (fun used value => used = option ∧ value = some name)
      (name ∈ ·.collected option) where
  switch options used noValue := by
    rcases collects with rfl | rfl <;> cases used <;> simp [Options.collected, Options.switch]
  assign options value used hasValue := by
    obtain ⟨calls, onlyCalls⟩ := options.assign_call value
    rcases collects with rfl | rfl
    all_goals
      cases used with
      | call => simp [Options.collected, onlyCalls]
      | _ => simp [Options.collected, Options.assign, eq_comm]
  drop options dropped := by rcases collects with rfl | rfl <;> rfl

private theorem enableAll_broughtBy :
    BroughtBy (fun used value => used = .enableAll ∧ value = none) (·.enableAll = true) where
  switch options used noValue := by cases used <;> simp [Options.switch]
  assign options value used hasValue := by
    obtain ⟨calls, onlyCalls⟩ := options.assign_call value
    cases used with
    | call => simp [onlyCalls]
    | _ => simp [Options.assign]
  drop options dropped := Iff.rfl

private theorem config_broughtBy :
    BroughtBy (fun used value => used = .config ∧ value.isSome = true)
      (·.config.isSome = true) where
  switch options used noValue := by cases used <;> simp [Options.switch]
  assign options value used hasValue := by
    obtain ⟨calls, onlyCalls⟩ := options.assign_call value
    cases used with
    | call => simp [onlyCalls]
    | _ => simp [Options.assign]
  drop options dropped := Iff.rfl

/-- Options hold the names to enable and to disable that the words use, the switch for all
names if they use it, and a path if they use one. -/
structure Reflects (words : List Word) (options : Options) : Prop where
  enable : ∀ name, name ∈ options.enable ↔ Uses words .enable (some name)
  disable : ∀ name, name ∈ options.disable ↔ Uses words .disable (some name)
  enableAll : options.enableAll = true ↔ Uses words .enableAll none
  config : options.config.isSome = true ↔ ∃ path, Uses words .config (some path)

private theorem someUse_of_one {words : List Word} {name : OptionName} {value : Option String} :
    SomeUse (fun used given => used = name ∧ given = value) words ↔ Uses words name value := by
  simp [SomeUse]

private theorem someUse_with_value {words : List Word} {name : OptionName} :
    SomeUse (fun used given => used = name ∧ given.isSome = true) words ↔
      ∃ value, Uses words name (some value) := by
  constructor
  · rintro ⟨_, given, uses, rfl, isSome⟩
    obtain ⟨value, rfl⟩ := Option.isSome_iff_exists.mp isSome
    exact ⟨value, uses⟩
  · rintro ⟨value, uses⟩
    exact ⟨name, value, uses, rfl, rfl⟩

private theorem reflects_of_use {words : List Word} {usage : Usage}
    (used : use {} words = .ok usage) :
    Reflects words usage.options where
  enable name := by
    have collected := (collected_broughtBy (.inl rfl) name).use_iff used
    simpa [Options.collected, someUse_of_one] using collected
  disable name := by
    have collected := (collected_broughtBy (.inr rfl) name).use_iff used
    simpa [Options.collected, someUse_of_one] using collected
  enableAll := by simpa [someUse_of_one] using enableAll_broughtBy.use_iff used
  config := by simpa [someUse_with_value] using config_broughtBy.use_iff used

/-- Words that are read were all classified and used, and one of them is the source. -/
private theorem use_of_read {words : List String} {options : Options}
    (read : Options.read words = .ok options) :
    ∃ classified usage source, classifyAll words = .ok classified ∧
      use {} classified = .ok usage ∧ options = { usage.options with source } := by
  unfold Options.read at read
  cases classes : classifyAll words with
  | error fault => simp [classes] at read
  | ok classified =>
      cases used : use {} classified with
      | error stop => simp [classes, used] at read
      | ok usage =>
          cases given : usage.source with
          | none => simp [classes, used, given] at read
          | some source =>
              cases extras : usage.extras with
              | cons extra more => simp [classes, used, given, extras] at read
              | nil =>
                  simp only [classes, used, given, extras, Except.ok.injEq] at read
                  exact ⟨classified, usage, source, rfl, used, read.symm⟩

/-- **The options that are read hold what the words use.** -/
theorem reflects_of_read {words : List String} {options : Options}
    (read : Options.read words = .ok options) :
    ∃ classified, classifyAll words = .ok classified ∧ Reflects classified options := by
  obtain ⟨classified, usage, source, classes, used, rfl⟩ := use_of_read read
  have reflects := reflects_of_use used
  exact ⟨classified, classes, reflects.enable, reflects.disable, reflects.enableAll,
    reflects.config⟩

end StaticDispatch.CommandLine
