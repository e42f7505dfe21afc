import StaticDispatch.Text.DecimalDigit
import StaticDispatch.Text.Quoted

/-!
Contract: the words of a command line as options.

All words are classified before any is used. A word that starts with a dash is an
option, which may be shortened as long as it stays unique, unless it looks like a
negative number or has a blank in it. Two dashes end the options. The words are
then used from left to right.

Owns: options, their spellings, classifying words and using them.
Does not own: what the options are for.
-/

namespace StaticDispatch.CommandLine

inductive OptionName where
  | help
  | call
  | noChecks
  | checks
  | config
  | enable
  | enableAll
  | disable
  | allowUnordered
  | emitSource
  | json
deriving DecidableEq, Repr

namespace OptionName

def spellings : List (String × OptionName) := [
  ("-h", .help), ("--help", .help), ("--call", .call), ("--no-checks", .noChecks),
  ("--checks", .checks), ("--config", .config), ("--enable", .enable),
  ("--enable-all", .enableAll), ("--disable", .disable), ("--allow-unordered", .allowUnordered),
  ("--emit-source", .emitSource), ("--json", .json)]

def title (name : OptionName) : String :=
  String.intercalate "/" ((spellings.filter (·.2 = name)).map (·.1))

def takesValue : OptionName → Bool
  | .call => true
  | .config => true
  | .enable => true
  | .disable => true
  | _ => false

end OptionName

inductive UsageFault where
  | ambiguous (word : String) (spellings : List String)
  | noValue (name : OptionName)
  | ignoredValue (name : OptionName) (value : String)
  | noSource
  | unrecognized (words : List String)
deriving DecidableEq, Repr

def UsageFault.message : UsageFault → String
  | .ambiguous word spellings =>
      let list := String.intercalate ", " spellings
      s!"ambiguous option: {word} could match {list}"
  | .noValue name => s!"argument {name.title}: expected one argument"
  | .ignoredValue name value =>
      s!"argument {name.title}: ignored explicit argument {Text.quoted value}"
  | .noSource => "the following arguments are required: source"
  | .unrecognized words =>
      let list := String.intercalate " " words
      s!"unrecognized arguments: {list}"

inductive Word where
  | plain (text : String)
  /-- The two dashes that end the options. -/
  | divider
  /-- An option, with the value given behind an equals sign in the same word. -/
  | option (name : OptionName) (value : Option String)
  /-- The option of one letter, with what stands behind it in the same word. -/
  | letters (text : String)
  | unknown (text : String)
deriving DecidableEq, Repr

def splitEquals (text : List Char) : List Char × Option (List Char) :=
  match text.dropWhile (· ≠ '=') with
  | [] => (text, none)
  | _ :: rest => (text.takeWhile (· ≠ '='), some rest)

def exactOption? (text : List Char) : Option Word :=
  match splitEquals text with
  | (_, none) => none
  | (name, some value) =>
      if name = ['-', 'h'] then
        some (.letters (String.ofList value))
      else
        (OptionName.spellings.lookup (String.ofList name)).map fun found =>
          .option found (some (String.ofList value))

def longOptions (text : List Char) : List (String × Word) :=
  let (start, value) := splitEquals text
  (OptionName.spellings.filter fun (spelling, _) => start.isPrefixOf spelling.toList).map
    fun (spelling, name) => (spelling, .option name (value.map String.ofList))

def shortOptions (text : List Char) : List (String × Word) :=
  OptionName.spellings.filterMap fun (spelling, name) =>
    if spelling.toList = text.take 2 then
      some (spelling, .letters (String.ofList (text.drop 2)))
    else if text.isPrefixOf spelling.toList then
      some (spelling, .option name none)
    else
      none

/-- Whether a word is a dash with a decimal number; a line end may follow. -/
def looksNegative : List Char → Bool
  | '-' :: rest =>
      let body := if rest.getLast? = some '\n' then rest.dropLast else rest
      match body.dropWhile Text.isDecimalDigit with
      | [] => !body.isEmpty
      | '.' :: digits => !digits.isEmpty && digits.all Text.isDecimalDigit
      | _ => false
  | _ => false

def classify (word : String) : Except UsageFault Word :=
  match word.toList with
  | '-' :: second :: rest =>
      let text := '-' :: second :: rest
      match OptionName.spellings.lookup word, exactOption? text with
      | some name, _ => .ok (.option name none)
      | none, some option => .ok option
      | none, none =>
          match if second = '-' then longOptions text else shortOptions text with
          | [(_, option)] => .ok option
          | [] =>
              if looksNegative text || text.contains ' ' then
                .ok (.plain word)
              else
                .ok (.unknown word)
          | several => .error (.ambiguous word (several.map (·.1)))
  | _ => .ok (.plain word)

/-- Classifies all words; those behind the divider are plain. -/
def classifyAll : List String → Except UsageFault (List Word)
  | [] => .ok []
  | word :: rest =>
      if word = "--" then
        .ok (.divider :: rest.map .plain)
      else do
        let first ← classify word
        return first :: (← classifyAll rest)

structure Options where
  source : String
  calls : List String := []
  checks : Option Bool := none
  config : Option String := none
  enable : List String := []
  enableAll : Bool := false
  disable : List String := []
  allowUnordered : Bool := false
  emitSource : Bool := false
  json : Bool := false
  /-- Options whose value was dropped. -/
  dropped : List OptionName := []
deriving DecidableEq, Repr

inductive Stop where
  | help
  | misuse (fault : UsageFault)
deriving DecidableEq, Repr

structure Usage where
  options : Options := { source := "" }
  source : Option String := none
  extras : List String := []

def Options.switch (options : Options) : OptionName → Options
  | .noChecks => { options with checks := some false }
  | .checks => { options with checks := some true }
  | .enableAll => { options with enableAll := true }
  | .allowUnordered => { options with allowUnordered := true }
  | .emitSource => { options with emitSource := true }
  | .json => { options with json := true }
  | _ => options

/-- Uses an option with its value. Nothing follows a call that was dropped. -/
def Options.assign (options : Options) (value : String) : OptionName → Options
  | .call =>
      if options.dropped.contains .call then
        options
      else
        { options with calls := options.calls ++ [value] }
  | .config =>
      { options with
        config := some value
        dropped := options.dropped.filter (· ≠ .config) }
  | .enable => { options with enable := options.enable ++ [value] }
  | .disable => { options with disable := options.disable ++ [value] }
  | _ => options

/-- Uses an option with the value behind its equals sign; two dashes are dropped
there. -/
def Options.give (options : Options) (value : String) (name : OptionName) : Options :=
  if value = "--" then
    { options with dropped := options.dropped ++ [name] }
  else
    options.assign value name

/-- What letters behind the option for help do: the same letter asks for help
again, and anything else is refused. -/
def helpLetters : List Char → Stop
  | [] => .help
  | 'h' :: rest => helpLetters rest
  | rest => .misuse (.ignoredValue .help (String.ofList rest))

/-- What stands behind the option for help; an empty value is refused. -/
def helpBehind (text : String) : Stop :=
  if text.isEmpty then .misuse (.ignoredValue .help "") else helpLetters text.toList

def use (usage : Usage) : List Word → Except Stop Usage
  | [] => .ok usage
  | .unknown text :: rest => use { usage with extras := usage.extras ++ [text] } rest
  | .letters text :: _ => .error (helpBehind text)
  | .option name (some value) :: rest =>
      if name.takesValue then
        use { usage with options := usage.options.give value name } rest
      else
        .error (.misuse (.ignoredValue name value))
  | .option name none :: rest =>
      if name = .help then
        .error .help
      else if name.takesValue then
        match rest with
        | .plain value :: rest =>
            use { usage with options := usage.options.assign value name } rest
        | _ => .error (.misuse (.noValue name))
      else
        use { usage with options := usage.options.switch name } rest
  | .plain text :: .divider :: rest =>
      if usage.source.isNone then
        use { usage with source := some text } rest
      else
        use { usage with extras := usage.extras ++ [text, "--"] } rest
  | .plain text :: rest =>
      if usage.source.isNone then
        use { usage with source := some text } rest
      else
        use { usage with extras := usage.extras ++ [text] } rest
  | .divider :: .plain text :: rest =>
      if usage.source.isNone then
        use { usage with source := some text } rest
      else
        use { usage with extras := usage.extras ++ ["--", text] } rest
  | .divider :: rest => use { usage with extras := usage.extras ++ ["--"] } rest

def Options.read (words : List String) : Except Stop Options :=
  match classifyAll words with
  | .error fault => .error (.misuse fault)
  | .ok classified =>
      match use {} classified with
      | .error stop => .error stop
      | .ok usage =>
          match usage.source, usage.extras with
          | none, _ => .error (.misuse .noSource)
          | some source, [] => .ok { usage.options with source }
          | some _, extras => .error (.misuse (.unrecognized extras))

end StaticDispatch.CommandLine
