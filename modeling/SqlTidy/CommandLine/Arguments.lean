import SqlTidy.Field.Readers
import SqlTidy.Path

/-!
# Arguments

There are three commands, with options before, between and after their arguments. An option with a value
takes it from behind an equals sign or from the next argument, whatever that looks like. Options of one
letter may be written together. Two hyphens end the options. Of an option given several times the last
counts.
-/

namespace SqlTidy.CommandLine

/-- What is wrong with the arguments. -/
inductive UsageError where
  | noSuchOption
  | badOptionUsage
  | badParameter
  | other
deriving DecidableEq, Repr

inductive CommandName where
  | format
  | check
  | which
deriving DecidableEq, Repr

def CommandName.ofText? : String → Option CommandName
  | "format" => some .format
  | "check" => some .check
  | "which" => some .which
  | _ => none

/-- Things that options set. -/
inductive OptionName where
  | write
  | lineWidth
  | indent
  | uppercaseKeywords
  | root
  | storage
  | extensionRoot
  | executable
  | releaseVersion
  | autoDownload
  | autoBuild
  | emoji
  | help
deriving DecidableEq, Repr

/-- How an option sets its thing: to the value that follows, or to a fixed one. -/
inductive OptionForm where
  | valued (name : OptionName)
  | switch (name : OptionName) (on : Bool)
deriving DecidableEq, Repr

/-- The options that all commands have. -/
def commonOptions : List (String × OptionForm) :=
  [("--root", .valued .root), ("-r", .valued .root), ("--storage", .valued .storage),
    ("--extension-root", .valued .extensionRoot), ("--executable", .valued .executable),
    ("--release-version", .valued .releaseVersion),
    ("--auto-download", .switch .autoDownload true), ("--no-auto-download", .switch .autoDownload false),
    ("--auto-build", .switch .autoBuild true), ("--no-auto-build", .switch .autoBuild false),
    ("--emoji", .switch .emoji true), ("--no-emoji", .switch .emoji false), ("--help", .switch .help true)]

/-- The options that only formatting has. -/
def formatOptions : List (String × OptionForm) :=
  [("--write", .switch .write true), ("-w", .switch .write true), ("--line-width", .valued .lineWidth),
    ("--indent", .valued .indent), ("--uppercase-keywords", .switch .uppercaseKeywords true),
    ("--no-uppercase-keywords", .switch .uppercaseKeywords false)]

def CommandName.options : CommandName → List (String × OptionForm)
  | .format => formatOptions ++ commonOptions
  | _ => commonOptions

/-- The value of an option. -/
inductive OptionValue where
  | text (s : String)
  | switch (on : Bool)
deriving DecidableEq, Repr

/-- Options set so far, the latest first, and arguments that are none, in their order. -/
structure Given where
  options : List (OptionName × OptionValue)
  arguments : List String

def Given.set (g : Given) (name : OptionName) (v : OptionValue) : Given :=
  { g with options := (name, v) :: g.options }

/-- Splits a text at its first equals sign. -/
def splitEquals (cs : List Char) : List Char × Option (List Char) :=
  match cs.dropWhile (· != '=') with
  | _ :: value => (cs.takeWhile (· != '='), some value)
  | [] => (cs, none)

/-- Sets a thing to the next argument. -/
def takeValue (name : OptionName) (rest : List String) (g : Given) :
    Except UsageError (Given × List String) :=
  match rest with
  | v :: rest => .ok (g.set name (.text v), rest)
  | [] => .error .badOptionUsage

/-- Options of one letter, written together; the letters of a value may follow its option at once. -/
def takeLetters (options : List (String × OptionForm)) :
    List Char → List String → Given → Except UsageError (Given × List String)
  | [], rest, g => .ok (g, rest)
  | c :: letters, rest, g =>
    match options.lookup (String.ofList ['-', c]) with
    | none => .error .noSuchOption
    | some (.switch name on) => takeLetters options letters rest (g.set name (.switch on))
    | some (.valued name) =>
      if letters.isEmpty then takeValue name rest g
      else .ok (g.set name (.text (String.ofList letters)), rest)

/-- One argument that starts with a hyphen. -/
def takeOption (options : List (String × OptionForm)) (argument : String) (rest : List String)
    (g : Given) : Except UsageError (Given × List String) :=
  let (name, value?) := splitEquals argument.toList
  let isLong := 2 < name.length
  match (if isLong then options.lookup (String.ofList name) else none), value? with
  | some (.valued name), some v => .ok (g.set name (.text (String.ofList v)), rest)
  | some (.valued name), none => takeValue name rest g
  | some (.switch _ _), some _ => .error .badOptionUsage
  | some (.switch name on), none => .ok (g.set name (.switch on), rest)
  | none, _ =>
    if "--".toList.isPrefixOf argument.toList then .error .noSuchOption
    else takeLetters options (argument.toList.drop 1) rest g

/-- An argument that is an option. -/
def isOption (argument : String) : Bool :=
  argument.toList.head? == some '-' && 1 < argument.length

/-- All arguments from here on. The first argument bounds their number. -/
def takeArguments (options : List (String × OptionForm)) :
    Nat → List String → Given → Except UsageError Given
  | 0, _, g => .ok g
  | _, [], g => .ok g
  | steps + 1, argument :: rest, g =>
    if argument = "--" then .ok { g with arguments := g.arguments ++ rest }
    else if isOption argument then do
      let (g, rest) ← takeOption options argument rest g
      takeArguments options steps rest g
    else takeArguments options steps rest { g with arguments := g.arguments ++ [argument] }

/-- A command with all that was said to it. -/
structure Choice where
  command : CommandName
  source : Option Path
  write : Bool
  lineWidth : Option Int
  indent : Option Int
  uppercaseKeywords : Option Bool
  root : Path
  storage : Option Path
  extensionRoot : Option Path
  executable : Option String
  releaseVersion : Option String
  autoDownload : Option Bool
  autoBuild : Option Bool
  emoji : Bool
deriving DecidableEq, Repr

/-- What the arguments ask for. -/
inductive Wish where
  | help
  | run (choice : Choice)
deriving DecidableEq, Repr

namespace Given

def text? (g : Given) (name : OptionName) : Option String :=
  match g.options.lookup name with
  | some (.text s) => some s
  | _ => none

def switch? (g : Given) (name : OptionName) : Option Bool :=
  match g.options.lookup name with
  | some (.switch on) => some on
  | _ => none

/-- A whole number, read as leniently as in settings. -/
def int? (g : Given) (name : OptionName) : Except UsageError (Option Int) :=
  match g.text? name with
  | none => .ok none
  | some s =>
    match readIntText s with
    | .ok n => .ok (some n)
    | .error _ => .error .badParameter

/-- The choice that options and arguments make; only one argument is taken, and none to find the
formatter. -/
def choose (g : Given) (command : CommandName) : Except UsageError Choice := do
  let lineWidth ← g.int? .lineWidth
  let indent ← g.int? .indent
  let (source, extra) :=
    if command = .which then (none, g.arguments) else (g.arguments.head?, g.arguments.drop 1)
  if !extra.isEmpty then .error .other
  else
    return {
      command
      source := source.map Path.ofText
      write := (g.switch? .write).getD false
      lineWidth
      indent
      uppercaseKeywords := g.switch? .uppercaseKeywords
      root := Path.ofText ((g.text? .root).getD ".")
      storage := (g.text? .storage).map Path.ofText
      extensionRoot := (g.text? .extensionRoot).map Path.ofText
      executable := g.text? .executable
      releaseVersion := g.text? .releaseVersion
      autoDownload := g.switch? .autoDownload
      autoBuild := g.switch? .autoBuild
      emoji := (g.switch? .emoji).getD true }

end Given

/-- A command and the arguments behind it. -/
def parseCommand (name : String) (rest : List String) : Except UsageError Wish :=
  match CommandName.ofText? name with
  | none => .error .other
  | some command => do
    let g ← takeArguments command.options (rest.length + 1) rest ⟨[], []⟩
    if (g.switch? .help).isSome then return .help
    else return .run (← g.choose command)

/-- The options before a command, and what follows them. The first argument bounds their number. -/
def takeLeading : Nat → List String → Given → Except UsageError (Given × List String)
  | 0, rest, g => .ok (g, rest)
  | _, [], g => .ok (g, [])
  | steps + 1, argument :: rest, g =>
    if argument = "--" then .ok (g, rest)
    else if isOption argument then do
      let (g, rest) ← takeOption [("--help", .switch .help true)] argument rest g
      takeLeading steps rest g
    else .ok (g, argument :: rest)

/-- The options before a command, which may be a wish for help. -/
def leading (arguments : List String) : Except UsageError (Bool × List String) := do
  let (g, rest) ← takeLeading (arguments.length + 1) arguments ⟨[], []⟩
  return ((g.switch? .help).isSome, rest)

/-- What the arguments ask for: no arguments ask for help. Where a command should stand but an option
does, since two hyphens hid it before, it is looked at once more. -/
def parse : List String → Except UsageError Wish
  | [] => .ok .help
  | arguments => do
    match ← leading arguments with
    | (true, _) => return .help
    | (false, []) => .error .other
    | (false, name :: rest) =>
      if isOption name then
        let (help, _) ← leading (name :: rest)
        if help then return .help else .error .other
      else parseCommand name rest

end SqlTidy.CommandLine
