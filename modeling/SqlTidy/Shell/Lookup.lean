import SqlTidy.Process.Find
import SqlTidy.Shell.State

/-!
# What a command name stands for

A name stands for a command of the shell, a function, or a file along the search path. Commands that
are special come before functions, all others after them.
-/

namespace SqlTidy.Shell

/-- The commands of the shell that are not special. -/
def plainBuiltins : List String :=
  ["[", "alias", "bg", "cd", "chdir", "command", "echo", "false", "fg", "getopts", "hash", "jobs", "kill",
    "printf", "pwd", "read", "test", "true", "type", "ulimit", "umask", "unalias", "wait"]

/-- Commands of the shell whose arguments may assign. -/
def assigningBuiltins : List String := ["export", "readonly", "local"]

inductive Meaning where
  | builtin (isSpecial : Bool)
  | function (f : Function)
  /-- A name with a slash, or a file along the search path. -/
  | file (path : String)
  | unknown (cause : Cause)

/-- The file along a search path that a name stands for. -/
def searchFile (t : FileTree) (path : String) (name : String) : Except Cause String :=
  let step (found : Except Cause String) (directory : String) : Except Cause String :=
    match found with
    | .ok file => .ok file
    | .error cause =>
      let file := inDirectory directory name
      match t.find file with
      | .ok (_, .file _ mode) => if mode &&& FileTree.executeBits != 0 then .ok file else .error .denied
      | .ok _ => .error .denied
      | .error c => .error (if c = .noEntry ∨ c = .notDirectory then cause else c)
  (searchDirectories path).foldl step (.error .noEntry)

/-- The search path. -/
def State.path (s : State) : String := ((s.valueOf? "PATH".toList).map toText).getD ""

/-- What a name stands for, functions and a search path considered or not. -/
def State.meaning (s : State) (name : List Char) (skipsFunctions : Bool) (path : String) : Meaning :=
  let text := String.ofList name
  if name.contains '/' then .file (toText name)
  else if text ∈ specialBuiltins then .builtin true
  else
    match (if skipsFunctions then none else s.functions.lookup name) with
    | some f => .function f
    | none =>
      if text ∈ plainBuiltins then .builtin false
      else
        match searchFile s.system.tree path (toText name) with
        | .ok file => .file file
        | .error cause => .unknown cause

/-- How a failure to find or start a program is put. -/
def startText (cause : Cause) : List Char :=
  ofText (if cause = .noEntry ∨ cause = .notDirectory then "not found" else cause.text)

/-- A text in quotes, such that it could be read again. -/
def requoted (cs : List Char) : List Char :=
  if cs.isEmpty then ['\'', '\''] else segments (cs.length + 1) cs
where
  /-- Runs without and with quotes. The first argument bounds their number. -/
  segments : Nat → List Char → List Char
    | 0, _ => []
    | _, [] => []
    | steps + 1, cs =>
      let plain := cs.takeWhile (· != '\'')
      let rest := cs.drop plain.length
      let quotes := rest.takeWhile (· == '\'')
      (if plain.isEmpty && quotes.length == 0 then [] else ['\''] ++ plain ++ ['\'']) ++
        (if quotes.isEmpty then [] else ['"'] ++ quotes ++ ['"']) ++ segments steps (rest.drop quotes.length)

/-- What is said about a name. Yields the status, too. -/
def State.describe (s : State) (name : List Char) (path : Option String) (isVerbose : Bool) :
    List Char × Nat :=
  let said (text : String) : List Char × Nat :=
    (if isVerbose then name ++ text.toList ++ ['\n'] else name ++ ['\n'], 0)
  if String.ofList name ∈ keywords then said " is a shell keyword"
  else
    match s.aliases.lookup name with
    | some value =>
      if isVerbose then (name ++ " is an alias for ".toList ++ value ++ ['\n'], 0)
      else ("alias ".toList ++ name ++ ['='] ++ requoted value ++ ['\n'], 0)
    | none =>
      match s.meaning name false (path.getD s.path) with
      | .builtin true => said " is a special shell builtin"
      | .builtin false => said " is a shell builtin"
      | .function _ => said " is a shell function"
      | .file file =>
        if name.contains '/' && !s.system.tree.leads file then missing
        else
          let tracked := if path.isNone && s.tracked.contains name then " a tracked alias for" else ""
          if isVerbose then (name ++ (" is" ++ tracked ++ " ").toList ++ ofText file ++ ['\n'], 0)
          else (ofText file ++ ['\n'], 0)
      | .unknown _ => missing
where
  /-- Nothing has that name. -/
  missing : List Char × Nat := (if isVerbose then name ++ ": not found\n".toList else [], 127)

end SqlTidy.Shell
