import SqlTidy.Shell.Arithmetic
import SqlTidy.Shell.Pattern
import SqlTidy.Shell.Source
import SqlTidy.Shell.System

/-!
# The state of a script

A script runs in a state: its parameters, variables and functions, its options, where its descriptors
lead and what it shares with other processes. A step leads from one state to the next and may stop the
script.
-/

namespace SqlTidy.Shell

structure Variable where
  /-- A variable that is not set may still be exported or read only. -/
  value : Option (List Char)
  isExported : Bool := false
  isReadOnly : Bool := false

abbrev Variables := List (List Char × Variable)

/-- What a function does. -/
abbrev Function := Command

/-- What is left out until a loop, a function or a file ends. -/
inductive Skip where
  | nothing
  | leaving
  | round
  | function
deriving DecidableEq, Repr

/-- Where the next option is looked for by a script that reads its own options: the number of the
argument, and the place inside it. -/
structure OptionPlace where
  argument : Nat := 1
  place : Option Nat := none

/-- A process that was started without waiting for it. -/
structure Job where
  number : Nat
  exitCode : Int
  isWaited : Bool := false

structure State where
  name : List Char
  parameters : List (List Char)
  optionPlace : OptionPlace := {}
  bindings : Variables
  /-- What variables were before functions made them their own, by call. -/
  locals : List Variables := []
  functions : List (List Char × Function) := []
  aliases : List (List Char × List Char) := []
  /-- Names of programs that have been found along the search path. -/
  tracked : List (List Char) := []
  /-- The directory as the script knows it. -/
  directory : List Char := []
  /-- The letters of the options that are on. -/
  options : List Char := []
  /-- The status of the last command, and of the last substitution. -/
  status : Nat := 0
  substitutionStatus : Nat := 0
  /-- The status before a trap began. -/
  savedStatus : Option Nat := none
  /-- The line that complaints name, and the line up to which the script has been read. -/
  line : Nat := 0
  sourceLine : Nat := 0
  /-- The command of the shell that complaints name. -/
  commandName : Option (List Char) := none
  skip : Skip := .nothing
  skipCount : Nat := 0
  loops : Nat := 0
  calls : Nat := 0
  /-- What to do on signals; zero stands for the end of the script. -/
  traps : List (Nat × List Char) := []
  /-- Signals that have come and were not answered yet. -/
  pending : List Nat := []
  /-- Signals for the script that have come from a part that runs apart. -/
  arrived : List Nat := []
  /-- Whether the state is that of a part that runs apart. -/
  isApart : Bool := false
  jobs : List Job := []
  lastJob : Option Nat := none
  /-- The signals that had no effect when the script began. -/
  ignored : List Nat := []
  /-- Whether the prompt of traced commands is being expanded. -/
  inPrompt : Bool := false
  mask : Nat := 0o022
  documents : List (Nat × Word) := []
  nextDocument : Nat := 0
  descriptors : Descriptors
  system : System

/-- Why a script stops: a complaint, its end, a signal, or that it has become another program. -/
inductive Stop where
  | complaint
  | ended
  | killed (signal : Nat)
  | replaced (exitCode : Int)
deriving DecidableEq, Repr

/-- A step of a script. -/
abbrev Run (α : Type) := ExceptT Stop (StateM State) α

/-- The number by which a script knows itself. -/
def ownNumber : Nat := 4217

namespace State

def has (s : State) (option : Char) : Bool := s.options.contains option

/-- The value of a variable that is set. -/
def valueOf? (s : State) (name : List Char) : Option (List Char) :=
  (s.bindings.lookup name).bind (·.value)

/-- Characters that divide fields where nothing else is said. -/
def usualDividers : List Char := [' ', '\t', '\n']

/-- The characters that divide fields. -/
def dividers (s : State) : List Char := (s.valueOf? "IFS".toList).getD usualDividers

/-- Forgets jobs that have been waited for. -/
def forgetJobs (s : State) : State := { s with jobs := s.jobs.filter fun j => !j.isWaited }

/-- The environment for programs. -/
def environment (s : State) : Entries String :=
  s.bindings.filterMap fun (name, v) =>
    if v.isExported then v.value.map fun value => (toText name, toText value) else none

end State

/-- Replaces the entry of a name, or adds one. -/
def putVariable (name : List Char) (v : Variable) : Variables → Variables
  | [] => [(name, v)]
  | (n, w) :: rest => if n = name then (n, v) :: rest else (n, w) :: putVariable name v rest

namespace Run

/-- Writes to a descriptor; says whether that was possible. -/
def emit (descriptor : Nat) (cs : List Char) : Run Bool := do
  let s ← get
  match s.system.write ((s.descriptors.lookup descriptor).getD s.system.files.length) (toOctets cs) with
  | .ok system =>
    set { s with system }
    return true
  | .error _ => return false

/-- Complains under the name of the script. -/
def warn (text : List Char) : Run Unit := do
  let s ← get
  let command := (s.commandName.map (· ++ ": ".toList)).getD []
  let _ ← emit 2 (s.name ++ ": ".toList ++ decimalText s.line ++ ": ".toList ++ command ++ text ++ ['\n'])

/-- Complains and stops. -/
def stop {α : Type} (text : List Char) : Run α := do
  warn text
  modify fun s => { s with status := 2 }
  throw .complaint

def stopText {α : Type} (text : String) : Run α := stop text.toList

def illegalNumber {α : Type} (text : List Char) : Run α := stop ("Illegal number: ".toList ++ text)

/-- The count that an argument gives. -/
def count (text : List Char) : Run Nat := do
  match count? text with
  | some n => return n
  | none => illegalNumber text

/-- Makes a line the current one. -/
def atLine (line : Nat) : Run Unit := modify fun s => { s with line }

/-- Gives a variable a value. -/
def assign (name value : List Char) (exports : Bool) : Run Unit := do
  let s ← get
  let old := (s.bindings.lookup name).getD ⟨none, false, false⟩
  if old.isReadOnly then stop (name ++ ": is read only".toList)
  else
    let v : Variable := ⟨some value, old.isExported || exports || s.has 'a', false⟩
    let optionPlace : OptionPlace :=
      if name = "OPTIND".toList then { argument := (count? value).getD 1 } else s.optionPlace
    let tracked := if name = "PATH".toList then [] else s.tracked
    set { s with bindings := putVariable name v s.bindings, optionPlace, tracked }

/-- Gives a variable a value if its name is one. -/
def assignChecked (name value : List Char) : Run Unit := do
  if isName name then assign name value false
  else stop (name.takeWhile (· != '=') ++ ": bad variable name".toList)

/-- Takes a variable away. -/
def unassign (name : List Char) : Run Unit := do
  let s ← get
  match s.bindings.lookup name with
  | none => pure ()
  | some v =>
    if v.isReadOnly then stop (name ++ ": is read only".toList)
    else set { s with bindings := s.bindings.filter fun x => x.1 ≠ name }

/-- Runs something and goes on even if it stops. -/
def attempt {α : Type} (x : Run α) : Run (Except Stop α) := ExceptT.mk (Except.ok <$> x.run)

/-- Runs something apart: it leaves its effects on files to the rest, but none on variables. Yields its
result and the state it ended in. -/
def apart {α : Type} (x : Run α) : Run (Except Stop α × State) := do
  let s ← get
  let (result, after) := x.run { s with isApart := true, jobs := [] }
  set { s.forgetJobs with
    system := { after.system with tree := { after.system.tree with here := s.system.tree.here } }
    arrived := after.arrived }
  return (result, after)

end Run

end SqlTidy.Shell
