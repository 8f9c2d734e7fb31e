import SqlTidy.Shell.Run

/-!
# The shell as a program

The arguments of the shell switch options and say where the script is: in a file, in an argument or in
the input. Variables come from the environment.
-/

namespace SqlTidy.Shell

/-- Where a script is. -/
inductive Origin where
  | text (cs : List Char)
  | file (path : List Char)
  | input
deriving DecidableEq, Repr

/-- What the arguments of the shell say. -/
structure Setup where
  options : List Char := []
  hasText : Bool := false
  rest : List (List Char) := []

/-- Letters that switch options at the start. -/
def startLetters (isOn : Bool) : List Char → List (List Char) → Setup → Except (List Char) Setup
  | [], rest, s => .ok { s with rest }
  | 'c' :: letters, rest, s => startLetters isOn letters rest { s with hasText := true }
  | 'l' :: letters, rest, s => startLetters isOn letters rest s
  | 'o' :: letters, rest, s =>
    match rest with
    | [] => startLetters isOn letters rest s
    | name :: rest =>
      match Builtin.optionNames.lookup (String.ofList name) with
      | some option => startLetters isOn letters rest (switched option s)
      | none => .error ((if isOn then "-o " else "+o ").toList ++ name)
  | c :: letters, rest, s =>
    if Builtin.optionNames.any fun o => o.2 == c then startLetters isOn letters rest (switched c s)
    else .error [if isOn then '-' else '+', c]
where
  /-- With an option on or off. -/
  switched (option : Char) (s : Setup) : Setup :=
    let others := s.options.filter (· ≠ option)
    { s with options := if isOn then option :: others else others }

/-- The options at the start of the shell's arguments. The first argument bounds their number. -/
def startOptions : Nat → List (List Char) → Setup → Except (List Char) Setup
  | 0, rest, s => .ok { s with rest }
  | steps + 1, arguments, s =>
    match arguments with
    | ['-'] :: rest => .ok { s with rest }
    | ['-', '-'] :: rest => .ok { s with rest }
    | ('-' :: letters) :: rest => do
      let s ← startLetters true letters rest s
      startOptions steps s.rest s
    | ('+' :: letters) :: rest => do
      let s ← startLetters false letters rest s
      startOptions steps s.rest s
    | rest => .ok { s with rest }

/-- Variables that are always there. -/
def standardVariables : List (String × String) :=
  [("IFS", " \t\n"), ("OPTIND", "1"), ("PATH", Engine.standardPath), ("PPID", toString (ownNumber - 1)),
    ("PS1", "# "), ("PS2", "> "), ("PS4", "+ ")]

/-- Variables that the environment cannot set. -/
def fixedNames : List String := ["IFS", "OPTIND", "PPID"]

/-- The variables of a script at its start. -/
def startVariables (environment : Entries String) : Variables :=
  let standard : Variables := standardVariables.map fun (name, value) => (name.toList, ⟨some value.toList, false, false⟩)
  environment.foldl
    (fun (vs : Variables) (name, value) =>
      let name := ofText name
      let kept := if String.ofList name ∈ fixedNames then (vs.lookup name).bind (·.value) else none
      if isName name then putVariable name ⟨some (kept.getD (ofText value)), true, false⟩ vs else vs)
    standard

/-- The directory that a script starts in: as the environment has it if that is right. -/
def startDirectory (t : FileTree) (given : Option String) : List Char :=
  match given with
  | some path =>
    match t.find path with
    | .ok (position, .directory) =>
      if isRooted path && position == t.here then ofText path else ofText (FileTree.pathOf t.here).text
    | _ => ofText (FileTree.pathOf t.here).text
  | none => ofText (FileTree.pathOf t.here).text

/-- A script at its start. -/
def startState (t : Task) (name : List Char) (parameters : List (List Char)) (options : List Char) : State :=
  let directory := startDirectory t.system.tree (Entries.get? t.environment "PWD")
  { name
    parameters
    options
    directory
    bindings := putVariable "PWD".toList ⟨some directory, true, false⟩ (startVariables t.environment)
    descriptors := t.descriptors
    system := t.system
    mask := t.mask
    ignored := t.ignored }

/-- Ends the shell with a complaint before any script runs. -/
def refuse (t : Task) (name text : List Char) : Halted :=
  ⟨2, (t.emit 2 (toOctets (name ++ ": 0: ".toList ++ text ++ ['\n']))).system⟩

/-- Runs a script. -/
def runScript (g : Engine) (t : Task) (name : List Char) (parameters : List (List Char))
    (options : List Char) (x : Run Nat) : Halted :=
  let (result, s) := (g.finish x).run (startState t name parameters options)
  ⟨match result with
    | .ok exitCode => if exitCode < 0 then exitCode else exitCode % 256
    | .error _ => 2, s.system⟩

/-- The hint at the end of a script that only its own word ends. -/
def Engine.remind : Run Unit := do
  if (← get).has 'I' then
    let hint := "\nUse \"exit\" to leave shell.\n".toList
    let _ ← Run.emit 2 (List.replicate 50 hint).flatten

/-- Runs the text of the main script. -/
def Engine.runMain (g : Engine) (text : List Char) : Run Nat := do
  let status ← g.runFile text
  if (← get).skip = .nothing then Engine.remind
  return status

/-- Runs the input as a script. -/
def Engine.runInput (g : Engine) : Run Nat := do
  let s ← get
  let number := (s.descriptors.lookup 0).getD s.system.files.length
  match s.system.readable number with
  | .error _ => return 0
  | .ok content =>
    set { s with system := s.system.consume number content.length }
    g.runMain (ofOctets content)

/-- The shell, given how it starts programs. -/
def shell (launch : String → Task → Except Cause Halted) : Tool := fun t =>
  let g := engine launch
  let arguments := t.arguments.map ofText
  let own := arguments.headD "sh".toList
  match startOptions (arguments.length + 1) arguments.tail {} with
  | .error option => refuse t own ("Illegal option ".toList ++ option)
  | .ok setup =>
    let options := setup.options
    if setup.hasText then
      match setup.rest with
      | [] => refuse t own "-c requires an argument".toList
      | text :: rest =>
        runScript g t (rest.headD own) rest.tail options do
          let status ← g.runText { isLast := !options.contains 's' } text
          if options.contains 's' then g.runInput else return status
    else
      match options.contains 's', setup.rest with
      | false, path :: parameters =>
        match t.system.openPath t.descriptors (toText path) .reading with
        | .error cause => refuse t own ("cannot open ".toList ++ path ++ ": ".toList ++ ofText (openingText cause))
        | .ok (system, number) =>
          let content := ofOctets ((system.readable number).toOption.getD [])
          runScript g t path parameters options (g.runMain content)
      | _, parameters => runScript g t own parameters ('s' :: options.filter (· ≠ 's')) g.runInput

end SqlTidy.Shell
