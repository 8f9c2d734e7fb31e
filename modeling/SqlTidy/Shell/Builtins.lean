import SqlTidy.Shell.Fields
import SqlTidy.Shell.Format
import SqlTidy.Shell.Lookup
import SqlTidy.Shell.Test

/-!
# Commands of the shell

The commands that need nothing but the state: each takes its arguments and yields a status. What it
prints is written at once when it is done.
-/

namespace SqlTidy.Shell

/-- The arguments of a command as options and what follows them. -/
structure Parsed where
  options : List (Char × List Char)
  rest : List (List Char)

/-- Whether an option among those allowed takes an argument; `none` if it is not allowed. -/
def takesArgument? (c : Char) : List Char → Option Bool
  | [] => none
  | option :: rest =>
    if option = c then some (rest.head? == some ':')
    else
      match rest with
      | ':' :: rest => takesArgument? c rest
      | rest => takesArgument? c rest

/-- Takes the options off a command's arguments. An option followed by a colon takes an argument. The
first argument bounds the number of characters. -/
def takeOptions (allowed : List Char) : Nat → List Char → List (List Char) → Run Parsed
  | 0, _, rest => return ⟨[], rest⟩
  | steps + 1, [], arguments => do
    match arguments with
    | ['-', '-'] :: rest => return ⟨[], rest⟩
    | ('-' :: c :: cs) :: rest => takeOptions allowed steps (c :: cs) rest
    | rest => return ⟨[], rest⟩
  | steps + 1, c :: cs, arguments => do
    match takesArgument? c allowed with
    | none => Run.stop ("Illegal option -".toList ++ [c])
    | some true =>
      let (value, arguments) ←
        if !cs.isEmpty then pure (cs, arguments)
        else
          match arguments with
          | a :: rest => pure (a, rest)
          | [] => Run.stop ("No arg for -".toList ++ [c] ++ " option".toList)
      let more ← takeOptions allowed steps [] arguments
      return { more with options := (c, value) :: more.options }
    | some false =>
      let more ← takeOptions allowed steps cs arguments
      return { more with options := (c, []) :: more.options }

/-- The options of a command and its other arguments. -/
def parseOptions (allowed : String) (arguments : List (List Char)) : Run Parsed :=
  takeOptions allowed.toList (arguments.flatten.length + arguments.length + 1) [] arguments

def Parsed.has (p : Parsed) (c : Char) : Bool := p.options.any fun o => o.1 == c

/-- Prints for a command, which fails if nothing can be written. -/
def printText (cs : List Char) (status : Nat) : Run Nat := do
  if cs.isEmpty then return status
  else if ← Run.emit 1 cs then return status
  else
    Run.warn (((← get).commandName.getD []) ++ ": I/O error".toList)
    return status ||| 1

namespace Builtin

/-! ## Output -/

/-- Words with blanks between them, up to one that asks for an end of all output. -/
def echoText (ending : List Char) : List (List Char) → List Char
  | [] => ending
  | word :: rest =>
    let (cs, isLast) := unescapeAll word
    if isLast then cs else cs ++ (if rest.isEmpty then [] else [' ']) ++ echoText ending rest

def echo (arguments : List (List Char)) : Run Nat :=
  match arguments with
  | ['-', 'n'] :: words => printText (echoText [] words) 0
  | words => printText (echoText ['\n'] words) 0

def printf (arguments : List (List Char)) : Run Nat := do
  match (← parseOptions "" arguments).rest with
  | [] => Run.stopText "usage: printf format [arg ...]"
  | template :: arguments =>
    let (w, ending) := format template arguments
    w.complaints.reverse.forM fun (argument, flaw) =>
      Run.warn (argument ++ ": ".toList ++ flaw.text.toList)
    let status := if w.complaints.isEmpty then 0 else 1
    match ending with
    | .missing =>
      let _ ← Run.emit 1 w.text.reverse
      Run.stopText "missing format character"
    | .invalid directive =>
      let _ ← Run.emit 1 w.text.reverse
      Run.stop (directive ++ ": invalid directive".toList)
    | _ => printText w.text.reverse status

/-! ## Directories -/

/-- The directory of a system as a path. -/
def physicalDirectory (s : State) : List Char :=
  ofText (FileTree.pathOf s.system.tree.here).text

/-- The steps of a logical path from a directory: names are appended, double dots take one away. -/
def logicalNames (above : List (List Char)) (names : List (List Char)) : List (List Char) :=
  (names.foldl (fun (before : List (List Char)) name =>
    if name = ['.'] then before else if name = ['.', '.'] then before.tail else name :: before)
    above.reverse).reverse

/-- The names between the slashes of a path. -/
def pathNames (cs : List Char) : List (List Char) := (splitSlashes cs).filter fun n => !n.isEmpty

/-- A path seen from the directory that the script knows. -/
def logicalPath (s : State) (path : List Char) : List Char :=
  let isRooted := path.head? == some '/'
  let base := if isRooted then [] else pathNames s.directory
  let isDouble (cs : List Char) : Bool := ['/', '/'].isPrefixOf cs && !(['/', '/', '/'].isPrefixOf cs)
  let root : List Char := if isDouble (if isRooted then path else s.directory) then ['/', '/'] else ['/']
  root ++ ((logicalNames base (pathNames path)).intersperse ['/']).flatten

/-- Goes to a directory; says whether that was possible. -/
def enterDirectory (isPhysical : Bool) (path : List Char) : Run Bool := do
  let s ← get
  let logical := logicalPath s path
  match s.system.tree.find (toText (if isPhysical then path else logical)) with
  | .ok (position, .directory) =>
    let before := s.directory
    let system := { s.system with tree := { s.system.tree with here := position } }
    let directory := if isPhysical then physicalDirectory { s with system } else logical
    set { s with system, directory }
    Run.assign "OLDPWD".toList before true
    Run.assign "PWD".toList directory true
    return true
  | _ => return false

/-- Whether the last of some options says that links are followed. -/
def isPhysical (p : Parsed) : Bool := (p.options.getLast?.map (·.1)) == some 'P'

/-- A directory along a list of directories. -/
def along (t : FileTree) (path : List Char) : List (List Char) → Option (List Char × Bool)
  | [] => none
  | directory :: rest =>
    let file :=
      if directory.isEmpty then path
      else directory ++ (if directory.getLast? = some '/' then [] else ['/']) ++ path
    if t.isDirectory (toText file) then some (file, !directory.isEmpty) else along t path rest

def cd (arguments : List (List Char)) : Run Nat := do
  let p ← parseOptions "LP" arguments
  let s ← get
  let (target, prints) : List Char × Bool :=
    match p.rest with
    | [] => ((s.valueOf? "HOME".toList).getD [], false)
    | ['-'] :: _ => ((s.valueOf? "OLDPWD".toList).getD [], true)
    | path :: _ => (path, false)
  let first := (target.takeWhile (· != '/'))
  let isPlain := target.head? == some '/' || first == ['.'] || first == ['.', '.']
  let target := if target.isEmpty then ['.'] else target
  let (path, prints) :=
    if isPlain then (target, prints)
    else
      match s.valueOf? "CDPATH".toList with
      | none => (target, prints)
      | some list =>
        match along s.system.tree target (splitColons list) with
        | some (file, isElsewhere) => (file, prints || isElsewhere)
        | none => (target, prints)
  if ← enterDirectory (isPhysical p) path then
    if prints then printText ((← get).directory ++ ['\n']) 0 else return 0
  else Run.stop ("can't cd to ".toList ++ target)

def pwd (arguments : List (List Char)) : Run Nat := do
  let p ← parseOptions "LP" arguments
  let s ← get
  printText ((if isPhysical p then physicalDirectory s else s.directory) ++ ['\n']) 0

/-! ## Variables -/

/-- Variables that were set or exported, by name. -/
def sorted (bindings : Variables) : Variables := bindings.mergeSort fun a b => isBefore a.1 b.1

/-- Variables as they could be set again. -/
def listing (word : String) (bindings : Variables) : List Char :=
  (sorted bindings).flatMap fun (name, v) =>
    let value := (v.value.map fun cs => '=' :: requoted cs).getD []
    (if word = "" then [] else word.toList ++ [' ']) ++ name ++ value ++ ['\n']

/-- Gives variables a property. -/
def declare (word : String) (change : Variable → Variable) (has : Variable → Bool)
    (arguments : List (List Char)) : Run Nat := do
  let p ← parseOptions "p" arguments
  if p.has 'p' || p.rest.isEmpty then
    printText (listing word ((← get).bindings.filter fun x => has x.2)) 0
  else
    p.rest.forM fun argument => do
      let name := leadingName argument
      match argument.drop name.length with
      | '=' :: value =>
        if name.isEmpty then bad argument else Run.assign name value false
      | [] => if name.isEmpty then bad argument else pure ()
      | _ => bad argument
      modify fun s =>
        let old := (s.bindings.lookup name).getD ⟨none, false, false⟩
        { s with bindings := putVariable name (change old) s.bindings }
    return 0
where
  /-- The argument does not begin with a name. -/
  bad (argument : List Char) : Run Unit :=
    Run.stop (argument.takeWhile (· != '=') ++ ": bad variable name".toList)

def exportAll : List (List Char) → Run Nat :=
  declare "export" (fun v => { v with isExported := true }) (·.isExported)

def readonlyAll : List (List Char) → Run Nat :=
  declare "readonly" (fun v => { v with isReadOnly := true }) (·.isReadOnly)

/-- Keeps what a variable was for when the function ends. -/
def keepLocal (name : List Char) : Run Unit :=
  modify fun s =>
    match s.locals with
    | frame :: rest =>
      if (frame.lookup name).isSome then s
      else { s with locals := ((name, (s.bindings.lookup name).getD ⟨none, false, false⟩) :: frame) :: rest }
    | [] => s

/-- Names that are not set and nothing else. -/
def isTrivial (v : Variable) : Bool := v.value.isNone && !v.isExported && !v.isReadOnly

/-- The name under which the options are kept. -/
def optionsName : List Char := ['-']

/-- Keeps the options for when the function ends. -/
def keepOptions : Run Unit :=
  modify fun s =>
    match s.locals with
    | frame :: rest => { s with locals := (frame ++ [(optionsName, ⟨some s.options, false, false⟩)]) :: rest }
    | [] => s

/-- Gives a variable or the options back what they were. -/
def restore (s : State) (name : List Char) (v : Variable) : State :=
  if name = optionsName then { s with options := v.value.getD [] }
  else if isTrivial v then { s with bindings := s.bindings.filter fun x => x.1 ≠ name }
  else { s with bindings := putVariable name v s.bindings }

/-- Leaves calls until so many are left, and gives all that was their own back. -/
def unwindTo (depth : Nat) : Run Unit :=
  modify fun s =>
    let count := s.locals.length - depth
    let s' := ((s.locals.take count).flatten).foldl (fun s (name, v) => restore s name v) s
    { s' with locals := s.locals.drop count }

def localAll (arguments : List (List Char)) : Run Nat := do
  if (← get).locals.isEmpty then Run.stopText "not in a function"
  else
    arguments.forM fun argument => do
      let name := argument.takeWhile (· != '=')
      if argument = optionsName then keepOptions
      else if !isName name then Run.stop (name ++ ": bad variable name".toList)
      else
        keepLocal name
        match argument.drop name.length with
        | _ :: value => Run.assign name value false
        | [] => pure ()
    return 0

def unset (arguments : List (List Char)) : Run Nat := do
  let p ← parseOptions "vf" arguments
  let isFunction := (p.options.getLast?.map (·.1)) == some 'f'
  p.rest.forM fun name => do
    if isFunction then modify fun s => { s with functions := s.functions.filter fun f => f.1 ≠ name }
    else
      let own := leadingName name
      match name.drop own.length with
      | [] => if own.isEmpty then badName name else Run.unassign own
      | c :: _ => if own.isEmpty || c != '=' then badName name else Run.unassign own
  return 0
where
  /-- Complains about a name. -/
  badName (name : List Char) : Run Unit :=
    Run.stop (name.takeWhile (· != '=') ++ ": bad variable name".toList)

/-- Gives variables the fields of a line. -/
def assignFields : List (List Char) → List (List Char) → Run Unit
  | [], _ => return ()
  | name :: names, fields => do
    Run.assignChecked name (fields.headD [])
    assignFields names fields.tail

/-- A line of input as atoms, whether it was complete, and how many octets it took. Unless it is taken as
it is, a backslash keeps the character behind it from dividing, and joins lines. -/
def takeLine (isRaw : Bool) : Octets → List Atom × Bool × Nat
  | [] => ([], false, 0)
  | b :: rest =>
    let c := Char.ofNat b.toNat
    if b = 0x0A then ([], true, 1)
    else if b = 0 then counted 1 (takeLine isRaw rest)
    else if b = 0x5C && !isRaw then
      match rest with
      | [] => ([], false, 1)
      | d :: rest =>
        let (atoms, isComplete, count) := takeLine isRaw rest
        (if d = 0x0A then .region false :: atoms
          else .char (Char.ofNat d.toNat) true false :: .region false :: atoms, isComplete, count + 2)
    else
      let (atoms, isComplete, count) := takeLine isRaw rest
      (.char c false true :: atoms, isComplete, count + 1)
where
  /-- More octets have been taken. -/
  counted (n : Nat) (x : List Atom × Bool × Nat) : List Atom × Bool × Nat := (x.1, x.2.1, x.2.2 + n)

def read (arguments : List (List Char)) : Run Nat := do
  let p ← parseOptions "p:r" arguments
  if p.rest.isEmpty then Run.stopText "arg count"
  else
    let s ← get
    let number := (s.descriptors.lookup 0).getD s.system.files.length
    let input := (s.system.readable number).toOption.getD []
    let (atoms, isComplete, count) := takeLine (p.has 'r') input
    set { s with system := s.system.consume number count }
    let fields := divide s.dividers (some p.rest.length) (.region false :: atoms)
    assignFields p.rest (fields.map joinedText)
    return if isComplete then 0 else 1

/-! ## Options and parameters -/

/-- Options by their names, in the order in which they are listed. -/
def optionNames : List (String × Char) :=
  [("errexit", 'e'), ("noglob", 'f'), ("ignoreeof", 'I'), ("interactive", 'i'), ("monitor", 'm'),
    ("noexec", 'n'), ("stdin", 's'), ("xtrace", 'x'), ("verbose", 'v'), ("vi", 'V'), ("emacs", 'E'),
    ("noclobber", 'C'), ("allexport", 'a'), ("notify", 'b'), ("nounset", 'u'), ("privileged", 'p'),
    ("nolog", '\x00'), ("debug", '\x01')]

/-- Switches an option. Jobs cannot be controlled without a terminal. -/
def switch (option : Char) (isOn : Bool) : Run Unit :=
  if option = 'm' then
    if isOn then Run.warn "can't access tty; job control turned off".toList else pure ()
  else
    modify fun s =>
      let others := s.options.filter (· ≠ option)
      { s with options := if isOn then option :: others else others }

/-- The options as a table, or as they could be set again. -/
def optionList (s : State) (asTable : Bool) : List Char :=
  if asTable then
    "Current option settings\n".toList ++ optionNames.flatMap fun (name, c) =>
      (name ++ String.ofList (List.replicate (16 - name.length) ' ')).toList ++
        (if s.has c then "on\n" else "off\n").toList
  else
    optionNames.flatMap fun (name, c) =>
      ("set " ++ (if s.has c then "-o " else "+o ") ++ name ++ "\n").toList

/-- The letters of one argument that switch options. Yields the arguments left. The first argument bounds
the number of letters. -/
def switchLetters (isOn : Bool) : List Char → List (List Char) → Run (List (List Char))
  | [], rest => return rest
  | 'o' :: letters, rest => do
    match rest with
    | [] =>
      let _ ← printText (optionList (← get) isOn) 0
      switchLetters isOn letters rest
    | name :: rest =>
      match optionNames.lookup (String.ofList name) with
      | some option =>
        switch option isOn
        switchLetters isOn letters rest
      | none => Run.stop ("Illegal option ".toList ++ (if isOn then "-o " else "+o ").toList ++ name)
  | c :: letters, rest => do
    if optionNames.any fun o => o.2 == c then
      switch c isOn
      switchLetters isOn letters rest
    else Run.stop ("Illegal option ".toList ++ [if isOn then '-' else '+', c])

/-- Switches options by arguments. Yields what follows them, and whether parameters are to be set. The
first argument bounds the number of arguments. -/
def switchAll : Nat → List (List Char) → Run (List (List Char) × Bool)
  | 0, rest => return (rest, true)
  | steps + 1, arguments => do
    match arguments with
    | ['-'] :: rest =>
      switch 'x' false
      switch 'v' false
      return (rest, !rest.isEmpty)
    | ['-', '-'] :: rest => return (rest, true)
    | ('-' :: letters) :: rest => switchAll steps (← switchLetters true letters rest)
    | ('+' :: letters) :: rest => switchAll steps (← switchLetters false letters rest)
    | rest => return (rest, !rest.isEmpty)

def setAll (arguments : List (List Char)) : Run Nat := do
  if arguments.isEmpty then
    printText (listing "" ((← get).bindings.filter fun x => x.2.value.isSome)) 0
  else
    let (rest, setsParameters) ← switchAll (arguments.length + 1) arguments
    if setsParameters then
      modify fun s => { s with parameters := rest, optionPlace := {} }
    return 0

def shift (arguments : List (List Char)) : Run Nat := do
  let n ←
    match arguments with
    | a :: _ => Run.count a
    | [] => pure 1
  let s ← get
  if s.parameters.length < n then Run.stopText "can't shift that many"
  else
    set { s with parameters := s.parameters.drop n, optionPlace := {} }
    return 0

/-- One step of reading options: the letter found, the argument of the option, the place behind it and
whether the options have ended. -/
structure OptionStep where
  letter : Char
  value : Option (List Char)
  complaint : Option String
  argument : Nat
  place : Option Nat
  isDone : Bool

/-- The next option among arguments. -/
def nextOption (allowed : List Char) (arguments : List (List Char)) (found : OptionPlace) : OptionStep :=
  let current := if found.argument ≤ 1 then none else arguments[found.argument - 2]?
  let left : List Char :=
    match found.place, current with
    | some place, some word => word.drop place
    | _, _ => []
  let atEnd (argument : Nat) : OptionStep := ⟨'?', none, none, argument, none, true⟩
  let isQuiet := allowed.head? == some ':'
  /- `next` is the number of the argument behind the one that `c :: cs` stands in. -/
  let take (next : Nat) (c : Char) (cs : List Char) : OptionStep :=
    let behind : Option Nat := some (((arguments[next - 2]?).getD []).length - cs.length)
    match takesArgument? c allowed with
    | none =>
      if isQuiet then ⟨'?', some [c], none, next, behind, false⟩
      else ⟨'?', none, some ("Illegal option -" ++ String.singleton c), next, behind, false⟩
    | some true =>
      if !cs.isEmpty then ⟨c, some cs, none, next, none, false⟩
      else
        match arguments[next - 1]? with
        | some word => ⟨c, some word, none, next + 1, none, false⟩
        | none =>
          if isQuiet then ⟨':', some [c], none, next, behind, false⟩
          else ⟨'?', none, some ("No arg for -" ++ String.singleton c ++ " option"), next, behind, false⟩
    | some false => ⟨c, some [], none, next, behind, false⟩
  match left with
  | c :: cs => take found.argument c cs
  | [] =>
    match arguments[found.argument - 1]? with
    | some ['-', '-'] => atEnd (found.argument + 1)
    | some ('-' :: c :: cs) => take (found.argument + 1) c cs
    | _ => atEnd found.argument

def getopts (arguments : List (List Char)) : Run Nat := do
  match arguments with
  | allowed :: name :: given =>
    let s ← get
    let words := if given.isEmpty then s.parameters else given
    let place : OptionPlace :=
      if words.length + 1 < s.optionPlace.argument then {} else s.optionPlace
    let step := nextOption allowed words place
    match step.complaint with
    | some text =>
      let _ ← Run.emit 2 (text.toList ++ ['\n'])
    | none => pure ()
    match step.value, step.isDone with
    | some value, _ => Run.assign "OPTARG".toList value false
    | none, false => Run.unassign "OPTARG".toList
    | none, true => pure ()
    Run.assign "OPTIND".toList (decimalText step.argument) false
    Run.assignChecked name [step.letter]
    modify fun s => { s with optionPlace := ⟨step.argument, step.place⟩ }
    return if step.isDone then 1 else 0
  | _ => Run.stopText "Usage: getopts optstring var [arg...]"

/-! ## Signals -/

/-- The names of signals, from zero on. -/
def signalNames : List String :=
  ["EXIT", "HUP", "INT", "QUIT", "ILL", "TRAP", "ABRT", "BUS", "FPE", "KILL", "USR1", "SEGV", "USR2", "PIPE",
    "ALRM", "TERM", "16", "CHLD", "CONT", "STOP", "TSTP", "TTIN", "TTOU", "URG", "XCPU", "XFSZ", "VTALRM",
    "PROF", "WINCH", "IO", "PWR", "SYS", "32", "33", "RTMIN", "RTMIN+1", "RTMIN+2", "RTMIN+3", "RTMIN+4",
    "RTMIN+5", "RTMIN+6", "RTMIN+7", "RTMIN+8", "RTMIN+9", "RTMIN+10", "RTMIN+11", "RTMIN+12", "RTMIN+13",
    "RTMIN+14", "RTMIN+15", "RTMAX-14", "RTMAX-13", "RTMAX-12", "RTMAX-11", "RTMAX-10", "RTMAX-9",
    "RTMAX-8", "RTMAX-7", "RTMAX-6", "RTMAX-5", "RTMAX-4", "RTMAX-3", "RTMAX-2", "RTMAX-1", "RTMAX"]

/-- Signals that end nothing; zero only asks whether a signal could be sent. -/
def harmlessSignals : List Nat := [0, 17, 18, 23, 28]

/-- A signal by its number. -/
def signalNumber? (cs : List Char) : Option Nat :=
  if cs.isEmpty || !cs.all isNumeral then none
  else
    let n := (takeInteger false cs).value.toNat
    if n < signalNames.length then some n else none

/-- A signal by its number, or by its name from `first` on. -/
def signal? (first : Nat) (cs : List Char) : Option Nat :=
  match signalNumber? cs with
  | some n => some n
  | none =>
    let name := (String.ofList cs).toUpper
    let found := signalNames.findIdx (· == name)
    if first ≤ found ∧ found < signalNames.length then some found else none

/-- Sends a signal to the script itself. -/
def receive (signal : Nat) : Run Unit := do
  let s ← get
  if s.ignored.contains signal then pure ()
  else if s.isApart then set { s with arrived := s.arrived ++ [signal] }
  else
    match (if signal = 9 then none else s.traps.lookup signal) with
    | some [] => pure ()
    | some _ => set { s with pending := s.pending ++ [signal] }
    | none => if harmlessSignals.contains signal then pure () else throw (.killed signal)

def killUsage {α : Type} : Run α :=
  Run.stopText ("Usage: kill [-s sigspec | -signum | -sigspec] [pid | job]... or\n" ++
    "kill -l [exitstatus]")

/-- The job that an argument names. -/
def jobAt (argument : List Char) : Run Job := do
  let jobs := (← get).jobs
  let known (j? : Option Job) (text : List Char) : Run Job :=
    match j? with
    | some j => return j
    | none => Run.stop text
  let missing := "No such job: ".toList ++ argument
  match argument.drop 1 with
  | [] => known jobs.getLast? "No current job".toList
  | ['%'] => known jobs.getLast? "No current job".toList
  | ['+'] => known jobs.getLast? "No current job".toList
  | ['-'] => known (jobs.dropLast).getLast? "No previous job".toList
  | digits =>
    match count? digits with
    | some (n + 1) => known jobs[n]? missing
    | _ => Run.stop missing

/-- Sends a signal to several processes. -/
def sendAll (signal : Nat) : Nat → List (List Char) → Run Nat
  | status, [] => return status
  | status, target :: rest => do
    let number ←
      match target with
      | '%' :: _ => Job.number <$> jobAt target
      | '-' :: digits => do
        let _ ← Run.count digits
        pure 0
      | digits => Run.count digits
    if number = ownNumber then
      receive signal
      sendAll signal status rest
    else if (← get).jobs.any fun j => j.number == number then sendAll signal status rest
    else
      Run.warn "No such process\n".toList
      sendAll signal 1 rest

def kill (arguments : List (List Char)) : Run Nat := do
  let (signal, isList, targets) : Option Nat × Bool × List (List Char) ←
    match arguments with
    | ('-' :: name) :: rest =>
      match signal? 1 name with
      | some n => pure (some n, false, rest)
      | none =>
        let p ← parseOptions "ls:" arguments
        let signal ← p.options.foldlM
          (fun (before : Option Nat) (option, value) => do
            if option = 's' then
              match signal? 1 value with
              | some n => pure (some n)
              | none => Run.stop ("invalid signal number or name: ".toList ++ value)
            else pure before)
          none
        pure (signal, p.has 'l', p.rest)
    | rest => pure (none, false, rest)
  if arguments.isEmpty then killUsage
  else if isList then
    if signal.isSome then killUsage
    else
      match targets with
      | [] => printText (("0\n" ++ String.join (signalNames.tail.map (· ++ "\n"))).toList) 0
      | a :: _ =>
        let n ← Run.count a
        let n := if 128 < n then n - 128 else n
        if 0 < n ∧ n < signalNames.length then
          printText (((signalNames[n]?).getD "").toList ++ ['\n']) 0
        else Run.stop ("invalid signal number or exit status: ".toList ++ a)
  else if targets.isEmpty then killUsage
  else sendAll (signal.getD 15) 0 targets

def trap (arguments : List (List Char)) : Run Nat := do
  let p ← parseOptions "" arguments
  match p.rest with
  | [] =>
    let s ← get
    let lines := (List.range signalNames.length).flatMap fun n =>
      match s.traps.lookup n with
      | some action =>
        "trap -- ".toList ++ requoted action ++ [' '] ++ ((signalNames[n]?).getD "").toList ++ ['\n']
      | none => []
    printText lines 0
  | first :: rest =>
    let (action, signals) : Option (List Char) × List (List Char) :=
      if rest.isEmpty || (signalNumber? first).isSome then (none, first :: rest)
      else (if first = ['-'] then none else some first, rest)
    setTraps action signals
where
  /-- Sets the same trap for several signals. -/
  setTraps (action : Option (List Char)) : List (List Char) → Run Nat
    | [] => return 0
    | name :: rest => do
      match signal? 0 name with
      | none =>
        let _ ← Run.emit 2 ("trap: ".toList ++ name ++ ": bad trap\n".toList)
        return 1
      | some n =>
        modify fun s =>
          let others := s.traps.filter fun t => t.1 ≠ n
          { s with traps := (action.map fun a => (n, a)).toList ++ others }
        setTraps action rest

/-! ## Names -/

def aliasAll (arguments : List (List Char)) : Run Nat := do
  let shown (name value : List Char) : List Char := name ++ ['='] ++ requoted value ++ ['\n']
  if arguments.isEmpty then
    printText ((← get).aliases.reverse.flatMap fun (name, value) => shown name value) 0
  else
    let (text, status) ← arguments.foldlM
      (fun (before : List Char × Nat) argument => do
        let name := argument.take 1 ++ (argument.drop 1).takeWhile (· != '=')
        match argument.drop name.length with
        | _ :: value =>
          modify fun s =>
            { s with aliases := (name, value) :: s.aliases.filter fun a => a.1 ≠ name }
          pure before
        | [] =>
          match (← get).aliases.lookup name with
          | some value => pure (before.1 ++ shown name value, before.2)
          | none =>
            let _ ← Run.emit 2 ("alias: ".toList ++ name ++ " not found\n".toList)
            pure (before.1, 1))
      ([], 0)
    printText text status

def unalias (arguments : List (List Char)) : Run Nat := do
  let p ← parseOptions "a" arguments
  if p.has 'a' then
    modify fun s => { s with aliases := [] }
    return 0
  else
    p.rest.foldlM
      (fun (status : Nat) name => do
        let s ← get
        if (s.aliases.lookup name).isSome then
          set { s with aliases := s.aliases.filter fun a => a.1 ≠ name }
          pure status
        else
          let _ ← Run.emit 2 ("unalias: ".toList ++ name ++ " not found\n".toList)
          pure 1)
      0

def type (arguments : List (List Char)) : Run Nat := do
  let s ← get
  let said := arguments.map fun name => s.describe name none true
  printText (said.flatMap (·.1)) (said.foldl (fun status x => status ||| x.2) 0)

def hash (arguments : List (List Char)) : Run Nat := do
  let p ← parseOptions "rv" arguments
  if p.has 'r' then modify fun s => { s with tracked := [] }
  p.rest.foldlM
    (fun (status : Nat) name => do
      let s ← get
      match s.meaning name false s.path with
      | .unknown cause =>
        Run.warn (name ++ ": ".toList ++ startText cause)
        pure 1
      | .file _ =>
        set { s with tracked := name :: s.tracked }
        pure status
      | _ => pure status)
    0

/-! ## The rest -/

/-- The permissions that a mask leaves, in letters. -/
def maskText (mask : Nat) : List Char :=
  let group (name : Char) (shift : Nat) : List Char :=
    let bits := 7 - (mask >>> shift) % 8
    [name, '='] ++ (if bits &&& 4 != 0 then ['r'] else []) ++ (if bits &&& 2 != 0 then ['w'] else []) ++
      (if bits &&& 1 != 0 then ['x'] else [])
  group 'u' 6 ++ [','] ++ group 'g' 3 ++ [','] ++ group 'o' 0

/-- The permissions that a letter stands for, seen from the permissions there are. -/
def permissionBits (permitted : Nat) (letter : Char) : Nat :=
  match letter with
  | 'r' => 4
  | 'w' => 2
  | 'x' => 1
  | 'u' => permitted >>> 6 % 8
  | 'g' => permitted >>> 3 % 8
  | 'o' => permitted % 8
  | 'X' => if permitted &&& 0o111 = 0 then 0 else 1
  | _ => 0

/-- The classes that letters stand for, one bit each in octal. -/
def classBits (letters : List Char) : Nat :=
  letters.foldl
    (fun bits c => bits ||| (([('a', 0o111), ('u', 0o100), ('g', 0o010), ('o', 0o001)].lookup c).getD 0)) 0

/-- Changes permissions as text says, clause by clause. The classes of a clause stay until a comma. The
first argument bounds the number of clauses. -/
def changedPermissions (permitted : Nat) : Nat → Nat → Nat → List Char → Option Nat
  | 0, _, _, _ => none
  | steps + 1, classes, now, cs =>
    if cs.isEmpty then some now
    else
      let letters := cs.takeWhile fun c => "augo".toList.contains c
      let classes := classes ||| classBits letters
      let classes := if classes = 0 then 0o111 else classes
      match cs.drop letters.length with
      | sign :: rest =>
        let permissions := rest.takeWhile fun c => "rwxugoXs".toList.contains c
        let bits := (permissions.foldl (fun b c => b ||| permissionBits permitted c) 0) * classes
        let all := 7 * classes
        let after? :=
          match sign with
          | '+' => some (now ||| bits)
          | '-' => some (now &&& (0o777 ^^^ bits))
          | '=' => some (bits ||| (now &&& (0o777 ^^^ all)))
          | _ => none
        match after?, rest.drop permissions.length with
        | none, _ => none
        | some now, [] => some now
        | some now, ',' :: rest => changedPermissions permitted steps 0 now rest
        | some now, c :: rest =>
          if "=+-".toList.contains c then changedPermissions permitted steps classes now (c :: rest) else none
      | [] => none

/-- A mask after a change of the permissions it leaves. -/
def changedMask (mask : Nat) (text : List Char) : Option Nat :=
  let permitted := 0o777 ^^^ mask
  (changedPermissions permitted (text.length + 1) 0 permitted text).map (0o777 ^^^ ·)

def umask (arguments : List (List Char)) : Run Nat := do
  let p ← parseOptions "S" arguments
  let s ← get
  match p.rest with
  | [] =>
    if p.has 'S' then printText (maskText s.mask ++ ['\n']) 0
    else
      let digits := Nat.toDigits 8 s.mask
      printText (List.replicate (4 - digits.length) '0' ++ digits ++ ['\n']) 0
  | a :: _ =>
    if a.head?.any isNumeral then
      if a.all isOctal then
        set { s with mask := digitsValue 8 (a.map fun (c : Char) => c.toNat - 48) % 512 }
        return 0
      else Run.illegalNumber a
    else
      match changedMask s.mask a with
      | some mask =>
        set { s with mask }
        return 0
      | none => Run.stop ("Illegal mode: ".toList ++ a)

/-- Waits for jobs: all of them, or those that are named. -/
def wait (arguments : List (List Char)) : Run Nat := do
  let p ← parseOptions "" arguments
  if p.rest.isEmpty then
    modify fun s => { s with jobs := s.jobs.map fun j => { j with isWaited := true } }
    return 0
  else
    p.rest.foldlM
      (fun (status : Nat) argument => do
        let number ← if argument.head? = some '%' then Job.number <$> jobAt argument else Run.count argument
        let s ← get
        match s.jobs.find? fun j => j.number == number with
        | none => pure status
        | some j =>
          set { s with jobs := s.jobs.map fun (k : Job) => { k with isWaited := k.isWaited || k.number == number } }
          pure (if j.exitCode < 0 then 128 + j.exitCode.natAbs else j.exitCode.toNat))
      127

/-- Shows or sets a limit. There are none, and none is kept. -/
def ulimit (arguments : List (List Char)) : Run Nat := do
  let p ← parseOptions "HSatfdscmlpnvwr" arguments
  match p.rest with
  | [] => printText "unlimited\n".toList 0
  | [a] =>
    if a = "unlimited".toList || a.all isNumeral then return 0 else Run.stopText "bad number"
  | _ => Run.stopText "too many arguments"

def times (_ : List (List Char)) : Run Nat :=
  printText "0m0.000000s 0m0.000000s\n0m0.000000s 0m0.000000s\n".toList 0

def loopSkip (skip : Skip) (arguments : List (List Char)) : Run Nat := do
  let n ←
    match arguments with
    | a :: _ => do
      let n ← Run.count a
      if n = 0 then Run.illegalNumber a else pure n
    | [] => pure 1
  let s ← get
  let n := min n s.loops
  if 0 < n then set { s with skip, skipCount := n }
  return 0

def returnFrom (arguments : List (List Char)) : Run Nat := do
  let status ←
    match arguments with
    | a :: _ => Run.count a
    | [] => pure (← get).status
  modify fun s => { s with skip := .function }
  return status

def exit (arguments : List (List Char)) : Run Nat := do
  match arguments with
  | a :: _ =>
    let n ← Run.count a
    modify fun s => { s with status := n, savedStatus := some n }
  | [] => modify fun s => { s with status := s.savedStatus.getD s.status }
  throw .ended

def testArguments (isBracket : Bool) (arguments : List (List Char)) : Run Nat := do
  let arguments ←
    if !isBracket then pure arguments
    else if arguments.getLast? = some [']'] then pure arguments.dropLast
    else Run.stopText "missing ]"
  return if ← test arguments then 0 else 1

end Builtin

/-- What a command of the shell does; `none` if it needs more than the state. -/
def simpleBuiltin? (name : String) : Option (List (List Char) → Run Nat) :=
  match name with
  | ":" => some fun _ => return 0
  | "true" => some fun _ => return 0
  | "false" => some fun _ => return 1
  | "echo" => some Builtin.echo
  | "printf" => some Builtin.printf
  | "test" => some (Builtin.testArguments false)
  | "[" => some (Builtin.testArguments true)
  | "cd" => some Builtin.cd
  | "chdir" => some Builtin.cd
  | "pwd" => some Builtin.pwd
  | "export" => some Builtin.exportAll
  | "readonly" => some Builtin.readonlyAll
  | "local" => some Builtin.localAll
  | "unset" => some Builtin.unset
  | "read" => some Builtin.read
  | "set" => some Builtin.setAll
  | "shift" => some Builtin.shift
  | "getopts" => some Builtin.getopts
  | "kill" => some Builtin.kill
  | "trap" => some Builtin.trap
  | "alias" => some Builtin.aliasAll
  | "unalias" => some Builtin.unalias
  | "type" => some Builtin.type
  | "hash" => some Builtin.hash
  | "umask" => some Builtin.umask
  | "times" => some Builtin.times
  | "break" => some (Builtin.loopSkip .leaving)
  | "continue" => some (Builtin.loopSkip .round)
  | "return" => some Builtin.returnFrom
  | "exit" => some Builtin.exit
  | "wait" => some Builtin.wait
  | "jobs" => some fun _ => return 0
  | "fg" => some fun _ => Run.stopText "No current job"
  | "bg" => some fun _ => Run.stopText "No current job"
  | "ulimit" => some Builtin.ulimit
  | _ => none

end SqlTidy.Shell
