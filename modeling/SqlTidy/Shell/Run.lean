import SqlTidy.Shell.Builtins
import SqlTidy.Shell.Reader
import SqlTidy.Shell.Redirect

/-!
# Running commands

Commands run one after the other; parts that run apart leave their effects on files behind. Each
function here takes what runs the commands and expands the words inside its own (`Engine`), so that the
recursion is tied at one place, with a bound on its depth.
-/

namespace SqlTidy.Shell

/-- How a command runs: its failure may be a test, and it may be the last thing its process does. -/
structure Manner where
  isTested : Bool := false
  isLast : Bool := false

/-- What running commands needs. -/
structure Engine where
  /-- Starts the file at a path. -/
  launch : String → Task → Except Cause Halted
  eval : Command → Manner → Run Nat
  word : Expansion → Word → Run (List Atom)

/-- The text for a process that a signal has ended; interrupts are not mentioned. -/
def signalText (signal : Nat) : String :=
  let texts := ["", "Hangup", "", "Quit", "Illegal instruction", "Trace/breakpoint trap", "Aborted",
    "Bus error", "Floating point exception", "Killed", "User defined signal 1", "Segmentation fault",
    "User defined signal 2", "", "Alarm clock", "Terminated", "Stack fault", "Child exited", "Continued",
    "Stopped (signal)", "Stopped", "Stopped (tty input)", "Stopped (tty output)", "Urgent I/O condition",
    "CPU time limit exceeded", "File size limit exceeded", "Virtual timer expired",
    "Profiling timer expired", "Window changed", "I/O possible", "Power failure", "Bad system call"]
  (texts[signal]?).getD ("Real-time signal " ++ toString (signal - 34))

namespace Engine

/-! ## Texts with commands -/

/-- What has been read of a source. -/
def consumed (before after : Source) : List Char :=
  before.text.take (before.text.length - after.text.length)

/-- Runs the commands of a source line by line, until something is to be left out. The first arguments
say whether the last command ends the process, and bound the number of lines. -/
def runLines (g : Engine) (m : Manner) : Nat → Source → Nat → Run Nat
  | 0, _, status => return status
  | steps + 1, source, status => do
    let s ← get
    let (result, after) :=
      { source with aliases := s.aliases, nextDocument := s.nextDocument, documents := [] }.next
    set { s with
      documents := after.documents ++ s.documents
      nextDocument := after.nextDocument
      sourceLine := after.line }
    if s.has 'v' then let _ ← Run.emit 2 (consumed source after)
    match result with
    | .error (line, flaw) =>
      Run.atLine line
      Run.stop ("Syntax error: ".toList ++ flaw.text.toList)
    | .ok none => return status
    | .ok (some .nothing) => runLines g m steps after status
    | .ok (some c) =>
      let isLast := m.isLast && after.isAgain && after.token == .endOfFile
      let status ← g.eval c { m with isLast }
      if (← get).skip = .nothing then runLines g m steps after status else return status

/-- Runs a text. -/
def runText (g : Engine) (m : Manner) (text : List Char) : Run Nat := do
  let line := (← get).sourceLine
  let status ← g.runLines m (text.length + 2) (.ofText text) 0
  modify fun s => { s with sourceLine := line }
  return status

/-- Runs the text of a file; what is left out ends with it. -/
def runFile (g : Engine) (text : List Char) : Run Nat := do
  let status ← g.runText {} text
  modify fun s => if s.skip = .function then { s with skip := .nothing } else s
  return status

/-! ## Signals and ends -/

/-- Runs what is to be done on signals that have come. -/
def answerSignals (g : Engine) : Run Unit := do
  let s ← get
  if s.pending.isEmpty ∨ s.skip ≠ .nothing then pure ()
  else
    let status := s.savedStatus.getD s.status
    set { s with pending := [], savedStatus := some status }
    (s.pending.mergeSort (· ≤ ·)).eraseDups.forM fun signal => do
      match (← get).traps.lookup signal with
      | some action =>
        let _ ← g.runText {} action
        modify fun s => if s.skip = .function then s else { s with status }
      | none => pure ()
    modify fun after => { after with savedStatus := s.savedStatus }

/-- Ends a script: runs what is to be done then. Yields the exit code. -/
def finish (g : Engine) (x : Run Nat) : Run Int := do
  match ← x.attempt with
  | .error (.killed signal) => return -(signal : Int)
  | .error (.replaced exitCode) => return exitCode
  | result =>
    if let .ok status := result then modify fun s => { s with status }
    let s ← get
    let status := s.status
    match s.traps.lookup 0 with
    | none => return status
    | some action =>
      set { s with traps := s.traps.filter (fun t => t.1 ≠ 0), skip := .nothing, savedStatus := some status }
      match ← (g.runText {} action).attempt with
      | .error (.killed signal) => return -(signal : Int)
      | .error (.replaced exitCode) => return exitCode
      | .error .ended => return (← get).status
      | _ => return status

/-- Gives the script the signals that parts running apart have sent it. -/
def takeArrived : Run Unit := do
  let s ← get
  if s.isApart then pure ()
  else
    set { s with arrived := [] }
    s.arrived.forM Builtin.receive

/-- Runs something apart to its end. Yields the exit code. -/
def runApart (g : Engine) (x : Run Nat) : Run Int := do
  let inside : Run Int := do
    modify fun s => { s with traps := s.traps.filter fun t => t.2.isEmpty, pending := [] }
    g.finish x
  let (result, _) ← Run.apart inside
  takeArrived
  return result.toOption.getD 2

/-- The status of a process that has ended; a signal that ended it is mentioned. -/
def statusOf (exitCode : Int) : Run Nat := do
  if exitCode < 0 then
    let signal := exitCode.natAbs
    if signal ≠ 2 ∧ signal ≠ 13 then
      let _ ← Run.emit 2 ((signalText signal).toList ++ ['\n'])
    return 128 + signal
  else return exitCode.toNat % 256

/-- What commands write, without ends of lines behind it. -/
def substitute (g : Engine) (body : Command) : Run (List Char) := do
  if body matches .nothing then return []
  else
    let s ← get
    let (system, reading, writing) := s.system.addPipe []
    set { s with system }
    let code ← g.runApart do
      modify (·.lead (1, some writing))
      g.eval body { isLast := true }
    let status ← statusOf code
    let s ← get
    let written := ofOctets ((s.system.readable reading).toOption.getD [])
    set { s with substitutionStatus := status, system := s.system.consume reading written.length }
    return ((written.filter (· != '\x00')).reverse.dropWhile (· == '\n')).reverse

def expander (g : Engine) : Expander := ⟨g.word, g.substitute⟩

/-! ## Programs -/

/-- Starts a file, as a script if it is in no format of its own. -/
def launchFile (g : Engine) (path : String) (arguments : List (List Char)) : Run (Except Cause Int) := do
  let s ← get
  let task : Task :=
    { arguments := arguments.map toText
      environment := s.environment
      descriptors := s.descriptors
      system := s.system
      mask := s.mask
      ignored := s.ignored ++ (s.traps.filter fun t => t.2.isEmpty).map (·.1) }
  let result :=
    match g.launch path task with
    | .error .badFormat =>
      g.launch "/bin/sh" { task with arguments := "/bin/sh" :: path :: task.arguments.tail }
    | result => result
  match result with
  | .ok halted =>
    let tree := { halted.system.tree with here := s.system.tree.here }
    set { s.forgetJobs with system := { halted.system with tree } }
    return .ok halted.exitCode
  | .error cause => return .error cause

/-- The status if a program could not be started. -/
def refusedStatus (cause : Cause) : Nat :=
  if cause ∈ [.noEntry, .notDirectory, .tooManyLinks, .nameTooLong] then 127 else 126

/-- Becomes the program at a path. -/
def become {α : Type} (g : Engine) (path : String) (arguments : List (List Char)) : Run α := do
  match ← g.launchFile path arguments with
  | .ok exitCode => throw (.replaced exitCode)
  | .error cause =>
    Run.warn ((arguments.headD []) ++ ": ".toList ++ startText cause)
    modify fun s => { s with status := refusedStatus cause }
    throw .ended

/-- Runs the program at a path and waits for it. -/
def runProgram (g : Engine) (m : Manner) (path : String) (arguments : List (List Char)) : Run Nat := do
  let s ← get
  let name := arguments.headD []
  if !name.contains '/' then modify fun s => { s with tracked := name :: s.tracked }
  if m.isLast && !s.traps.any (fun t => !t.2.isEmpty) then g.become path arguments
  else
    match ← g.launchFile path arguments with
    | .ok exitCode => statusOf exitCode
    | .error cause =>
      Run.warn (name ++ ": ".toList ++ startText cause)
      return refusedStatus cause

/-! ## Commands of the shell that run others -/

/-- The search path for the standard programs. -/
def standardPath : String := "/usr/local/sbin:/usr/local/bin:/usr/sbin:/usr/bin:/sbin:/bin"

/-- The command that is looked up or run without functions. -/
def commandBuiltin (arguments : List (List Char)) : Run Nat := do
  let p ← parseOptions "pvV" arguments
  match p.rest with
  | [] => return 0
  | name :: _ =>
    if p.has 'v' || p.has 'V' then
      let (text, status) := (← get).describe name (if p.has 'p' then some standardPath else none) (p.has 'V')
      printText text status
    else return 0

/-- The file that a script is read from in the middle of another. -/
def dotFile (name : List Char) : Run String := do
  if name.contains '/' then return toText name
  else
    let s ← get
    let files := (searchDirectories s.path).map (inDirectory · (toText name))
    match files.find? s.system.tree.isFile with
    | some file => return file
    | none => Run.stop (name ++ ": not found".toList)

def dotBuiltin (g : Engine) (arguments : List (List Char)) : Run Nat := do
  let p ← parseOptions "" arguments
  match p.rest with
  | [] => return 0
  | name :: _ =>
    let file ← dotFile name
    let s ← get
    match s.system.openPath s.descriptors file .reading with
    | .error cause => Run.stop ("cannot open ".toList ++ ofText (file ++ ": " ++ openingText cause))
    | .ok (system, number) =>
      let content := (system.readable number).toOption.getD []
      modify fun s => { s with commandName := some (ofText file) }
      g.runFile (ofOctets content)

def execBuiltin (g : Engine) (arguments : List (List Char)) : Run Nat := do
  let p ← parseOptions "" arguments
  match p.rest with
  | [] => return 0
  | name :: _ =>
    let s ← get
    let file : Except Cause String :=
      if name.contains '/' then .ok (toText name) else searchFile s.system.tree s.path (toText name)
    match file with
    | .ok file => g.become file p.rest
    | .error cause =>
      Run.warn (name ++ ": ".toList ++ startText cause)
      modify fun s => { s with status := refusedStatus cause }
      throw .ended

def evalBuiltin (g : Engine) (m : Manner) (arguments : List (List Char)) : Run Nat := do
  if arguments.isEmpty then return 0
  else g.runText { isTested := m.isTested } ((arguments.intersperse [' ']).flatten)

/-- Runs a command of the shell under its name. -/
def runBuiltin (g : Engine) (m : Manner) (name : List Char) (arguments : List (List Char)) : Run Nat := do
  let before := (← get).commandName
  modify fun s => { s with commandName := some name }
  let body : Run Nat :=
    match String.ofList name with
    | "eval" => g.evalBuiltin m arguments
    | "." => g.dotBuiltin arguments
    | "exec" => g.execBuiltin arguments
    | "command" => commandBuiltin arguments
    | text => ((simpleBuiltin? text).getD fun _ => return 127) arguments
  let status ← tryCatch body fun stop => do
    modify fun s => { s with commandName := before }
    throw stop
  modify fun s => { s with commandName := before, status }
  return status

/-! ## Simple commands -/

/-- The depth to which functions may call functions. -/
def callLimit : Nat := 1000

/-- Calls a function. -/
def call (g : Engine) (m : Manner) (f : Function) (arguments : List (List Char)) : Run Nat := do
  let s ← get
  if callLimit ≤ s.calls then
    Run.stop (("Maximum function recursion depth (" ++ toString callLimit ++ ") reached").toList)
  else
    set { s with parameters := arguments, optionPlace := {}, loops := 0, calls := s.calls + 1 }
    let back (after : State) : State :=
      { after with
        parameters := s.parameters
        optionPlace := s.optionPlace
        loops := s.loops
        calls := s.calls
        skip := if after.skip = .function then .nothing else after.skip }
    let _ ← tryCatch (g.eval f { isTested := m.isTested }) fun stop => do
      modify back
      throw stop
    modify back
    return (← get).status

/-- A simple command whose name is being found. -/
structure Prepared where
  fields : List (List Char)
  rest : List Word
  skipsFunctions : Bool := false
  path : Option String := none
  /-- Whether the first command of the shell is special. -/
  isSpecial : Option Bool := none

/-- Expands words until there are fields. -/
def fill (g : Engine) : List Word → Run (List (List Char) × List Word)
  | [] => return ([], [])
  | word :: rest => do
    let fields ← g.expander.fields word
    if fields.isEmpty then fill g rest else return (fields, rest)

/-- What follows a command that is to run without functions. If it asks for something else, the command
as it was, with all that has been expanded meanwhile. `passed` are the fields before, and the first
argument bounds the number of fields. -/
def behindCommand (g : Engine) : Nat → List (List Char) → Prepared → Run (Except Prepared Prepared)
  | 0, _, p => return .error p
  | steps + 1, passed, p => do
    let passed := passed ++ p.fields.take 1
    let (fields, rest) ←
      match p.fields.tail with
      | [] => g.fill p.rest
      | fields => pure (fields, p.rest)
    let given := { p with fields := passed ++ fields, rest }
    let p := { p with fields, rest }
    match fields with
    | [] => return .error given
    | ['-', '-'] :: fields =>
      let (fields, rest) ← if fields.isEmpty then g.fill rest else pure (fields, rest)
      return if fields.isEmpty then .error { given with rest } else .ok { p with fields, rest }
    | ('-' :: c :: cs) :: _ =>
      if (c :: cs).all (· == 'p') then behindCommand g steps passed { p with path := some standardPath }
      else return .error given
    | _ => return .ok p

/-- Finds the name of a simple command. The first argument bounds how often it is put off. -/
def prepare (g : Engine) : Nat → Prepared → Run Prepared
  | 0, p => return p
  | steps + 1, p => do
    match p.fields with
    | [] => return p
    | name :: _ =>
      let s ← get
      match s.meaning name p.skipsFunctions s.path with
      | .builtin isSpecial =>
        let first := { p with isSpecial := some (p.isSpecial.getD isSpecial) }
        if name ≠ "command".toList then return first
        else
          match ← g.behindCommand (p.fields.length + p.rest.length + 1) [] first with
          | .ok behind => prepare g steps { behind with skipsFunctions := true }
          | .error first => return first
      | _ => return p

/-- Expands the rest of a command's words. -/
def expandRest (g : Engine) (assigns : Bool) : List Word → Run (List (List Char))
  | [] => return []
  | word :: rest => do
    let first ←
      if assigns && isAssignment word then (fun cs => [cs]) <$> g.expander.text { assigns := true } word
      else g.expander.fields word
    return first ++ (← expandRest g assigns rest)

/-- Prints a command before it runs, if that is asked for. -/
def trace (g : Engine) (lead : Option Nat) (assignments arguments : List (List Char)) : Run Unit := do
  let s ← get
  if !s.has 'x' || s.inPrompt then pure ()
  else
    let source := Source.ofText ((s.valueOf? "PS4".toList).getD [])
    set { s with inPrompt := true }
    let prompt ←
      match (Reading.readPrompt source.bound).run source with
      | (.ok word, _) => g.expander.text { isQuoted := true } word
      | (.error _, _) => pure source.text
    modify fun s => { s with inPrompt := false }
    let text := prompt ++ ((assignments ++ arguments).intersperse [' ']).flatten ++ ['\n']
    modify fun s =>
      match lead with
      | some number =>
        match s.system.write number (toOctets text) with
        | .ok system => { s with system }
        | .error _ => s
      | none => s

/-- Makes the assignments of a command. -/
def assignAll (g : Engine) (isLocal exports : Bool) : List Word → Run (List (List Char))
  | [] => return []
  | word :: rest => do
    let text ← g.expander.text { assigns := true } word
    let name := text.takeWhile (· != '=')
    let value := text.drop (name.length + 1)
    if isLocal then Builtin.keepLocal name
    Run.assign name value (isLocal || exports)
    return text :: (← assignAll g isLocal exports rest)

/-- Runs what a name means. -/
def runMeaning (g : Engine) (m : Manner) (p : Prepared) (arguments : List (List Char)) : Run Nat := do
  match arguments with
  | [] => return (← get).substitutionStatus
  | name :: rest =>
    let s ← get
    match s.meaning name p.skipsFunctions (p.path.getD s.path) with
    | .builtin _ =>
      tryCatch (g.runBuiltin m name rest) fun stop =>
        if stop = .complaint ∧ p.isSpecial ≠ some true then return (← get).status else throw stop
    | .function f => g.call m f rest
    | .file file => g.runProgram m file arguments
    | .unknown cause =>
      Run.warn (name ++ ": ".toList ++ startText cause)
      return 127

/-- Runs a simple command. -/
def runSimple (g : Engine) (m : Manner) (line : Nat) (assignments words : List Word)
    (redirects : List Redirect) : Run Nat := do
  Run.atLine line
  modify fun s => { s with substitutionStatus := 0 }
  let (fields, rest) ← g.fill words
  let p ← g.prepare (words.length + 2) { fields, rest }
  let name := String.ofList (p.fields.headD [])
  let arguments := p.fields ++ (← g.expandRest (p.isSpecial.isSome && name ∈ assigningBuiltins) p.rest)
  let isLocal := !arguments.isEmpty && p.isSpecial != some true
  let isExec := p.isSpecial.isSome && name == "exec"
  let depth := (← get).locals.length
  if isLocal then modify fun s => { s with locals := [] :: s.locals }
  let rs ← Directed.ofAll g.expander redirects
  let before ← get
  let leads := Directed.leads before rs
  let back : Run Unit := do
    if !isExec then modify (·.leadBack leads)
  let refused ← tryCatch (rs.forM (Directed.apply g.expander) *> pure false) fun stop => do
    modify (·.leadBack leads)
    if stop = .complaint then return true else throw stop
  if refused then
    modify fun s => { s with status := 2 }
    if p.isSpecial = some true then throw .complaint
    else
      Builtin.unwindTo depth
      return 2
  else
    let body : Run Nat := do
      let assigned ← g.assignAll isLocal (isExec && 1 < arguments.length) assignments
      g.trace (before.descriptors.lookup 2) assigned arguments
      g.runMeaning m p arguments
    let status ← tryCatch body fun stop => do
      back
      throw stop
    back
    Builtin.unwindTo depth
    return status

/-! ## Compound commands -/

/-- What a loop does next: the next round, or its end. -/
def skipLoop : Run Bool := do
  let s ← get
  match s.skip with
  | .nothing => return true
  | .function => return false
  | skip =>
    if s.skipCount ≤ 1 then
      set { s with skip := .nothing, skipCount := 0 }
      return skip == .round
    else
      set { s with skip, skipCount := s.skipCount - 1 }
      return false

/-- Runs something as part of a loop. -/
def inLoop (x : Run Nat) : Run Nat := do
  modify fun s => { s with loops := s.loops + 1 }
  let status ← x
  modify fun s => { s with loops := s.loops - 1 }
  return status

/-- Runs a body as long as a test comes out as wanted. The first argument bounds the number of rounds. -/
def rounds (g : Engine) (m : Manner) (whileTrue : Bool) (test body : Command) : Nat → Nat → Run Nat
  | 0, status => return status
  | steps + 1, status => do
    let tested ← g.eval test { isTested := true }
    let s ← get
    if s.skip ≠ .nothing then
      if ← skipLoop then rounds g m whileTrue test body steps status
      else return if s.skip = .function then tested else status
    else if (tested == 0) != whileTrue then return status
    else
      let status ← g.eval body { isTested := m.isTested }
      if ← skipLoop then rounds g m whileTrue test body steps status else return status

/-- Runs a body for each of several values. -/
def runEach (g : Engine) (m : Manner) (name : List Char) (body : Command) :
    List (List Char) → Nat → Run Nat
  | [], status => return status
  | value :: rest, _ => do
    Run.assign name value false
    let status ← g.eval body { isTested := m.isTested }
    if ← skipLoop then runEach g m name body rest status else return status

/-- Whether a text fits one of several patterns. -/
def fitsAny (g : Engine) (subject : List Char) : List Word → Run Bool
  | [] => return false
  | word :: rest => do
    let pattern := patternOf (← g.word { startsHome := true } word)
    if fits pattern subject then return true else fitsAny g subject rest

/-- Runs the first arm that fits. -/
def runArms (g : Engine) (m : Manner) (subject : List Char) : List (List Word × Command) → Run Nat
  | [] => return 0
  | (patterns, body) :: rest => do
    if ← g.fitsAny subject patterns then
      if body matches .nothing then return 0 else g.eval body m
    else runArms g m subject rest

/-- Runs the parts of a pipeline one after the other, each with what the one before has written. -/
def runPipeline (g : Engine) (m : Manner) : Option Nat → Nat → List Command → Run Nat
  | _, status, [] => return status
  | input, _, part :: rest => do
    let s ← get
    let (system, reading, writing) := s.system.addPipe []
    if !rest.isEmpty then set { s with system }
    let code ← g.runApart do
      if let some number := input then modify (·.lead (0, some number))
      if !rest.isEmpty then modify (·.lead (1, some writing))
      g.eval part { m with isLast := true }
    let status ← statusOf code
    g.runPipeline m (some reading) status rest

/-- Runs a body apart, with redirections. -/
def runSubshell (g : Engine) (m : Manner) (body : Command) (rs : List Directed) : Run Int :=
  g.runApart do
    rs.forM (Directed.apply g.expander)
    g.eval body { m with isLast := true }

/-- Runs something without waiting for it; its input is empty. -/
def runBackground (x : Run Int) : Run Nat := do
  let s ← get
  let (system, number) := s.system.add ⟨.nothing, 0, true, true, false⟩
  set ({ s with system }.lead (0, some number))
  let exitCode ← x
  modify fun after =>
    let number := (after.lastJob.getD ownNumber) + 1
    { after.lead (0, s.descriptors.lookup 0) with
      jobs := after.jobs ++ [{ number, exitCode }]
      lastJob := some number }
  return 0

/-- A bound on the rounds of a loop. -/
def roundLimit : Nat := 1000000

/-- Runs a command. Yields its status, and whether a failure ends the script. -/
def step (g : Engine) (c : Command) (m : Manner) : Run (Nat × Bool) := do
  match c with
  | .nothing => return (0, false)
  | .simple line assignments words redirects =>
    return (← g.runSimple m line assignments words redirects, true)
  | .pipeline inBackground parts =>
    if inBackground then
      let whole : Run Int := do
        let status ← g.runPipeline { isTested := false } none 0 parts
        return status
      return (← runBackground whole, true)
    else return (← g.runPipeline m none 0 parts, true)
  | .redirected line body redirects =>
    Run.atLine line
    let rs ← Directed.ofAll g.expander redirects
    let leads := Directed.leads (← get) rs
    let refused ← tryCatch (rs.forM (Directed.apply g.expander) *> pure false) fun stop => do
      modify (·.leadBack leads)
      if stop = .complaint then return true else throw stop
    if refused then return (2, true)
    else
      let status ← tryCatch (g.eval body { isTested := m.isTested }) fun stop => do
        modify (·.leadBack leads)
        throw stop
      modify (·.leadBack leads)
      return (status, false)
  | .subshell line body redirects =>
    Run.atLine line
    let rs ← Directed.ofAll g.expander redirects
    let code ← g.runSubshell m body rs
    return (← statusOf code, true)
  | .background line body redirects =>
    Run.atLine line
    let rs ← Directed.ofAll g.expander redirects
    return (← runBackground (g.runSubshell {} body rs), true)
  | .sequence first second =>
    let status ← g.eval first { isTested := m.isTested }
    if (← get).skip ≠ .nothing then return (status, false) else return (← g.eval second m, false)
  | .conjunction first second =>
    let status ← g.eval first { isTested := true }
    if status ≠ 0 ∨ (← get).skip ≠ .nothing then return (status, false)
    else return (← g.eval second m, false)
  | .disjunction first second =>
    let status ← g.eval first { isTested := true }
    if status = 0 ∨ (← get).skip ≠ .nothing then return (status, false)
    else return (← g.eval second m, false)
  | .negation body =>
    let status ← g.eval body { isTested := true }
    return (if status = 0 then 1 else 0, false)
  | .conditional test positive negative =>
    let status ← g.eval test { isTested := true }
    if (← get).skip ≠ .nothing then return (status, false)
    else if status = 0 then return (← g.eval positive m, false)
    else return (← g.eval negative m, false)
  | .loop whileTrue test body =>
    return (← inLoop (g.rounds m whileTrue test body roundLimit 0), false)
  | .forEach line name words body =>
    Run.atLine line
    let values ← g.expander.allFields words
    return (← inLoop (g.runEach m name body values 0), false)
  | .cases line subject arms =>
    Run.atLine line
    let text ← g.expander.text { startsHome := true } subject
    return (← g.runArms m text arms, false)
  | .function name body =>
    modify fun s => { s with functions := (name, body) :: s.functions.filter fun f => f.1 ≠ name }
    return (0, false)

/-- Runs a command: signals are answered before and behind it, and a failure may end the script. -/
def evaluate (g : Engine) (c : Command) (m : Manner) : Run Nat := do
  if (← get).has 'n' then return 0
  else
    g.answerSignals
    let (status, checks) ← g.step c m
    modify fun s => { s with status }
    g.answerSignals
    if checks && status ≠ 0 && !m.isTested && (← get).has 'e' then throw .ended
    return (← get).status

end Engine

mutual

/-- Runs a command, commands inside it at most so deep. -/
def evalWith (launch : String → Task → Except Cause Halted) : Nat → Command → Manner → Run Nat
  | 0, _, _ => throw (.killed 11)
  | depth + 1, c, m => Engine.evaluate ⟨launch, evalWith launch depth, expandWith launch depth⟩ c m

/-- Expands a word, words inside it at most so deep. -/
def expandWith (launch : String → Task → Except Cause Halted) : Nat → Expansion → Word → Run (List Atom)
  | 0, _, _ => throw (.killed 11)
  | depth + 1, x, word =>
    Expander.expand
      ⟨expandWith launch depth,
        Engine.substitute ⟨launch, evalWith launch depth, expandWith launch depth⟩⟩ x word

end

/-- The depth to which commands may nest. -/
def depthLimit : Nat := 100000

/-- What runs scripts. -/
def engine (launch : String → Task → Except Cause Halted) : Engine :=
  ⟨launch, evalWith launch depthLimit, expandWith launch depthLimit⟩

end SqlTidy.Shell
