import SqlTidy.Crash
import SqlTidy.Process.Basic

/-!
# Finding a program by name

A name without a slash is looked for in the directories of the search path. `findProgram` looks for a
file that could be started; `candidates` lists the files to try when it comes to starting.
-/

namespace SqlTidy

/-- The pieces of a text between its colons. -/
def splitColons : List Char → List (List Char)
  | [] => [[]]
  | ':' :: rest => [] :: splitColons rest
  | c :: rest =>
    match splitColons rest with
    | first :: more => (c :: first) :: more
    | [] => [[c]]

/-- The directories of a search path. -/
def searchDirectories (path : String) : List String := (splitColons path.toList).map String.ofList

/-- A name in a directory; no directory is the current one. -/
def inDirectory (directory name : String) : String :=
  if directory = "" ∨ directory.toList.getLast? = some '/' then directory ++ name
  else directory ++ "/" ++ name

def hasSlash (name : String) : Bool := name.toList.contains '/'

/-- A file that could be started. -/
def isStartable (t : FileTree) (path : String) : Bool :=
  match t.find path with
  | .ok (_, .file _ mode) => mode &&& FileTree.executeBits != 0
  | _ => false

/-- The search path where none is set. -/
def defaultSearchPath : String := "/bin:/usr/bin"

def searchPath (env : Entries String) : String := (Entries.get? env "PATH").getD defaultSearchPath

/-- The file that a name stands for; a name with a slash stands for itself. -/
def findProgram (t : FileTree) (env : Entries String) (name : String) : Option String :=
  if hasSlash name then if isStartable t name then some name else none
  else if searchPath env = "" then none
  else ((searchDirectories (searchPath env)).map (inDirectory · name)).find? (isStartable t)

/-- The files to try for a name, in this order. -/
def candidates (env : Entries String) (name : String) : List String :=
  if hasSlash name then [name]
  else (searchDirectories (searchPath env)).map (inDirectory · name)

/-- Starts the first of several files that can be started. If none can, the first failure other than
a missing file counts. -/
def startFirst (starter : Starter) (p : Process) : Option Cause → Cause → List String → Except Cause Ended
  | saved, last, [] => .error (saved.getD last)
  | saved, _, path :: rest =>
    match starter path p with
    | .ok ended => .ok ended
    | .error cause =>
      let counts := cause ≠ .noEntry ∧ cause ≠ .notDirectory
      startFirst starter p (saved <|> (if counts then some cause else none)) cause rest

/-- What is needed to start a program from here. -/
structure Launch where
  programs : Programs
  /-- The directory to start in, if not the current one. -/
  directory : Option Path
  environment : Entries String

/-- Why a program could not be started: its directory or its file was refused, or the start was not
even tried. -/
inductive LaunchError where
  | directory (cause : Cause)
  | program (cause : Cause)
  | crash (crash : Crash)

/-- What makes a start impossible from the outset: an equals sign in the name of a variable, or a NUL
anywhere. -/
def Launch.obstacle? (l : Launch) (name : String) (arguments : List String) : Option Crash :=
  if l.environment.any fun (key, _) => key.toList.contains '=' then some .variableName
  else if (name :: arguments ++ (l.directory.map Path.text).toList).any hasNul ||
      l.environment.any fun (key, v) => hasNul key || hasNul v then some .nul
  else none

/-- The tree as seen from another directory. -/
def enter (t : FileTree) (directory : Option Path) : Except Cause FileTree :=
  match directory with
  | none => .ok t
  | some d => do
    match ← t.find d.text with
    | (position, .directory) => return { t with here := position }
    | _ => .error .notDirectory

/-- Runs a program by name and comes back to the current directory. -/
def Launch.run (l : Launch) (name : String) (arguments : List String) (input : Octets) (t : FileTree) :
    Except LaunchError Ended :=
  match l.obstacle? name arguments, enter t l.directory with
  | some crash, _ => .error (.crash crash)
  | none, .error cause => .error (.directory cause)
  | none, .ok inside =>
    match startFirst (start l.programs) ⟨name :: arguments, l.environment, input, inside⟩
        none .noEntry (candidates l.environment name) with
    | .error cause => .error (.program cause)
    | .ok ended => .ok { ended with tree := { ended.tree with here := t.here } }

end SqlTidy
