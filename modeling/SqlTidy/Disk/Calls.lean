import SqlTidy.Disk.Tree

/-!
# Calls on a file tree

Each call either yields the tree after it or is refused and leaves the tree alone.
-/

namespace SqlTidy.FileTree

/-- The entry that a path leads to, links followed. -/
def find (t : FileTree) (path : String) : Except Cause (Position × Entry) := do
  match ← t.walk true path with
  | .taken p e => return (p, e)
  | .free _ => .error .noEntry

/-- What a path leads to, if to anything. Only a path that leads nowhere for sure leads to nothing: any
other refusal is an error. -/
def probe (t : FileTree) (path : String) : Except IoError (Option Entry) :=
  if hasNul path then .ok none
  else
    match t.find path with
    | .ok (_, entry) => .ok (some entry)
    | .error cause =>
      if cause ∈ [.noEntry, .notDirectory, .tooManyLinks] then .ok none else .error ⟨cause, some path⟩

def contains (t : FileTree) (path : String) : Except IoError Bool := return (← t.probe path).isSome

/-- As `contains`, but a path that is refused for whatever reason leads to nothing. -/
def leads (t : FileTree) (path : String) : Bool := (t.find path).toOption.isSome

def isFile (t : FileTree) (path : String) : Bool :=
  match t.find path with
  | .ok (_, .file _ _) => true
  | _ => false

def isDirectory (t : FileTree) (path : String) : Bool :=
  match t.find path with
  | .ok (_, .directory) => true
  | _ => false

/-- The content of a file. -/
def read (t : FileTree) (path : String) : Except Cause Octets := do
  match ← t.find path with
  | (_, .file content _) => return content
  | _ => .error .isDirectory

/-- A path without slashes at its end. -/
def dropSlashes (path : String) : String :=
  String.ofList (path.toList.reverse.dropWhile (· == '/')).reverse

/-- Creates a directory. -/
def makeDirectory (t : FileTree) (path : String) : Except Cause FileTree := do
  match ← t.walk false (if (namesOf path).isEmpty then path else dropSlashes path) with
  | .taken _ _ => .error .alreadyThere
  | .free p => return t.set p .directory

/-- The mode of a new file. -/
def plainMode : Nat := 0o644

/-- Opens a path for writing and yields where the file is, or could be. Nothing can be written to a path with a
slash at its end, whatever it leads to. -/
def target (t : FileTree) (path : String) : Except Cause (Position × Octets × Nat) := do
  if endsInSlash path then
    if !(namesOf path).isEmpty then let _ ← t.walk false (dropSlashes path)
    .error .isDirectory
  else
    match ← t.walk true path with
    | .taken p (.file content mode) =>
      match t.refusals.lookup p with
      | some cause => .error cause
      | none => return (p, content, mode)
    | .taken _ _ => .error .isDirectory
    | .free p => return (p, [], plainMode)

/-- Why the file that a path leads to cannot be opened for writing, if there is a file and it cannot. -/
def refusal? (t : FileTree) (path : String) : Option Cause :=
  match t.find path with
  | .ok (p, .file _ _) => t.refusals.lookup p
  | _ => none

/-- Gives a file a new content, creating it if it is not there. -/
def write (t : FileTree) (path : String) (content : Octets) : Except Cause FileTree := do
  let (p, _, mode) ← t.target path
  return t.set p (.file content mode)

/-- Adds octets at the end of a file that is open for writing already, so that nothing is refused any more. -/
def append (t : FileTree) (path : String) (octets : Octets) : Except Cause FileTree := do
  match ← t.find path with
  | (p, .file content mode) => return t.set p (.file (content ++ octets) mode)
  | _ => .error .isDirectory

/-- Creates a file where nothing is yet, not even a link. -/
def create (t : FileTree) (path : String) (mode : Nat) : Except Cause FileTree := do
  match ← t.walk false path with
  | .taken _ _ => .error .alreadyThere
  | .free p => return t.set p (.file [] mode)

/-- Removes a file or a link. -/
def remove (t : FileTree) (path : String) : Except Cause FileTree := do
  match ← t.walk false path with
  | .taken _ .directory => .error .isDirectory
  | .taken p _ => return t.erase p
  | .free _ => .error .noEntry

/-- Adds permissions to a file; a directory has all of them. -/
def permit (t : FileTree) (path : String) (bits : Nat) : Except Cause FileTree := do
  match ← t.find path with
  | (p, .file content mode) => return t.set p (.file content (mode ||| bits))
  | _ => return t

/-- The permission of all to execute a file. -/
def executeBits : Nat := 0o111

/-- Creates a link. -/
def makeLink (t : FileTree) (path target : String) : Except Cause FileTree := do
  match ← t.walk false path with
  | .taken _ _ => .error .alreadyThere
  | .free p => return t.set p (.link target)

end SqlTidy.FileTree
