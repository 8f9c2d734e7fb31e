import SqlTidy.Process.Basic

/-!
# Open files

A descriptor leads to an open file, which several descriptors of several processes may share: a file of
the tree with a place in it, a directory, a pipe, or the device that keeps nothing. Processes run one
after the other, so a pipe just holds what has been written to it and not yet been read.
-/

namespace SqlTidy.Shell

/-- What an open file is. -/
inductive Channel where
  | file (position : Position)
  | directory
  | pipe (number : Nat)
  | nothing
deriving DecidableEq, Repr

structure OpenFile where
  channel : Channel
  place : Nat
  canRead : Bool
  canWrite : Bool
  /-- Whether all that is written goes to the end. -/
  appends : Bool
deriving DecidableEq, Repr

/-- The tree, the open files by number and what is in the pipes. -/
structure System where
  tree : FileTree
  files : List OpenFile
  pipes : List Octets

/-- The open file that each descriptor leads to. -/
abbrev Descriptors := List (Nat × Nat)

/-- How a file is opened. -/
structure Access where
  reads : Bool
  writes : Bool
  /-- Whether a file is made where there is none. -/
  creates : Bool
  empties : Bool
  appends : Bool
  /-- Whether there must be no file yet. -/
  isFresh : Bool := false

namespace Access

def reading : Access := ⟨true, false, false, false, false, false⟩

def writing : Access := ⟨false, true, true, true, false, false⟩

def appending : Access := ⟨false, true, true, false, true, false⟩

def both : Access := ⟨true, true, true, false, false, false⟩

/-- Writing to a file that must not be there yet. -/
def fresh : Access := ⟨false, true, true, false, false, true⟩

end Access

/-- Places of the tree that stand for something else. -/
inductive Device where
  | null
  | terminal
  | descriptor (number : Nat)
deriving DecidableEq, Repr

/-- The device at a position. -/
def deviceAt (position : Position) : Option Device :=
  match position with
  | ["null", "dev"] => some .null
  | ["tty", "dev"] => some .terminal
  | ["stdin", "dev"] => some (.descriptor 0)
  | ["stdout", "dev"] => some (.descriptor 1)
  | ["stderr", "dev"] => some (.descriptor 2)
  | [n, "fd", "dev"] => descriptor? n
  | [n, "fd", "self", "proc"] => descriptor? n
  | _ => none
where
  /-- A descriptor by its number. -/
  descriptor? (name : String) : Option Device :=
    if name.toList.all Char.isDigit then name.toNat?.map .descriptor else none

namespace System

def file? (s : System) (number : Nat) : Option OpenFile := s.files[number]?

/-- Adds an open file; yields its number. -/
def add (s : System) (f : OpenFile) : System × Nat :=
  ({ s with files := s.files ++ [f] }, s.files.length)

/-- Adds a pipe; yields the numbers of the open files to read from it and to write to it. -/
def addPipe (s : System) (content : Octets) : System × Nat × Nat :=
  let pipe : Channel := .pipe s.pipes.length
  let (s, reading) := { s with pipes := s.pipes ++ [content] }.add ⟨pipe, 0, true, false, false⟩
  let (s, writing) := s.add ⟨pipe, 0, false, true, false⟩
  (s, reading, writing)

def setPlace (s : System) (number : Nat) (f : OpenFile) (place : Nat) : System :=
  { s with files := s.files.set number { f with place } }

def contentAt (s : System) (position : Position) : Octets :=
  match s.tree.at? position with
  | some (.file content _) => content
  | _ => []

/-- What can be read from an open file now. -/
def readable (s : System) (number : Nat) : Except Cause Octets :=
  match s.file? number with
  | none => .error .badDescriptor
  | some f =>
    if !f.canRead then .error .badDescriptor
    else
      match f.channel with
      | .file position => .ok ((s.contentAt position).drop f.place)
      | .directory => .error .isDirectory
      | .pipe n => .ok (s.pipes[n]?.getD [])
      | .nothing => .ok []

/-- Passes over octets that have been read. -/
def consume (s : System) (number count : Nat) : System :=
  match s.file? number with
  | none => s
  | some f =>
    match f.channel with
    | .file _ => s.setPlace number f (f.place + count)
    | .pipe n => { s with pipes := s.pipes.set n ((s.pipes[n]?.getD []).drop count) }
    | _ => s

/-- A content with octets written over it from a place on. -/
def overwrite (content : Octets) (place : Nat) (bs : Octets) : Octets :=
  content.take place ++ List.replicate (place - content.length) 0 ++ bs ++ content.drop (place + bs.length)

/-- Writes octets to an open file. -/
def write (s : System) (number : Nat) (bs : Octets) : Except Cause System :=
  match s.file? number with
  | none => .error .badDescriptor
  | some f =>
    if !f.canWrite then .error .badDescriptor
    else
      match f.channel with
      | .nothing => .ok s
      | .directory => .error .isDirectory
      | .pipe n => .ok { s with pipes := s.pipes.set n (s.pipes[n]?.getD [] ++ bs) }
      | .file position =>
        match s.tree.at? position with
        | some (.file content mode) =>
          let place := if f.appends then content.length else f.place
          let written := { s with tree := s.tree.set position (.file (overwrite content place bs) mode) }
          .ok (written.setPlace number f (place + bs.length))
        | _ => .ok s

/-- Opens what another open file leads to once more. -/
def reopen (s : System) (number : Nat) (a : Access) : Except Cause (System × Nat) :=
  match s.file? number with
  | none => .error .noEntry
  | some f =>
    let again (s : System) : System × Nat := s.add ⟨f.channel, 0, a.reads, a.writes, a.appends⟩
    match f.channel with
    | .file position =>
      match s.tree.at? position, s.tree.refusals.lookup position with
      | some (.file content mode), refusal =>
        match refusal.filter fun _ => a.writes with
        | some cause => .error cause
        | none =>
          let content := if a.empties then [] else content
          .ok (again { s with tree := s.tree.set position (.file content mode) })
      | _, _ => .ok (again s)
    | .directory => if a.writes then .error .isDirectory else .ok (again s)
    | _ => .ok (again s)

/-- Opens the file at a path. -/
def openPath (s : System) (descriptors : Descriptors) (path : String) (a : Access) :
    Except Cause (System × Nat) := do
  if a.creates && endsInSlash path then let _ ← s.tree.target path
  let spot ← s.tree.walk true path
  let position :=
    match spot with
    | .taken p _ => p
    | .free p => p
  match deviceAt position with
  | some .null => return s.add ⟨.nothing, 0, a.reads, a.writes, false⟩
  | some .terminal => throw .noDevice
  | some (.descriptor n) =>
    match descriptors.lookup n with
    | some number => s.reopen number a
    | none => throw .noEntry
  | none =>
    match spot with
    | .taken _ .directory =>
      if a.writes then throw .isDirectory else return s.add ⟨.directory, 0, true, false, false⟩
    | .taken _ (.link _) => throw .tooManyLinks
    | .taken p (.file content mode) =>
      if a.isFresh then throw .alreadyThere
      else
        if a.writes then let _ ← s.tree.target path
        let s := { s with tree := s.tree.set p (.file (if a.empties then [] else content) mode) }
        return s.add ⟨.file p, 0, a.reads, a.writes, a.appends⟩
    | .free _ =>
      if !a.creates then throw .noEntry
      else
        let (p, content, mode) ← s.tree.target path
        let s := { s with tree := s.tree.set p (.file content mode) }
        return s.add ⟨.file p, 0, a.reads, a.writes, a.appends⟩

/-- The device that a path leads to. -/
def deviceOf? (s : System) (path : String) : Option Device :=
  match s.tree.walk true path with
  | .ok (.taken p _) => deviceAt p
  | .ok (.free p) => deviceAt p
  | .error _ => none

end System

/-- A process among others: its arguments, its environment, where its descriptors lead, and what it
shares with the others. -/
structure Task where
  arguments : List String
  environment : Entries String
  descriptors : Descriptors
  system : System
  /-- The permissions that new files do not get. -/
  mask : Nat := 0o022
  /-- The signals that have no effect. -/
  ignored : List Nat := []

namespace Task

/-- The number of the open file that a descriptor leads to; a number without a file if to none. -/
def fileOf (t : Task) (descriptor : Nat) : Nat :=
  (t.descriptors.lookup descriptor).getD t.system.files.length

/-- All that is left to read from a descriptor. -/
def drain (t : Task) (descriptor : Nat) : Except Cause (Octets × Task) := do
  let number := t.fileOf descriptor
  let bs ← t.system.readable number
  return (bs, { t with system := t.system.consume number bs.length })

/-- Writes to a descriptor; what cannot be written is lost. -/
def emit (t : Task) (descriptor : Nat) (bs : Octets) : Task :=
  match t.system.write (t.fileOf descriptor) bs with
  | .ok system => { t with system }
  | .error _ => t

end Task

/-- How a process ends: with an exit code, a negative one for a signal. -/
structure Halted where
  exitCode : Int
  system : System

/-- Programs that run among others. -/
abbrev Tool := Task → Halted

/-- Such programs, by where they are. -/
abbrev Toolbox := Position → Option Tool

/-- A tool as a program on its own: its input and output are pipes. -/
def Tool.program (tool : Tool) : Program := fun p =>
  let pipe (n : Nat) (reads : Bool) : OpenFile := ⟨.pipe n, 0, reads, !reads, false⟩
  let system : System := ⟨p.tree, [pipe 0 true, pipe 1 false, pipe 2 false], [p.input, [], []]⟩
  let halted := tool
    { arguments := p.arguments, environment := p.environment, descriptors := [(0, 0), (1, 1), (2, 2)], system }
  let written (n : Nat) : Octets := halted.system.pipes[n]?.getD []
  ⟨halted.exitCode, written 1, written 2, halted.system.tree⟩

end SqlTidy.Shell
