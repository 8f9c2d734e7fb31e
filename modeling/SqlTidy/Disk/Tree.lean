import SqlTidy.Disk.Error
import SqlTidy.Path
import SqlTidy.Text.Utf8

/-!
# File trees

A file tree says what stands at each position: a file, a directory or a link. A position is the list
of names that leads to it from the root, innermost first, so that the directory of a position is its
tail and everything below a position ends in it. The root is always a directory.

`walk` follows a path through a tree. It ends at an entry or at a free name in a directory; links in
the middle of the path are followed, a link at its end if asked. At most 40 links are followed.
-/

namespace SqlTidy

/-- The names from an entry up to the root. -/
abbrev Position := List String

inductive Entry where
  | file (content : Octets) (mode : Nat)
  | directory
  | link (target : String)
deriving DecidableEq, Repr

/-- A tree, and the directory in it that relative paths start from. -/
structure FileTree where
  entries : List (Position × Entry)
  here : Position
  /-- The places whose file the system refuses to open for writing, and why: a permission that is lacking, or a
  device that can only be read. -/
  refusals : List (Position × Cause) := []

/-- Where a path leads. -/
inductive Spot where
  | taken (position : Position) (entry : Entry)
  | free (position : Position)
deriving DecidableEq, Repr

/-- The names between the slashes of a path. -/
def namesOf (path : String) : List String :=
  ((splitSlashes path.toList).map String.ofList).filter (· ≠ "")

def endsInSlash (path : String) : Bool := path.toList.getLast? == some '/'

/-- The steps that a path takes. A slash at its end asks for a directory, as a dot behind it would. -/
def stepsOf (path : String) : List String :=
  namesOf path ++ if endsInSlash path then ["."] else []

def isRooted (path : String) : Bool := path.toList.head? == some '/'

/-- The names that an entry speaks of. -/
def Entry.spokenNames : Entry → List String
  | .link target => namesOf target
  | .file _ _ | .directory => []

namespace FileTree

def at? (t : FileTree) : Position → Option Entry
  | [] => some .directory
  | p => t.entries.lookup p

/-- Puts an entry at a position. -/
def setEntries (p : Position) (e : Entry) : List (Position × Entry) → List (Position × Entry)
  | [] => [(p, e)]
  | (q, f) :: rest => if q = p then (p, e) :: rest else (q, f) :: setEntries p e rest

def set (t : FileTree) (p : Position) (e : Entry) : FileTree :=
  { t with entries := setEntries p e t.entries }

/-- Takes away the entry at a position. -/
def erase (t : FileTree) (p : Position) : FileTree :=
  { t with entries := t.entries.filter fun x => x.1 ≠ p }

/-- Takes away the entry at a position and all below it. -/
def prune (t : FileTree) (p : Position) : FileTree :=
  { t with entries := t.entries.filter fun x => !p.isSuffixOf x.1 }

/-- The names that a tree speaks of: those on the way to its entries and to where relative paths start
from, and those that its links go through. -/
def spokenNames (t : FileTree) : List String :=
  t.here ++ t.entries.flatMap fun x => x.1 ++ x.2.spokenNames

/-- The absolute path of a position. -/
def pathOf (p : Position) : Path := ⟨.root, p.reverse⟩

/-- The directory that a path starts from, seen from `here`. -/
def startOf (here : Position) (path : String) : Position := if isRooted path then [] else here

/-- The longest name an entry can have, in octets. -/
def nameLimit : Nat := 255

/-- Follows names from a directory; `onLink` goes on behind a link. -/
def walkWith (onLink : Position → List String → Except Cause Spot) (t : FileTree) (follow : Bool) :
    Position → List String → Except Cause Spot
  | here, [] => .ok (.taken here .directory)
  | here, name :: rest =>
    if name = "." then walkWith onLink t follow here rest
    else if name = ".." then walkWith onLink t follow here.tail rest
    else if nameLimit < name.utf8ByteSize then .error .nameTooLong
    else
      match t.at? (name :: here) with
      | none =>
        if rest.isEmpty && t.at? here == some .directory then .ok (.free (name :: here)) else .error .noEntry
      | some .directory => walkWith onLink t follow (name :: here) rest
      | some (.file content mode) =>
        if rest.isEmpty then .ok (.taken (name :: here) (.file content mode)) else .error .notDirectory
      | some (.link target) =>
        if rest.isEmpty && !follow then .ok (.taken (name :: here) (.link target))
        else if target = "" then .error .noEntry
        else onLink (startOf here target) (stepsOf target ++ rest)

/-- Follows names from a directory, through at most `links` links. -/
def walkFrom (t : FileTree) (follow : Bool) : Nat → Position → List String → Except Cause Spot
  | 0 => walkWith (fun _ _ => .error .tooManyLinks) t follow
  | links + 1 => walkWith (walkFrom t follow links) t follow

/-- The number of links that one walk may follow. -/
def linkLimit : Nat := 40

/-- Paths have to be shorter than this, in octets. -/
def pathLimit : Nat := 4096

/-- Where a path leads; a link at its end is followed if `follow` says so. -/
def walk (t : FileTree) (follow : Bool) (path : String) : Except Cause Spot :=
  if path = "" then .error .noEntry
  else if pathLimit ≤ path.utf8ByteSize then .error .nameTooLong
  else walkFrom t follow linkLimit (startOf t.here path) (stepsOf path)

end FileTree

end SqlTidy
