import SqlTidy.Tools.Work

/-!
# Naming and creating directories
-/

namespace SqlTidy.Tools

open Shell

def pwdTable : OptionTable where
  letters := [('L', .never), ('P', .never)]
  words := [("logical", .never, 'L'), ("physical", .never, 'P'), ("help", .never, 'h'),
    ("version", .never, 'V')]

/-- The directory that the environment names, if it is the one the process is in and has no dots as names. -/
def namedDirectory? (t : Task) : Option String := do
  let path ← Entries.get? t.environment "PWD"
  match t.system.tree.find path with
  | .ok (position, .directory) =>
    if isRooted path && position == t.system.tree.here && (namesOf path).all fun n => n ≠ "." ∧ n ≠ ".." then
      some path
    else none
  | _ => none

/-- Prints the directory that the process is in. -/
def pwd : Tool := toolWith pwdTable false fun g w =>
  let isNamed :=
    match g.options.getLast? with
    | some (c, _) => c == 'L'
    | none => (Entries.get? w.task.environment "POSIXLY_CORRECT").isSome
  let w := if g.operands.isEmpty then w else w.warn "ignoring non-option arguments".toList
  let t := w.task.system.tree
  match (if isNamed then namedDirectory? w.task else none), t.at? t.here with
  | some path, _ => w.put (toOctets (ofText path ++ ['\n']))
  | none, some .directory => w.put (toOctets (ofText (FileTree.pathOf t.here).text ++ ['\n']))
  | none, _ => w.complain "couldn't find directory entry in '..' with matching i-node".toList

/-- The permissions in a change of a mode: letters, or the letter of a class to take them from. -/
def dropPermissions (cs : List Char) : List Char :=
  match cs with
  | c :: rest => if "ugo".toList.contains c then rest else cs.dropWhile fun c => "rwxXst".toList.contains c
  | [] => []

/-- Whether text is changes of a mode for the same classes: a sign and permissions, repeated. A number may
follow the sign if no classes are named. The second argument bounds their number. -/
def isChanges (isForAll : Bool) : Nat → List Char → Bool
  | 0, _ => false
  | steps + 1, cs =>
    match cs with
    | sign :: rest =>
      if "+-=".toList.contains sign then
        let octal := if isForAll then rest.takeWhile fun c => '0' ≤ c && c ≤ '7' else []
        let rest := if octal.isEmpty then dropPermissions rest else rest.drop octal.length
        rest.isEmpty || (octal.isEmpty && isChanges isForAll steps rest)
      else false
    | [] => false

/-- Whether text is a mode: an octal number, or changes divided by commas. -/
def isMode (cs : List Char) : Bool :=
  let isOctal := !cs.isEmpty && cs.all fun c => '0' ≤ c && c ≤ '7'
  if isOctal then cs.foldl (fun n c => 8 * n + (c.toNat - 48)) 0 < 0o10000
  else
    (cs.splitOn ',').all fun clause =>
      let changes := clause.dropWhile fun c => "ugoa".toList.contains c
      isChanges (changes.length == clause.length) (clause.length + 1) changes

def mkdirTable : OptionTable where
  letters := [('p', .never), ('m', .always), ('v', .never), ('Z', .never)]
  words := [("context", .maybe, 'Z'), ("mode", .always, 'm'), ("parents", .never, 'p'), ("verbose", .never, 'v'), ("help", .never, 'h'),
    ("version", .never, 'V')]

/-- A directory has been created. -/
def created (isVerbose : Bool) (path : List Char) (w : Work) (tree : FileTree) : Work :=
  let w := { w with task := { w.task with system := { w.task.system with tree } } }
  if isVerbose then w.put (toOctets (w.name ++ ": created directory ".toList ++ quoted path ++ ['\n'])) else w

/-- Complains about a directory that cannot be created. -/
def notCreated (path : List Char) (w : Work) (cause : Cause) : Work :=
  w.refuse "cannot create directory ".toList (quoted path) cause

/-- The paths above a path and the path itself, from the top. -/
def pathsTo (path : List Char) : List (List Char) :=
  (go [] path).map List.reverse
where
  /-- The paths that go on from one read so far. -/
  go (before : List Char) : List Char → List (List Char)
    | [] => [before]
    | c :: rest =>
      if c = '/' ∧ before.head? ≠ some '/' ∧ before ≠ [] ∧ rest.any (· ≠ '/') then before :: go (c :: before) rest
      else go (c :: before) rest

/-- Creates a directory that may be there already. With `isLast` unset it is only on the way to another. -/
def ensureDirectory (isVerbose isLast : Bool) (path : List Char) (w : Work) : Except Work Work :=
  let t := w.task.system.tree
  match t.makeDirectory (toText path) with
  | .ok tree => .ok (created isVerbose path w tree)
  | .error cause =>
    if cause = .alreadyThere ∧ t.isDirectory (toText path) then .ok w
    else
      let isFile := cause = .alreadyThere && t.isFile (toText (path.reverse.dropWhile (· == '/')).reverse)
      .error (notCreated path w (if !isLast && isFile then .notDirectory else cause))

/-- Creates a directory and all above it. -/
def ensureAll (isVerbose : Bool) : List (List Char) → Work → Work
  | [], w => w
  | path :: rest, w =>
    match ensureDirectory isVerbose rest.isEmpty path w with
    | .ok w => ensureAll isVerbose rest w
    | .error w => w

/-- Creates directories. -/
def mkdir : Tool := toolWith mkdirTable false fun g w =>
  let badMode? := (g.options.filterMap fun (c, value, _) => if c = 'm' then value else none).getLast?.filter (!isMode ·)
  match g.operands, badMode? with
  | [], _ => (w.complain "missing operand".toList).misuse
  | _, some mode => w.complain ("invalid mode ".toList ++ cited mode)
  | paths, none =>
    paths.foldl
      (fun w path =>
        if g.has 'p' then ensureAll (g.has 'v') (pathsTo path) w
        else
          match w.task.system.tree.makeDirectory (toText path) with
          | .ok tree => created (g.has 'v') path w tree
          | .error cause => notCreated path w cause)
      w

end SqlTidy.Tools
