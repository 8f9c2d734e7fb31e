import SqlTidy.Tools.Work

/-!
# Removing files and directories

A directory is removed with all in it, from the inside out, if that is asked for. If asked for, too, nothing
goes without a question that is answered with yes.
-/

namespace SqlTidy.Tools

open Shell

/-- When to ask. -/
inductive Asking where
  | never
  | once
  | always
deriving DecidableEq, Repr

/-- What is asked of a removal. -/
structure RemovalOptions where
  asking : Asking := .never
  isForced : Bool := false
  isRecursive : Bool := false
  takesEmpty : Bool := false
  isVerbose : Bool := false
  sparesRoot : Bool := true

/-- A removal at work. The answers are read at the first question. -/
structure Removal where
  work : Work
  answers : Option (List (List Char)) := none

namespace Removal

/-- Asks a question. -/
def ask (r : Removal) (question : List Char) : Bool × Removal :=
  let r := { r with work := r.work.tell (r.work.name ++ ": ".toList ++ question ++ "? ".toList) }
  let (answers, w) : List (List Char) × Work :=
    match r.answers with
    | some answers => (answers, r.work)
    | none =>
      match r.work.task.drain 0 with
      | .ok (bs, task) => ((ofOctets bs).splitOn '\n', { r.work with task })
      | .error _ => ([], r.work)
  let answer := answers.headD []
  (answer.head? == some 'y' || answer.head? == some 'Y', ⟨w, some answers.tail⟩)

/-- What a question calls an entry. -/
def kindText : Entry → String
  | .file [] _ => "regular empty file "
  | .file _ _ => "regular file "
  | .directory => "directory "
  | .link _ => "symbolic link "

/-- Complains about an entry that cannot be removed, if that is worth it. -/
def refuse (o : RemovalOptions) (r : Removal) (path : List Char) (cause : Cause) : Removal :=
  if o.isForced ∧ (cause = .noEntry ∨ cause = .notDirectory) then r
  else { r with work := r.work.refuse "cannot remove ".toList (quoted path) cause }

/-- Takes an entry away. -/
def take (o : RemovalOptions) (r : Removal) (path : List Char) (position : Position) (entry : Entry) : Removal :=
  let system := r.work.task.system
  let w := { r.work with task := { r.work.task with system := { system with tree := system.tree.erase position } } }
  let what := if entry = .directory then "removed directory " else "removed "
  { r with work := if o.isVerbose then w.put (toOctets (what.toList ++ quoted path ++ ['\n'])) else w }

/-- Removes an entry that is no directory, or an empty directory. -/
def removeOne (o : RemovalOptions) (r : Removal) (path : List Char) (position : Position) (entry : Entry) :
    Bool × Removal :=
  if o.asking = .always then
    match r.ask ("remove ".toList ++ (kindText entry).toList ++ quoted path) with
    | (true, r) => (true, take o r path position entry)
    | (false, r) => (false, r)
  else (true, take o r path position entry)

/-- The names in a directory. -/
def namesIn (t : FileTree) (position : Position) : List String :=
  t.entries.filterMap fun
    | (name :: above, _) => if above = position then some name else none
    | ([], _) => none

/-- Removes an entry and all in it; yields whether a directory above it may still be removed. A directory that
was reached through a link is emptied, but the link stays. The second argument bounds the depth. -/
def removeAll (o : RemovalOptions) :
    Nat → Bool → Removal → List Char → Position → Entry → Bool × Removal
  | 0, _, r, _, _, _ => (false, r)
  | depth + 1, isLinked, r, path, position, entry =>
    let names := namesIn r.work.task.system.tree position
    if entry ≠ .directory then (true, (removeOne o r path position entry).2)
    else if names.isEmpty && !isLinked then removeOne o r path position entry
    else
      let (isWanted, r) : Bool × Removal :=
        if o.asking = .always then r.ask ("descend into directory ".toList ++ quoted path) else (true, r)
      if !isWanted then (false, r)
      else
        let (isClear, r) := names.foldl
          (fun (isClear, r) name =>
            match r.work.task.system.tree.at? (name :: position) with
            | none => (isClear, r)
            | some inner =>
              let slash : List Char := if path.getLast? = some '/' then [] else ['/']
              let (isGone, r) := removeAll o depth false r (path ++ slash ++ ofText name) (name :: position) inner
              (isClear && isGone, r))
          (true, r)
        if !isClear then (false, r)
        else
          let (isWanted, r) : Bool × Removal :=
            if o.asking = .always then r.ask ("remove directory ".toList ++ quoted path) else (true, r)
          if !isWanted then (false, r)
          else if isLinked then (false, refuse o r path .notDirectory)
          else if (namesIn r.work.task.system.tree position).isEmpty then (true, take o r path position entry)
          else (false, refuse o r path .notEmpty)

/-- An operand with at most one slash at its end. -/
def trimmed (operand : List Char) : List Char :=
  match operand.reverse with
  | '/' :: rest => (rest.dropWhile (· == '/')).reverse ++ ['/']
  | _ => operand

/-- Whether the last name of an operand is a dot or two. -/
def endsInDots (operand : List Char) : Bool :=
  let last := ((operand.reverse.dropWhile (· == '/')).takeWhile (· ≠ '/')).reverse
  last == ['.'] || last == ['.', '.']

/-- Where an operand leads, and whether through a link to a directory. Such a link stays. -/
def locate (t : FileTree) (operand : List Char) : Except Cause (Spot × Bool) := do
  let path := toText operand
  if (namesOf path).isEmpty then return (← t.walk false path, false)
  else
    match ← t.walk false (FileTree.dropSlashes path) with
    | .taken p .directory => return (.taken p .directory, false)
    | .taken p e =>
      if !endsInSlash path then return (.taken p e, false)
      else
        match t.find path with
        | .ok (p, .directory) => return (.taken p .directory, true)
        | _ => .error .notDirectory
    | .free p => return (.free p, false)

/-- Removes what an operand names. -/
def removeOperand (o : RemovalOptions) (r : Removal) (operand : List Char) : Removal :=
  let operand := trimmed operand
  let t := r.work.task.system.tree
  match locate t operand with
  | .error cause => refuse o r operand cause
  | .ok (.free _, _) => refuse o r operand .noEntry
  | .ok (.taken position .directory, isLinked) =>
    if !o.isRecursive && !(o.takesEmpty && (namesIn t position).isEmpty) then
      refuse o r operand (if o.takesEmpty then .notEmpty else .isDirectory)
    else if endsInDots operand then
      let text := "refusing to remove '.' or '..' directory: skipping ".toList ++ quoted operand
      { r with work := r.work.complain text }
    else if position = [] ∧ o.sparesRoot then
      let same := if operand = ['/'] then [] else " (same as '/')".toList
      let w := r.work.complain ("it is dangerous to operate recursively on ".toList ++ quoted operand ++ same)
      { r with work := w.complain "use --no-preserve-root to override this failsafe".toList }
    else (removeAll o (t.entries.length + 1) isLinked r operand position .directory).2
  | .ok (.taken position entry, _) => (removeAll o 1 false r operand position entry).2

end Removal

def rmTable : OptionTable where
  letters := "dfirvIR".toList.map fun c => (c, .never)
  words := [("force", .never, 'f'), ("interactive", .maybe, 'w'), ("one-file-system", .never, 'x'),
    ("no-preserve-root", .never, 'n'), ("preserve-root", .maybe, 'p'), ("recursive", .never, 'R'),
    ("dir", .never, 'd'), ("verbose", .never, 'v'), ("help", .never, 'h'), ("version", .never, 'V')]

/-- The words for when to ask. -/
def askingWords : List (String × Asking) :=
  [("never", .never), ("no", .never), ("none", .never), ("once", .once), ("always", .always), ("yes", .always)]

/-- When to ask, by a word that may be cut short. -/
def Asking.ofWord (word : List Char) : Except (List Char) Asking :=
  match askingWords.lookup (String.ofList word), askingWords.filter fun w => word.isPrefixOf w.1.toList with
  | some a, _ => .ok a
  | none, [] => .error "invalid".toList
  | none, w :: rest => if rest.all fun x => x.2 == w.2 then .ok w.2 else .error "ambiguous".toList

/-- Removal as options ask for it, or the complaint about them and whether a hint at help belongs to it. -/
def RemovalOptions.ofGiven (options : List (Char × Option (List Char) × List Char)) :
    Except (List Char × Bool) RemovalOptions :=
  options.foldlM
    (fun o (c, value, word) =>
      match c with
      | 'd' => .ok { o with takesEmpty := true }
      | 'f' => .ok { o with asking := .never, isForced := true }
      | 'i' => .ok { o with asking := .always, isForced := false }
      | 'I' => .ok { o with asking := .once, isForced := false }
      | 'r' => .ok { o with isRecursive := true }
      | 'R' => .ok { o with isRecursive := true }
      | 'v' => .ok { o with isVerbose := true }
      | 'n' =>
        if word = "no-preserve-root".toList then .ok { o with sparesRoot := false }
        else .error ("you may not abbreviate the --no-preserve-root option".toList, false)
      | 'p' =>
        match value with
        | none => .ok { o with sparesRoot := true }
        | some value =>
          if value = "all".toList then .ok { o with sparesRoot := true }
          else .error ("unrecognized --preserve-root argument: ".toList ++ quoted value, false)
      | 'w' =>
        match value with
        | none => .ok { o with asking := .always, isForced := false }
        | some value =>
          match Asking.ofWord value with
          | .ok .never => .ok { o with asking := .never }
          | .ok asking => .ok { o with asking, isForced := false }
          | .error how =>
            .error (how ++ " argument ".toList ++ cited value ++
              (" for '--interactive'\nValid arguments are:\n  - 'never', 'no', 'none'\n  - 'once'\n" ++
                "  - 'always', 'yes'").toList, true)
      | _ => .ok o)
    {}

/-- Removes what the operands name. -/
def rm : Tool := toolWith rmTable false fun g w =>
  match RemovalOptions.ofGiven g.options with
  | .error (text, isHinted) => if isHinted then (w.complain text).misuse else w.complain text
  | .ok o =>
    let count := g.operands.length
    if count = 0 then (if o.isForced then w else (w.complain "missing operand".toList).misuse)
    else
      let (isWanted, r) : Bool × Removal :=
        if o.asking = .once ∧ (o.isRecursive ∨ 3 < count) then
          Removal.ask ⟨w, none⟩ ("remove ".toList ++ Nat.toDigits 10 count ++
            (if count = 1 then " argument" else " arguments").toList ++
            (if o.isRecursive then " recursively" else "").toList)
        else (true, ⟨w, none⟩)
      if isWanted then (g.operands.foldl (Removal.removeOperand o) r).work else r.work

end SqlTidy.Tools
