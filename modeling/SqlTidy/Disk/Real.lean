import SqlTidy.Disk.Calls

/-!
# The real path behind a path

`realPath` replaces every link on the way by what it points to. Names that lead nowhere are kept as
they are, so the path need not exist. Links that lead back to themselves are an error.
-/

namespace SqlTidy

/-- Names of a path yet to be followed, and marks where what a link points to ends. -/
inductive RealStep where
  | name (s : String)
  | resolved (link : Position)

/-- Links that have been met: those still being followed, and where the others lead. -/
abbrev SeenLinks := List (Position × Option Position)

/-- The names of a path without single dots. -/
def realSteps (path : String) : List RealStep :=
  ((namesOf path).filter (· ≠ ".")).map .name

def RealStep.name? : RealStep → Option String
  | .name s => some s
  | .resolved _ => none

/-- A position moved by names that are taken literally, two dots going up. -/
def moveBy (p : Position) (names : List String) : Position :=
  names.foldl (fun p name => if name = ".." then p.tail else name :: p) p

namespace FileTree

/-- Goes along steps from a position; `onLink` goes on behind a link not met before. -/
def realFromWith (onLink : SeenLinks → Position → List RealStep → Position × Bool) (t : FileTree) :
    SeenLinks → Position → List RealStep → Position × Bool
  | _, here, [] => (here, true)
  | seen, here, .resolved link :: rest => realFromWith onLink t ((link, some here) :: seen) here rest
  | seen, here, .name name :: rest =>
    if name = ".." then realFromWith onLink t seen here.tail rest
    else
      let next := name :: here
      match t.at? next with
      | some (.link target) =>
        match seen.lookup next with
        | some (some goal) => realFromWith onLink t seen goal rest
        | some none => (moveBy next (rest.filterMap RealStep.name?), false)
        | none =>
          onLink ((next, none) :: seen) (startOf here target) (realSteps target ++ .resolved next :: rest)
      | _ => realFromWith onLink t seen next rest

/-- Goes along steps from a position, meeting at most `links` new links. -/
def realFrom (t : FileTree) : Nat → SeenLinks → Position → List RealStep → Position × Bool
  | 0 => realFromWith (fun _ p rest => (moveBy p (rest.filterMap RealStep.name?), false)) t
  | links + 1 => realFromWith (realFrom t links) t

/-- The real path behind a path, or the path at which links go in a circle. -/
def realPath (t : FileTree) (p : Path) : Except Path Path :=
  let (position, _) := t.realFrom (t.entries.length + 1) [] (startOf t.here p.text) (realSteps p.text)
  let real := pathOf position
  match t.find real.text with
  | .error .tooManyLinks => .error real
  | _ => .ok real

end FileTree

end SqlTidy
