import SqlTidy.Disk.Calls

/-!
# Actions on a file tree

An action makes calls one after the other. What it has changed before it fails stays changed, so its
outcome is a result or an error together with the tree that it leaves.
-/

namespace SqlTidy

/-- An action that may change the tree and may fail. -/
abbrev Act (ε α : Type) := ExceptT ε (StateM FileTree) α

namespace Act

variable {ε α : Type}

/-- The outcome of an action on a tree. -/
def outcome (x : Act ε α) (t : FileTree) : Except ε α × FileTree := Id.run (StateT.run (ExceptT.run x) t)

/-- An action given by its outcome. -/
def ofOutcome (f : FileTree → Except ε α × FileTree) : Act ε α :=
  ExceptT.mk fun t => pure (f t)

/-- Looks at the tree. -/
def look (f : FileTree → α) : Act ε α := ofOutcome fun t => (.ok (f t), t)

def fail (e : ε) : Act ε α := ofOutcome fun t => (.error e, t)

/-- Makes one call; a refusal is about `path`. -/
def call (path : String) (f : FileTree → Except Cause FileTree) : Act IoError Unit :=
  ofOutcome fun t =>
    match f t with
    | .ok t => (.ok (), t)
    | .error cause => (.error ⟨cause, some path⟩, t)

/-- Makes one call and goes on whatever comes of it. -/
def attempt (f : FileTree → Except Cause FileTree) : Act ε Unit :=
  ofOutcome fun t => (.ok (), (f t).toOption.getD t)

/-- An action with its error described anew. -/
def mapError {δ : Type} (f : ε → δ) (x : Act ε α) : Act δ α :=
  ofOutcome fun t =>
    let (r, t) := x.outcome t
    (r.mapError f, t)

/-- Creates a directory and those above it; a directory that is there already is no error. The names
are given innermost first. -/
def makeDirectoriesFrom (anchor : Anchor) : List String → Act IoError Unit
  | [] => pure ()
  | name :: above =>
    let path := (Path.mk anchor (name :: above).reverse).text
    ofOutcome fun t =>
      match t.makeDirectory path with
      | .ok t => (.ok (), t)
      | .error .noEntry =>
        match (makeDirectoriesFrom anchor above).outcome t with
        | (.error e, t) => (.error e, t)
        | (.ok (), t) =>
          match t.makeDirectory path with
          | .ok t => (.ok (), t)
          | .error cause =>
            if cause ≠ .noEntry ∧ t.isDirectory path then (.ok (), t)
            else (.error ⟨cause, some path⟩, t)
      | .error cause =>
        if t.isDirectory path then (.ok (), t) else (.error ⟨cause, some path⟩, t)

/-- Creates a directory and those above it, as far as they are not there. -/
def makeDirectories (p : Path) : Act IoError Unit := makeDirectoriesFrom p.anchor p.parts.reverse

end Act

end SqlTidy
