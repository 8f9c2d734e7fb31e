import SqlTidy.Disk.Real
import SqlTidy.Home
import SqlTidy.Resolution

/-!
# The machine

What a run finds around it: the environment, the homes of users, the platform, and where the
integration itself is installed. The roots of a resolution that the caller leaves open come from here.
-/

namespace SqlTidy

structure Machine where
  environment : Environment
  homes : Homes
  platform : Platform
  installation : Path

/-- A variable of an environment that is set and not empty. -/
def nonEmpty? (env : Environment) (name : String) : Option String :=
  (Entries.get? env name).filter (· ≠ "")

/-- The directory for downloads, from an environment. -/
def defaultStorage (homes : Homes) (env : Environment) : Except Crash Path :=
  match nonEmpty? env "ASPENFMT_STORAGE" with
  | some s => homes.expand (Path.ofText s)
  | none => do
    let base ←
      match nonEmpty? env "XDG_CACHE_HOME" with
      | some s => homes.expand (Path.ofText s)
      | none => (homes.expand (Path.ofText "~")).map (· / ".cache")
    return base / "aspenfmt"

/-- The directory that ships with the integration, from an environment. -/
def defaultExtension (homes : Homes) (installation : Path) (env : Environment) : Except Crash Path :=
  match nonEmpty? env "ASPENFMT_EXTENSION_ROOT" with
  | some s => homes.expand (Path.ofText s)
  | none => .ok installation

namespace Machine

def storage (m : Machine) : Except Crash Path := defaultStorage m.homes m.environment

def extension (m : Machine) : Except Crash Path :=
  defaultExtension m.homes m.installation m.environment

/-- A path as it is, links resolved. -/
def real (t : FileTree) (p : Path) : Except Crash Path :=
  if hasNul p.text then .error .nul else (t.realPath p).mapError .linkCircle

/-- The roots of a resolution, as given or by default, links resolved. -/
def roots (m : Machine) (t : FileTree) (workspace storage extension : Option Path) :
    Except Crash Roots := do
  let extension ← real t (← extension.elim m.extension .ok)
  let storage ← real t (← storage.elim m.storage .ok)
  let workspace ← workspace.mapM (real t)
  return ⟨extension, storage, workspace⟩

end Machine

end SqlTidy
