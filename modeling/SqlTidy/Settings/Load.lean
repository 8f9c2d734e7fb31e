import SqlTidy.Crash
import SqlTidy.Disk.Calls
import SqlTidy.Settings.Expand
import SqlTidy.Settings.Keys
import SqlTidy.Toml.Document

/-!
# Loading settings

Settings come in layers: built-in defaults, a file of their own, a section of the project's file, and
overrides of the caller. Each layer has its keys brought to one spelling before it is laid over those
below it, and the result is checked once.

Documents may nest as deep as they like. A runtime that limits recursion gives up on one whose arrays or tables
nest too deep, and raises a `RecursionError`; that limit is not modelled.
-/

namespace SqlTidy

/-- A file that holds settings: all of it, or one section. -/
inductive ConfigSource where
  | whole (path : Path)
  | projectSection (path : Path)
deriving DecidableEq, Repr

/-- Why settings cannot be loaded. -/
inductive LoadError where
  | config (error : ConfigError)
  | crash (crash : Crash)
deriving DecidableEq, Repr

namespace ConfigSource

def path : ConfigSource → Path
  | .whole p => p
  | .projectSection p => p

/-- How complaints name a source. -/
def describe : ConfigSource → String
  | .whole p => "TOML configuration at " ++ p.text
  | .projectSection p => "pyproject.toml (" ++ p.text ++ ")"

/-- The section of the project's file. -/
def projectTable (t : Table) : Table := tableAt (tableAt t "tool") "aspenfmt"

/-- The document in a source; a file that is not there is empty. -/
def document (t : FileTree) (source : ConfigSource) : Except LoadError Table :=
  let path := source.path
  match t.probe path.text with
  | .error e => .error (.crash (.io e))
  | .ok (some (.file _ _)) =>
    match t.read path.text with
    | .error cause => .error (.config (.unreadable path ⟨cause, some path.text⟩))
    | .ok octets =>
      match utf8Decode octets with
      | .error e => .error (.crash (.notText e))
      | .ok text =>
        match Toml.parse text with
        | .ok table => .ok table
        | .error (.malformed flaw) => .error (.config (.invalidToml path flaw))
        | .error (.tooLong limit) => .error (.crash (.digits limit))
  | _ => .ok []

/-- The settings in a source, variables replaced. -/
def load (t : FileTree) (env : Environment) (source : ConfigSource) : Except LoadError Table := do
  let table := expandEntries env (← source.document t)
  match source with
  | .whole _ => return table
  | .projectSection _ => return projectTable table

/-- The settings in a source, keys in one spelling. -/
def layer (t : FileTree) (env : Environment) (source : ConfigSource) : Except LoadError Table := do
  (normaliseKeys source.describe (← source.load t env)).mapError .config

end ConfigSource

/-- The files that hold the settings of a project, lowest first. -/
def configSources (root : Path) : List ConfigSource :=
  [.whole (root / ".aspenfmt.toml"), .projectSection (root / "pyproject.toml")]

/-- All layers of a project laid over one another. -/
def mergedLayers (t : FileTree) (env : Environment) (root : Path) (overrides : Table) :
    Except LoadError Table := do
  let merged ← (configSources root).foldlM
    (fun merged source => return overlayEntries merged (← source.layer t env)) []
  return overlayEntries merged (← (normaliseKeys "overrides" overrides).mapError .config)

/-- The settings of a project. -/
def loadSettings (t : FileTree) (env : Environment) (root : Path) (overrides : Table) :
    Except LoadError Settings := do
  (Settings.ofTable (← mergedLayers t env root overrides)).mapError fun faults => .config (.invalid faults)

end SqlTidy
