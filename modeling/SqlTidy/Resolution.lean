import SqlTidy.Field.Readers
import SqlTidy.Release

/-!
# What a resolution starts from

The switches of one search for the formatter, and the directories that it looks into.
-/

namespace SqlTidy

/-- The caller's wishes: a program of their own, whether building and downloading are allowed, and
the release to download. -/
structure ResolutionOptions where
  customPath : Option String
  autoBuild : Bool
  autoDownload : Bool
  version : String
deriving DecidableEq, Repr

namespace ResolutionOptions

def ofTable (t : Table) : Checked ResolutionOptions :=
  Checked.app (Checked.app (Checked.app (Checked.app (.ok ResolutionOptions.mk)
    (field t "custom_path" (.ofFault readOptionalText) none))
    (field t "auto_build" (.ofFault readBool) false))
    (field t "auto_download" (.ofFault readBool) false))
    (field t "version" (.ofFault readText) defaultVersion)

/-- The caller's own program, unless its name is blank. -/
def trimmedCustomPath (o : ResolutionOptions) : Option String :=
  (o.customPath.map strip).filter (· ≠ "")

end ResolutionOptions

/-- The directories that a resolution looks into: one that ships with the integration, one for
downloads, and the open workspace if there is one. -/
structure Roots where
  extension : Path
  storage : Path
  workspace : Option Path
deriving DecidableEq, Repr

namespace Roots

def ofTable (t : Table) : Checked Roots :=
  Checked.app (Checked.app (Checked.app (.ok Roots.mk)
    (requiredField t "extension_root" (.ofFault readPath)))
    (requiredField t "storage_root" (.ofFault readPath)))
    (field t "workspace_root" (.ofFault readOptionalPath) none)

/-- Where a binary that ships with the integration lies. -/
def bundled (r : Roots) (p : Platform) : Path :=
  r.extension / "bin" / p.text / p.executableName

/-- Where downloads for a platform are kept. -/
def cache (r : Roots) (p : Platform) : Path :=
  r.storage / "bin" / p.text

end Roots

end SqlTidy
