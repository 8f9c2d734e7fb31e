import SqlTidy.Build
import SqlTidy.Download
import SqlTidy.Resolution

/-!
# Finding the formatter

The formatter is looked for in tiers: the caller's own program, the binary that ships with the
integration, the one downloaded before, a new download, a build from the sources in the workspace. If no
tier has it, the bare name is left to the search path.

Failed downloads and builds are warnings, and the next tier is tried. Only a crash ends the search.
How downloads and builds are made is up to the caller (`Suppliers`); they may change the file tree as
they please.
-/

namespace SqlTidy

inductive Warning where
  | cacheDirectory (directory : Path) (error : IoError)
  | network (error : NetworkError)
  | archive (error : ArchiveError)
  | build (error : BuildError)
deriving DecidableEq, Repr

def Warning.message : Warning → String
  | .cacheDirectory directory error =>
    "AspenSQLplus-fmt: cannot create cache directory " ++ directory.text ++ " (" ++ error.message ++ ")."
  | .network error => "AspenSQLplus-fmt: download failed (" ++ error.message ++ "), falling back."
  | .archive error => "AspenSQLplus-fmt: download failed (" ++ error.message ++ "), falling back."
  | .build error => "AspenSQLplus-fmt: auto-build failed: " ++ error.message

/-- A call for a download or a build. -/
inductive SupplyCall where
  | download (url : String) (destination : Path) (executable : String)
  | build (project : Path)
deriving DecidableEq, Repr

/-- Where the formatter can be had from. -/
structure Suppliers where
  fetch : String → Path → String → FileTree → Downloaded
  build : Path → FileTree → Except BuildFailure Unit × FileTree

/-- What one search is about. -/
structure Search where
  platform : Platform
  /-- The address below which releases are published. -/
  base : String
  roots : Roots
  options : ResolutionOptions

namespace Search

def executable (s : Search) : String := s.platform.executableName

def bundled (s : Search) : Path := s.roots.bundled s.platform

def cache (s : Search) : Path := s.roots.cache s.platform

def cached (s : Search) : Path := s.cache / s.executable

def url (s : Search) : String := releaseUrl s.base s.options.version s.platform

/-- The sources in the workspace, if a build is allowed. -/
def project? (s : Search) : Option Path :=
  if s.options.autoBuild then s.roots.workspace.map (· / "formatter") else none

/-- Where a build leaves the formatter, the better place first. -/
def built (s : Search) (project : Path) : List Path :=
  ["release", "debug"].map fun profile => project / "target" / profile / s.executable

end Search

/-- The outcome of a search: the program to start unless it crashed, what was said and called on the
way, the requests that went out, and the tree it leaves. -/
structure Resolved where
  location : Except Crash String
  warnings : List Warning
  calls : List SupplyCall
  requests : List Request
  tree : FileTree

namespace Resolved

/-- An outcome reached without a word. -/
def found (location : String) (t : FileTree) : Resolved := ⟨.ok location, [], [], [], t⟩

/-- A search that ends in a crash. -/
def crashed (crash : Crash) (t : FileTree) : Resolved := ⟨.error crash, [], [], [], t⟩

/-- Goes on by whether a path is there. -/
def ifThere (t : FileTree) (path : Path) (yes no : Resolved) : Resolved :=
  match t.contains path.text with
  | .error e => .crashed (.io e) t
  | .ok true => yes
  | .ok false => no

/-- The first of several paths that is there, or else another outcome. -/
def firstOf (t : FileTree) (last : Resolved) : List Path → Resolved
  | [] => last
  | path :: rest => ifThere t path (.found path.text t) (firstOf t last rest)

/-- An outcome with something that came before it. -/
def after (warnings : List Warning) (calls : List SupplyCall) (requests : List Request) (r : Resolved) :
    Resolved :=
  { r with
    warnings := warnings ++ r.warnings, calls := calls ++ r.calls, requests := requests ++ r.requests }

end Resolved

namespace Search

/-- The last resort. -/
def byName (s : Search) (t : FileTree) : Resolved := .found s.executable t

/-- Builds the formatter if its sources are there. -/
def byBuild (s : Search) (suppliers : Suppliers) (t : FileTree) : Resolved :=
  match s.project? with
  | none => s.byName t
  | some project =>
    Resolved.ifThere t (project / "Cargo.toml")
      (match suppliers.build project t with
        | (.error (.crash crash), t) => (Resolved.crashed crash t).after [] [.build project] []
        | (.error (.failed error), t) => (s.byName t).after [.build error] [.build project] []
        | (.ok (), t) => (Resolved.firstOf t (s.byName t) (s.built project)).after [] [.build project] [])
      (s.byName t)

/-- Downloads the formatter if that is allowed. -/
def byDownload (s : Search) (suppliers : Suppliers) (t : FileTree) : Resolved :=
  if !s.options.autoDownload then s.byBuild suppliers t
  else
    let call : SupplyCall := .download s.url s.cache s.executable
    let done := suppliers.fetch s.url s.cache s.executable t
    match done.result with
    | .error (.crash crash) => ⟨.error crash, [], [call], done.requests, done.tree⟩
    | .error (.network error) =>
      (s.byBuild suppliers done.tree).after [.network error] [call] done.requests
    | .error (.archive error) =>
      (s.byBuild suppliers done.tree).after [.archive error] [call] done.requests
    | .ok () =>
      (Resolved.firstOf done.tree (s.byBuild suppliers done.tree) [s.cached]).after [] [call]
        done.requests

/-- Takes what was downloaded before; if there is nothing, makes room for a download. -/
def byCache (s : Search) (suppliers : Suppliers) (t : FileTree) : Resolved :=
  Resolved.ifThere t s.cached (.found s.cached.text t)
    (if hasNul s.cache.text then .crashed .nul t
      else
        match (Act.makeDirectories s.cache).outcome t with
        | (.ok (), t) => s.byDownload suppliers t
        | (.error error, t) => (s.byDownload suppliers t).after [.cacheDirectory s.cache error] [] [])

/-- Takes what ships with the integration. -/
def byBundle (s : Search) (suppliers : Suppliers) (t : FileTree) : Resolved :=
  Resolved.ifThere t s.bundled (.found s.bundled.text t) (s.byCache suppliers t)

/-- Finds the formatter. -/
def resolve (s : Search) (suppliers : Suppliers) (t : FileTree) : Resolved :=
  match s.options.trimmedCustomPath with
  | some path => .found path t
  | none => s.byBundle suppliers t

end Search

/-- Suppliers that download and build for real. -/
def Suppliers.real (downloader : Downloader) (builder : Builder) : Suppliers where
  fetch url destination executable := downloader.fetch url destination (some executable)
  build := builder.build

end SqlTidy
