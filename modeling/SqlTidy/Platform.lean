import SqlTidy.Text.Blank
import SqlTidy.Text.Lowercase

/-!
# Platforms

Releases name a platform by its operating system and its processor. Systems report both in many
spellings, which `normalizeOs` and `normalizeArch` bring to the spelling of the releases.
-/

namespace SqlTidy

/-- The name of the formatter. -/
def toolName : String := "aspensqlplus-fmt"

/-- The beginnings of the names that mean Windows. -/
def windowsStarts : List String := ["win", "cygwin", "msys"]

def isAsciiDigit (c : Char) : Bool := '0' ≤ c && c ≤ '9'

/-- The release name of an operating system: a version at the end of the name does not count. -/
def normalizeOs (system : String) : String :=
  let name := lower (strip system)
  if windowsStarts.any fun start => start.toList.isPrefixOf name.toList then "win32"
  else if name = "darwin" ∨ name = "macos" ∨ name = "mac" then "darwin"
  else
    let plain := (name.toList.reverse.dropWhile isAsciiDigit).reverse
    if plain.isEmpty then name else String.ofList plain

/-- The processors that have several names. -/
def archAliases : List (String × String) :=
  [("x86_64", "x64"), ("amd64", "x64"), ("x64", "x64"), ("aarch64", "arm64"), ("arm64", "arm64"),
    ("i386", "ia32"), ("i686", "ia32"), ("x86", "ia32"), ("armv7l", "arm"), ("armv6l", "arm")]

/-- The release name of a processor. -/
def normalizeArch (machine : String) : String :=
  let name := lower (strip machine)
  (archAliases.lookup name).getD name

/-- A platform that has releases of its own. -/
structure Platform where
  os : String
  arch : String
deriving DecidableEq, Repr

namespace Platform

/-- The platform of a host, from what the host says about itself. -/
def ofHost (system machine : String) : Platform := ⟨normalizeOs system, normalizeArch machine⟩

/-- The platform of the host that a process runs on. The host is asked once: the state keeps its answer, which
holds for the rest of the process. -/
def current (system machine : String) : StateM (Option Platform) Platform := do
  match ← get with
  | some platform => return platform
  | none =>
    let platform := ofHost system machine
    set (some platform)
    return platform

def text (p : Platform) : String := p.os ++ "-" ++ p.arch

def isWindows (p : Platform) : Bool := p.os == "win32"

/-- The file name of the formatter on a platform. -/
def executableName (p : Platform) : String := if p.isWindows then toolName ++ ".exe" else toolName

end Platform

end SqlTidy
