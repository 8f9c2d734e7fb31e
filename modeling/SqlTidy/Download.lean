import SqlTidy.Archive.Tar
import SqlTidy.Archive.Unpack
import SqlTidy.Number.Digits
import SqlTidy.Release

/-!
# Downloads

A download asks a server for a release archive, collects the body in a temporary file inside the
destination, unpacks that file there and removes it. Failures of the network and of archives are
expected and described by `NetworkError` and `ArchiveError`; any other failure is a crash.

Servers are arbitrary: a `Server` answers an address with a text of failure or with a response whose
body comes in chunks, and may change the file tree while it does so.
-/

namespace SqlTidy

/-- A request as it goes out: bodies are always streamed. -/
structure Request where
  url : String
  /-- In whole seconds. -/
  timeout : Int
deriving DecidableEq, Repr

/-- A piece of a body, or what came instead of it. -/
inductive Chunk where
  | octets (bs : Octets)
  | interrupted (text : String)
  | refused (error : IoError)
  | broken (crash : Crash)
deriving DecidableEq, Repr

/-- An answer; its body falls into chunks of the size that the reader asks for. -/
structure Response where
  status : Nat
  body : Int → List Chunk

/-- What a server makes of an address, and of the tree meanwhile. -/
abbrev Server := String → FileTree → Except String Response × FileTree

inductive NetworkCause where
  | request (text : String)
  | status (code : Nat)
  | interrupted (text : String)
  | reported (text : String)
deriving DecidableEq, Repr

structure NetworkError where
  url : String
  cause : NetworkCause
deriving DecidableEq, Repr

namespace NetworkError

def message (e : NetworkError) : String :=
  match e.cause with
  | .request text => "Request for " ++ e.url ++ " failed: " ++ text
  | .status code => "HTTP " ++ toString code ++ " for " ++ e.url
  | .interrupted text => "Transfer from " ++ e.url ++ " was interrupted: " ++ text
  | .reported text => text

/-- The status of an answer that was refused for it. -/
def status (e : NetworkError) : Option Nat :=
  match e.cause with
  | .status code => some code
  | _ => none

end NetworkError

inductive ArchiveError where
  | createDestination (destination : Path) (error : IoError)
  | createTemporary (destination : Path) (error : IoError)
  | write (path : Path) (error : IoError)
  | damaged (name : String) (damage : Damage)
  | unsupported (name : String) (feature : Unsupported)
  | unpack (name : String) (destination : Path) (error : IoError)
  | badStream (name : String) (destination : Path)
  | reported (text : String)
deriving DecidableEq, Repr

def ArchiveError.message : ArchiveError → String
  | .createDestination destination error =>
    "Unable to create " ++ destination.text ++ ": " ++ error.message
  | .createTemporary destination error =>
    "Unable to create a temporary file in " ++ destination.text ++ ": " ++ error.message
  | .write path error => "Unable to write " ++ path.text ++ ": " ++ error.message
  | .damaged name damage => "Downloaded archive " ++ name ++ " is corrupt: " ++ damage.message
  | .unsupported name feature =>
    "Downloaded archive " ++ name ++ " cannot be extracted: " ++ feature.message
  | .unpack name destination error =>
    "Unable to extract " ++ name ++ " into " ++ destination.text ++ ": " ++ error.message
  | .badStream name destination =>
    "Unable to extract " ++ name ++ " into " ++ destination.text ++ ": Invalid data stream"
  | .reported text => text

/-- Why a download fails. -/
inductive DownloadError where
  | network (error : NetworkError)
  | archive (error : ArchiveError)
  | crash (crash : Crash)
deriving DecidableEq, Repr

/-- The outcome of a download: its result, the requests that went out, whether a response was closed
again, and the tree it leaves. -/
structure Downloaded where
  result : Except DownloadError Unit
  requests : List Request
  closed : Bool
  tree : FileTree

/-- What follows the last slash of a text. -/
def afterLastSlash (s : String) : String :=
  String.ofList (s.toList.reverse.takeWhile (· != '/')).reverse

/-- The archive that an address names. -/
def archiveNameOf (url : String) : String := afterLastSlash (dropFinalSlashes url)

/-- Names of compressed tar archives. -/
def isTarName (name : String) : Bool :=
  ".tar.gz".toList.isSuffixOf name.toList || ".tgz".toList.isSuffixOf name.toList

/-- The characters that names of temporary files are drawn from. -/
def drawnAlphabet : List Char := "abcdefghijklmnopqrstuvwxyz0123456789_".toList

/-- The characters that a drawn number stands for. -/
def drawnChars : Nat → Nat → List Char
  | 0, _ => []
  | count + 1, n =>
    drawnAlphabet.getD (n % drawnAlphabet.length) '_' :: drawnChars count (n / drawnAlphabet.length)

/-- The name of a temporary file for a drawn number. -/
def temporaryName (n : Nat) : String := "tmp" ++ String.ofList (drawnChars 8 n) ++ ".download"

/-- A way to draw the name of a temporary file for a destination, as a number. -/
abbrev Draw := FileTree → Path → Nat

/-- The first name that neither the tree nor the path of the destination speaks of. -/
def firstUnspoken : Draw := fun t destination =>
  let spoken := t.spokenNames ++ destination.parts.flatMap namesOf
  ((List.range (spoken.length + 1)).find? fun n => temporaryName n ∉ spoken).getD 0

/-- How downloads are made. -/
structure Downloader where
  server : Server
  timeout : Int := 60
  chunkSize : Int := 65536
  /-- Whether files have a permission to be executed. -/
  marksExecutable : Bool := true
  /-- How temporary files get their names. -/
  draw : Draw := firstUnspoken

/-- The path of the temporary file in a directory. The directory is taken by its absolute path, in which double
dots cancel the name before them. -/
def Downloader.temporary (d : Downloader) (t : FileTree) (destination : Path) : Path :=
  ((FileTree.pathOf t.here).join destination).normal / temporaryName (d.draw t destination)

/-- The mode of a temporary file. -/
def temporaryMode : Nat := 0o600

/-- Adds a body to a file chunk by chunk, up to its end or to what came instead of a chunk. Empty chunks
are passed over. -/
def pour (path : Path) : List Chunk → Act DownloadError (Option Chunk)
  | [] => pure none
  | .octets bs :: rest => do
    if bs ≠ [] then Act.attempt fun t => t.append path.text bs
    pour path rest
  | stop :: _ => pure (some stop)

/-- Removes a file if it is there. -/
def discard {ε : Type} (path : Path) : Act ε Unit := Act.attempt fun t => t.remove path.text

/-- Collects a body in a temporary file and yields its path. A body that cannot be read to its end
leaves no file behind, unless the failure is not one of the expected ones. -/
def Downloader.receive (d : Downloader) (url : String) (destination : Path) (chunks : List Chunk) :
    Act DownloadError Path := do
  let path ← Act.look fun t => d.temporary t destination
  Act.mapError (fun e => .archive (.createTemporary destination e))
    (Act.call path.text fun t => t.create path.text temporaryMode)
  match ← pour path chunks with
  | some (.interrupted text) => do
    discard path
    Act.fail (.network ⟨url, .interrupted text⟩)
  | some (.refused error) => do
    discard path
    Act.fail (.archive (.write path error))
  | some (.broken crash) => Act.fail (.crash crash)
  | _ => pure path

/-- Collects the body of a response, unless its status is that of an error. -/
def Downloader.accept (d : Downloader) (url : String) (destination : Path) (response : Response) :
    Act DownloadError Path :=
  if 400 ≤ response.status then Act.fail (.network ⟨url, .status response.status⟩)
  else d.receive url destination (response.body d.chunkSize)

/-- Goes on with `after` whether or not `x` fails. -/
def thenAlways {σ ε α : Type} (x : ExceptT ε (StateM σ) α) (after : ExceptT ε (StateM σ) Unit) :
    ExceptT ε (StateM σ) α :=
  ExceptT.mk fun s =>
    let (r, s) := x.run.run s
    (r, (after.run.run s).2)

/-- An action that has a response in hand. Besides the tree it keeps count of how often the response was
closed. -/
abbrev Handling (ε α : Type) := ExceptT ε (StateM (FileTree × Nat)) α

namespace Handling

variable {ε α : Type}

/-- An action on the tree alone. -/
def ofAct (x : Act ε α) : Handling ε α :=
  ExceptT.mk fun (t, closings) =>
    let (r, t) := x.outcome t
    (r, t, closings)

/-- Closes the response. -/
def close : Handling ε Unit := ExceptT.mk fun (t, closings) => (.ok (), t, closings + 1)

end Handling

/-- What came of a request and of the response to it: the file that holds the body, the requests that went
out, how often a response was closed, and the tree. -/
structure Transfer where
  result : Except DownloadError Path
  requests : List Request
  closings : Nat
  tree : FileTree

/-- Asks for an address and collects what comes. The response is closed whatever became of its body. -/
def Downloader.transfer (d : Downloader) (url : String) (destination : Path) (t : FileTree) : Transfer :=
  let request : Request := ⟨url, d.timeout⟩
  match d.server url t with
  | (.error text, t) => ⟨.error (.network ⟨url, .request text⟩), [request], 0, t⟩
  | (.ok response, t) =>
    let handled := thenAlways (Handling.ofAct (d.accept url destination response)) Handling.close
    let (r, t, closings) := handled.run.run (t, 0)
    ⟨r, [request], closings, t⟩

/-- What a failure to unpack the archive `name` amounts to. -/
def unpackFailure (name : String) (destination : Path) : UnpackError → DownloadError
  | .damaged damage => .archive (.damaged name damage)
  | .unsupported feature => .archive (.unsupported name feature)
  | .io error => .archive (.unpack name destination error)
  | .badStream => .archive (.badStream name destination)
  | .crash crash => .crash crash

/-- Unpacks an archive by its kind. -/
def unpackArchive (name : String) (octets : Octets) (destination : Path) : Act DownloadError Unit :=
  Act.mapError (unpackFailure name destination)
    (if isTarName name then Act.ofOutcome fun t => (Tar.unpack octets, t)
      else Zip.unpack octets destination)

/-- Unpacks the archive in a temporary file, removes the file and marks the executable. -/
def install (d : Downloader) (url : String) (destination : Path) (executable : Option String)
    (path : Path) : Act DownloadError Unit := do
  let octets ← Act.look fun t => (t.read path.text).toOption.getD []
  thenAlways (unpackArchive (archiveNameOf url) octets destination) (discard path)
  match executable with
  | some name =>
    if d.marksExecutable then
      if hasNul (destination / name).text then Act.fail (.crash .nul)
      else Act.attempt fun t => t.permit (destination / name).text FileTree.executeBits
  | none => pure ()

/-- Downloads an archive and unpacks it into a directory. -/
def Downloader.fetch (d : Downloader) (url : String) (destination : Path) (executable : Option String)
    (t : FileTree) : Downloaded :=
  if hasNul destination.text then ⟨.error (.crash .nul), [], false, t⟩
  else
    match (Act.makeDirectories destination).outcome t with
    | (.error e, t) => ⟨.error (.archive (.createDestination destination e)), [], false, t⟩
    | (.ok (), t) =>
      let transfer := d.transfer url destination t
      match transfer.result with
      | .error e => ⟨.error e, transfer.requests, transfer.closings != 0, transfer.tree⟩
      | .ok path =>
        let (r, t) := (install d url destination executable path).outcome transfer.tree
        ⟨r, transfer.requests, transfer.closings != 0, t⟩

end SqlTidy
