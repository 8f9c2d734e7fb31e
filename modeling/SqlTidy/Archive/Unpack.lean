import SqlTidy.Archive.Content
import SqlTidy.Disk.Act

/-!
# Unpacking a zip archive

Members are unpacked in the order of the directory; of members with one name the last is meant. Every
member goes below the destination: empty names, single and double dots in its name are left out. A
member is only created once its data has been found; octets reach the disk in whole blocks, so damage
shows up after the blocks before it have been written.
-/

namespace SqlTidy.Zip

/-- The letter for the kind of a file in a listing. -/
def kindLetter (mode : Nat) : String :=
  match mode / 4096 % 16 with
  | 8 => "-"
  | 4 => "d"
  | 10 => "l"
  | 6 => "b"
  | 2 => "c"
  | 1 => "p"
  | 12 => "s"
  | _ => "?"

/-- The letters for one group of permissions; `special` is the extra bit that shows in the last one,
as the letter `set` with the permission to execute and `bare` without. -/
def permissionLetters (mode shift special : Nat) (set bare : String) : String :=
  let bits := mode / 2 ^ shift % 8
  (if bits / 4 % 2 = 1 then "r" else "-") ++ (if bits / 2 % 2 = 1 then "w" else "-") ++
    (if mode / special % 2 = 1 then if bits % 2 = 1 then set else bare
      else if bits % 2 = 1 then "x" else "-")

/-- A mode as listings show it. -/
def modeText (mode : Nat) : String :=
  kindLetter mode ++ permissionLetters mode 6 0o4000 "s" "S" ++ permissionLetters mode 3 0o2000 "s" "S" ++
    permissionLetters mode 0 0o1000 "t" "T"

/-- The names of compression methods. -/
def methodNames : List (Nat × String) :=
  [(1, "shrink"), (2, "reduce"), (3, "reduce"), (4, "reduce"), (5, "reduce"), (6, "implode"),
    (7, "tokenize"), (8, "deflate"), (9, "deflate64"), (10, "implode"), (12, "bzip2"), (14, "lzma"),
    (18, "terse"), (19, "lz77"), (97, "wavpack"), (98, "ppmd")]

def Member.isDirectory (m : Member) : Bool := m.name.toList.getLast? == some '/'

/-- How complaints show a member. -/
def Member.text (m : Member) : String :=
  let high := m.attributes / 65536
  let low := m.attributes % 65536
  "<ZipInfo filename=" ++ quoted m.name ++
    (if m.method = 0 then ""
      else " compress_type=" ++ ((methodNames.lookup m.method).getD (toString m.method))) ++
    (if high = 0 then "" else " filemode=" ++ quoted (modeText high)) ++
    (if low = 0 then "" else " external_attr=0x" ++ hexText 0 low) ++
    (if m.isDirectory && m.size == 0 then "" else " file_size=" ++ toString m.size) ++
    (if (m.isDirectory && m.compressedSize == 0) || (m.method == 0 && m.size == m.compressedSize) then ""
      else " compress_size=" ++ toString m.compressedSize) ++ ">"

/-- The largest offset that the system can go to. -/
def offsetLimit : Int := 2 ^ 63

/-- Where the data of a member starts, and how it is read. The member's own header has to be there and to
agree with the directory, the data has to end where something else starts, and it must be of a kind that
can be unpacked. -/
def dataStart (bs : Octets) (m : Member) : Except UnpackError (Nat × Decoder) :=
  if m.header < 0 then .error (.io ⟨.invalidArgument, none⟩)
  else if offsetLimit ≤ m.header then .error (.unsupported .offset)
  else
    let start := m.header.toNat
    let header := slice bs start headerSize
    if header.length < headerSize then .error (.damaged .headerEnded)
    else if !headerMagic.isPrefixOf header then .error (.damaged .headerMagic)
    else do
      let nameSize := numberAt header 26 2
      let extraSize := numberAt header 28 2
      let rawName := slice bs (start + headerSize) nameSize
      let dataStart := min (start + headerSize + nameSize + extraSize) bs.length
      if hasFlag m.flags 5 then .error (.unsupported .patchedData)
      else if hasFlag m.flags 6 then .error (.unsupported .strongEncryption)
      else
        let name ← decodeName (numberAt header 6 2) rawName
        if name ≠ m.fullName then .error (.damaged (.nameMismatch m.fullName rawName))
        else if m.limit < dataStart + m.compressedSize then .error (.damaged (.overlap m.fullName))
        else if hasFlag m.flags 0 then .error (.unsupported (.encrypted m.text))
        else
          match decoderOf? m.method with
          | none => .error (.unsupported .method)
          | some decoder => return (dataStart, decoder)

/-- The names below the destination that a member goes to. -/
def memberNames (m : Member) : List String :=
  (pathNames m.name).filter (· ≠ "..")

/-- Creates the directories above a path that are missing. The names are given innermost first. -/
def makeMissing (anchor : Anchor) : List String → Act IoError Unit
  | [] => pure ()
  | name :: above =>
    let path := (Path.mk anchor (name :: above).reverse).text
    let upper := (Path.mk anchor above.reverse).text
    Act.ofOutcome fun t =>
      let (r, t) :=
        if above.isEmpty || t.leads upper then (.ok (), t)
        else
          match (makeMissing anchor above).outcome t with
          | (.error e, t) => if e.cause = .alreadyThere then (.ok (), t) else (.error e, t)
          | r => r
      match r with
      | .error e => (.error e, t)
      | .ok () =>
        match t.makeDirectory path with
        | .ok t => (.ok (), t)
        | .error cause => (.error ⟨cause, some path⟩, t)

/-- Writes a member. -/
def writeMember (bs : Octets) (m : Member) (target : String) : Act UnpackError Unit :=
  Act.ofOutcome fun t =>
    match dataStart bs m with
    | .error e => (.error e, t)
    | .ok (start, decoder) =>
      match t.write target [] with
      | .error cause => (.error (.io ⟨cause, some target⟩), t)
      | .ok t =>
        let (octets, failure) := content bs m start decoder
        (failure.elim (.ok ()) .error, (t.write target octets).toOption.getD t)

/-- Unpacks one member below a directory. -/
def unpackMember (bs : Octets) (destination : Path) (m : Member) : Act UnpackError Unit := do
  let target := Path.normal ⟨destination.anchor, destination.parts ++ memberNames m⟩
  let upper := target.parent
  let upperIsThere ← Act.look fun t => target.parts.isEmpty || t.leads upper.text
  if !upperIsThere then Act.mapError .io (makeMissing upper.anchor upper.parts.reverse)
  if m.name = "" then Act.fail (.crash .namelessMember)
  else if m.isDirectory then
    let isThere ← Act.look fun t => t.isDirectory target.text
    if !isThere then Act.mapError .io (Act.call target.text fun t => t.makeDirectory target.text)
  else writeMember bs m target.text

/-- The member that a name stands for: the last with that name. -/
def lastNamed (ms : List Member) (m : Member) : Member :=
  (ms.reverse.find? fun other => other.name == m.name).getD m

/-- Unpacks an archive below a directory. -/
def unpack (bs : Octets) (destination : Path) : Act UnpackError Unit := do
  match members bs with
  | .error e => Act.fail e
  | .ok ms => ms.forM fun m => unpackMember bs destination (lastNamed ms m)

end SqlTidy.Zip
