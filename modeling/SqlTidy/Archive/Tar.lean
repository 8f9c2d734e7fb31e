import SqlTidy.Archive.Gzip
import SqlTidy.Entries
import SqlTidy.Number.Written

/-!
# Opening a compressed tar archive

A tar archive is a sequence of blocks. A member starts with a header, which carries its own checksum.
Some headers only describe the member behind them: long names, and records of keywords and values. So
opening an archive, which means reading its first member, may go through several headers.

Unpacking a tar archive is not supported by the runtime that is modelled: `unpack` opens it and then gives up.
-/

namespace SqlTidy.Tar

/-- What can be wrong with a header. -/
inductive HeaderFlaw where
  /-- There is nothing at all. -/
  | empty
  | truncated
  /-- A block of zeros, which marks the end of an archive. -/
  | endMark
  | invalid (text : String)
  /-- A flaw of a header that another one announced. -/
  | announced (text : String)
deriving DecidableEq, Repr

def HeaderFlaw.text : HeaderFlaw → String
  | .empty => "empty header"
  | .truncated => "truncated header"
  | .endMark => "end of file header"
  | .invalid text => text
  | .announced text => text

/-- Why a member cannot be read: its header is flawed, or reading fails altogether. -/
inductive Stop where
  | header (flaw : HeaderFlaw)
  | failure (error : UnpackError)

/-- An archive that is being read. -/
structure Archive where
  file : GzipFile
  /-- How far the archive has been read. -/
  position : Nat
  /-- Where the next member starts. -/
  next : Int
  /-- Records that hold for all members behind them. -/
  records : Entries Octets

/-- A step of reading an archive. -/
abbrev Reading (α : Type) := ExceptT Stop (StateM Archive) α

def invalidHeader : Stop := .header (.invalid "invalid header")

def blockSize : Nat := 512

/-- More octets than memory can hold. -/
def memoryLimit : Int := 2 ^ 40

/-- The next `n` octets, fewer at the end. -/
def readOctets (n : Int) : Reading Octets := do
  if n < -2 ^ 63 ∨ 2 ^ 63 ≤ n then throw (.failure (.crash .lengthTooLarge))
  else if n < 0 then throw (.failure (.unsupported .negativeLength))
  else if memoryLimit ≤ n then throw (.failure (.crash .outOfMemory))
  else
    let a ← get
    match a.file.read n.toNat with
    | .error e => throw (.failure e)
    | .ok (octets, file) =>
      set { a with file, position := a.position + octets.length }
      return octets

/-- The octets from `start` up to `stop`. -/
def part (bs : Octets) (start stop : Nat) : Octets := (bs.drop start).take (stop - start)

def isAscii (bs : Octets) : Bool := bs.all (· < 128)

def asciiText (bs : Octets) : List Char := bs.map fun b => Char.ofNat b.toNat

/-- A number field: binary if its first octet says so, else in octal digits. -/
def numberField (bs : Octets) : Except Stop Int :=
  match bs with
  | [] => .error (.failure (.crash .indexOutOfRange))
  | first :: rest =>
    let binary : Nat := rest.foldl (fun n b => 256 * n + b.toNat) 0
    if first = 0x80 then .ok binary
    else if first = 0xFF then .ok ((binary : Int) - 256 ^ rest.length)
    else
      let text := bs.takeWhile (· != 0)
      if !isAscii text then .error invalidHeader
      else
        match stripChars (asciiText text) with
        | [] => .ok 0
        | digits => (octalNumber? digits).elim (.error invalidHeader) .ok

/-- The sums of a header's octets, taken without and with a sign; those of the checksum itself count as
blanks. -/
def checksums (header : Octets) : List Int :=
  let octets := part header 0 148 ++ part header 156 512
  [octets.foldl (fun n b => n + b.toNat) 256,
    octets.foldl (fun n b => n + if b < 128 then (b.toNat : Int) else b.toNat - 256) 256]

/-- A header as far as opening an archive goes. -/
structure Header where
  kind : UInt8
  size : Int
  /-- Whether the map of a sparse file goes on behind the header. -/
  isExtended : Bool
  /-- The size of a sparse file with its holes. -/
  realSize : Int

def isSparse (kind : UInt8) : Bool := kind == 0x53

/-- Kinds of members whose data follows their header: plain files, and members of an unknown kind. -/
def hasData (kind : UInt8) : Bool :=
  kind ∈ [0x30, 0x00, 0x37, 0x53] || kind ∉ [0x31, 0x32, 0x33, 0x34, 0x35, 0x36, 0x4C, 0x4B]

/-- Checks number fields at the given places. -/
def checkFields (bs : Octets) (fields : List (Nat × Nat)) : Except Stop Unit :=
  fields.forM fun (start, stop) => do
    let _ ← numberField (part bs start stop)

/-- The header in a block. -/
def parseHeader (bs : Octets) : Except Stop Header := do
  if bs.isEmpty then .error (.header .empty)
  else if bs.length ≠ blockSize then .error (.header .truncated)
  else if bs.all (· == 0) then .error (.header .endMark)
  else
    let stated ← numberField (part bs 148 156)
    if stated ∉ checksums bs then .error (.header (.invalid "bad checksum"))
    else
      checkFields bs [(100, 108), (108, 116), (116, 124)]
      let size ← numberField (part bs 124 136)
      checkFields bs [(136, 148), (329, 337), (337, 345)]
      let named := part bs 0 100 |>.takeWhile (· != 0)
      let kind := bs[156]?.getD 0
      let kind := if kind = 0 ∧ named.getLast? = some 0x2F then 0x35 else kind
      let realSize ←
        if isSparse kind then do
          checkFields bs ((List.range 8).map fun i => (386 + 12 * i, 398 + 12 * i))
          numberField (part bs 483 495)
        else pure size
      return ⟨kind, size, bs[482]?.getD 0 != 0, realSize⟩

/-- A size in whole blocks. -/
def wholeBlocks (size : Int) : Int := -(Int.fdiv (-size) blockSize) * blockSize

/-- A number in a record. -/
def recordNumber (shown : String) (text : List Char) : Except Stop Int :=
  match decimalNumber text with
  | .ok n => .ok n
  | .error .malformed => .error (.failure (.unsupported (.notNumber shown)))
  | .error (.tooLong limit) => .error (.failure (.unsupported (.digits limit)))

/-- A number that a record gives as text. -/
def textNumber (bs : Octets) : Except Stop Int :=
  recordNumber (quotedLoosely bs) (utf8DecodeLenient bs).toList

/-- The size that records give a member; a text that should be a number has to be one. -/
def recordedSize (records : Entries Octets) (size : Int) : Except Stop Int :=
  records.foldlM
    (fun size (keyword, v) =>
      if keyword = "GNU.sparse.size" ∨ keyword = "GNU.sparse.realsize" then
        textNumber v
      else if keyword = "size" then .ok ((decimalNumber (utf8DecodeLenient v).toList).toOption.getD 0)
      else .ok size)
    size

/-- One record: the length of all of it, a blank, a keyword, an equals sign, a value, a line feed. Yields
keyword and value and the length. -/
def takeRecord (bs : Octets) : Option (Octets × Octets × Nat) := do
  let digits := bs.takeWhile fun b => 0x30 ≤ b && b ≤ 0x39
  let length := digitsValue 10 (digits.map fun b => b.toNat - 48)
  let fields := (bs.take (length - 1)).drop (digits.length + 1)
  let keyword := fields.takeWhile (· != 0x3D)
  if digits.isEmpty ∨ 20 < digits.length ∨ bs[digits.length]? ≠ some 0x20 ∨ length < 5
      ∨ bs.length < length ∨ keyword.isEmpty ∨ keyword.length = fields.length
      ∨ bs[length - 1]? ≠ some 0x0A then none
  else return (keyword, fields.drop (keyword.length + 1), length)

/-- The records in a block of them, up to a NUL. The first argument bounds their number. -/
def takeRecords : Nat → Octets → Except Stop (List (Octets × Octets))
  | 0, _ => .ok []
  | steps + 1, bs =>
    if bs.isEmpty ∨ bs.head? = some 0 then .ok []
    else
      match takeRecord bs with
      | none => .error invalidHeader
      | some (keyword, v, length) => do
        return (keyword, v) :: (← takeRecords steps (bs.drop length))

/-- Numbers in the records of a sparse map. -/
def checkSparseRecords (records : List (Octets × Octets)) : Except Stop Unit :=
  records.forM fun (keyword, v) =>
    if keyword ∈ ["GNU.sparse.offset", "GNU.sparse.numbytes"].map utf8Encode then
      match (utf8Decode v).toOption.map fun text => decimalNumber text.toList with
      | some (.ok _) => .ok ()
      | _ => .error invalidHeader
    else .ok ()

/-- The pieces of a text between its commas. -/
def splitCommas : Octets → List Octets
  | [] => [[]]
  | 0x2C :: rest => [] :: splitCommas rest
  | b :: rest =>
    match splitCommas rest with
    | first :: more => (b :: first) :: more
    | [] => [[b]]

/-- A sparse map in one record. -/
def checkSparseList (v : Octets) : Except Stop Unit :=
  (splitCommas v).forM fun text => do
    let _ ← textNumber text

/-- The number in a line, and what follows the line. -/
def takeLine (bs : Octets) : Except Stop (Int × Octets) :=
  let line := bs.takeWhile (· != 0x0A)
  if line.length = bs.length then .error (.failure (.unsupported .missingLine))
  else if !isAscii line then .error (.failure (.unsupported (.notNumber (quotedOctets line))))
  else do
    let n ← recordNumber (quotedOctets line) (asciiText line)
    return (n, bs.drop (line.length + 1))

/-- A member as far as opening an archive goes. -/
structure Member where
  kind : UInt8
  size : Int
  dataStart : Nat

/-- Notes where the data of a member ends. -/
def skipData (m : Member) : Reading Unit :=
  modify fun a =>
    { a with next := m.dataStart + if hasData m.kind then wholeBlocks m.size else 0 }

/-- A member that is described by its header alone, apart from records that hold for all members. -/
def plainMember (h : Header) : Reading Member := do
  let a ← get
  let m : Member := ⟨h.kind, h.size, a.position⟩
  skipData m
  return { m with size := ← ExceptT.mk (pure (recordedSize a.records h.size)) }

/-- Reads the rest of a sparse map behind a header. The first argument bounds the number of blocks. -/
def skipSparseMap : Nat → Reading Unit
  | 0 => pure ()
  | steps + 1 => do
    let bs ← readOctets blockSize
    ExceptT.mk (pure (checkFields bs ((List.range 42).map fun i => (12 * i, 12 * i + 12))))
    match bs[504]? with
    | none => throw (.failure (.crash .indexOutOfRange))
    | some flag => if flag ≠ 0 then skipSparseMap steps

/-- A sparse file whose map starts in the header. -/
def sparseMember (steps : Nat) (h : Header) : Reading Member := do
  if h.isExtended then skipSparseMap steps
  let a ← get
  set { a with next := a.position + wholeBlocks h.size }
  return ⟨h.kind, h.realSize, a.position⟩

/-- Reads the lines of a sparse map at the start of a member's data. The first argument bounds their
number. -/
def skipSparseLines : Nat → Int → Octets → Reading Unit
  | 0, _, _ => pure ()
  | steps + 1, lines, bs => do
    if 0 < lines then
      let bs ← if bs.contains 0x0A then pure bs else (bs ++ ·) <$> readOctets blockSize
      let (_, bs) ← ExceptT.mk (pure (takeLine bs))
      skipSparseLines steps (lines - 1) bs

/-- Checks the sparse map that records tell of. -/
def checkSparseMap (steps : Nat) (own : List (Octets × Octets)) (records : Entries Octets) :
    Reading (Option Nat) := do
  match Entries.get? records "GNU.sparse.map" with
  | some v =>
    ExceptT.mk (pure (checkSparseList v))
    return none
  | none =>
    if (Entries.get? records "GNU.sparse.size").isSome then
      ExceptT.mk (pure (checkSparseRecords own))
      return none
    else if Entries.get? records "GNU.sparse.major" = some (utf8Encode "1")
        ∧ Entries.get? records "GNU.sparse.minor" = some (utf8Encode "0") then
      let bs ← readOctets blockSize
      let (lines, bs) ← ExceptT.mk (pure (takeLine bs))
      skipSparseLines steps (2 * lines) bs
      return some (← get).position
    else return none

/-- A member behind a header that announces it. -/
def announced (x : Reading Member) : Reading Member :=
  tryCatch x fun
    | .header flaw => throw (.header (.announced flaw.text))
    | stop => throw stop

/-- The next member. The first arguments bound the number of steps and of headers. -/
def readMember (steps : Nat) : Nat → Reading Member
  | 0 => throw (.header .empty)
  | headers + 1 => do
    let h ← ExceptT.mk (pure (parseHeader (← readOctets blockSize)))
    if h.kind = 0x4C ∨ h.kind = 0x4B then
      let _ ← readOctets (wholeBlocks h.size)
      announced (readMember steps headers)
    else if isSparse h.kind then sparseMember steps h
    else if h.kind ∈ [0x78, 0x67, 0x58] then
      let bs ← readOctets (wholeBlocks h.size)
      let own ← ExceptT.mk (pure (takeRecords (bs.length + 1) bs))
      let a ← get
      let records := Entries.putAll a.records
        (own.map fun (keyword, v) => (utf8DecodeLenient keyword, v))
      if h.kind = 0x67 then set { a with records }
      let m ← announced (readMember steps headers)
      let m ← do
        let dataStart? ← checkSparseMap steps own records
        pure { m with dataStart := dataStart?.getD m.dataStart }
      if h.kind = 0x67 then return m
      else
        let m := { m with size := ← ExceptT.mk (pure (recordedSize records m.size)) }
        if (Entries.get? records "size").isSome then skipData m
        return m
    else plainMember h

/-- Opens an archive: what is wrong with it, if anything is. Nothing is wrong with an archive that starts
with its end, nor with records that turn out to be flawed when their member has been read. -/
def opening (bs : Octets) : Except UnpackError Unit :=
  let bound := 1040 * bs.length + 2
  match (readMember bound bound).run ⟨.opened bs, 0, 0, []⟩ with
  | (.ok _, _) => .ok ()
  | (.error (.failure e), _) => .error e
  | (.error (.header flaw), a) =>
    match flaw with
    | .endMark => .ok ()
    | .announced text => .error (.damaged (.tarHeader text))
    | .empty => if a.next = 0 then .error (.damaged .emptyTar) else .ok ()
    | flaw => if a.next = 0 then .error (.damaged (.tarHeader flaw.text)) else .ok ()

/-- Unpacks an archive: it is opened, and then turns out not to be supported. This is what runtimes before 3.11.4
do, whose reader takes no `filter` and raises a `TypeError` when it is given one. Later runtimes unpack the
archive; they are not modelled. -/
def unpack (bs : Octets) : Except UnpackError Unit := do
  opening bs
  .error (.crash .tarUnsupported)

end SqlTidy.Tar
