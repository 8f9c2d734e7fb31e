import SqlTidy.Archive.Error
import SqlTidy.Text.CodePage437

/-!
# The directory of a zip archive

An archive ends with a record that says where its directory is, perhaps with a comment behind it and a
wider record before it. The directory has one record for each member. Data in front of the archive
proper is allowed for: offsets in the directory are shifted by its length (`EndRecord.shift`).
-/

namespace SqlTidy.Zip

/-- The octets from `offset` on, as many as `size` at most. -/
def slice (bs : Octets) (offset size : Nat) : Octets := (bs.drop offset).take size

/-- A number whose octets are given least significant first. -/
def number (bs : Octets) : Nat := bs.foldr (fun b n => b.toNat + 256 * n) 0

/-- The number in `size` octets from `offset` on. -/
def numberAt (bs : Octets) (offset size : Nat) : Nat := number (slice bs offset size)

def endMagic : Octets := [0x50, 0x4B, 0x05, 0x06]

def wideLocatorMagic : Octets := [0x50, 0x4B, 0x06, 0x07]

def wideEndMagic : Octets := [0x50, 0x4B, 0x06, 0x06]

def memberMagic : Octets := [0x50, 0x4B, 0x01, 0x02]

def headerMagic : Octets := [0x50, 0x4B, 0x03, 0x04]

def endSize : Nat := 22

def wideLocatorSize : Nat := 20

def wideEndSize : Nat := 56

def memberSize : Nat := 46

def headerSize : Nat := 30

/-- The record at the end of an archive: where it is, and the place and size of the directory. -/
structure EndRecord where
  location : Nat
  size : Nat
  offset : Nat
  wide : Bool
deriving DecidableEq, Repr

/-- How far everything lies behind where the records say it does. -/
def EndRecord.shift (e : EndRecord) : Int :=
  (e.location : Int) - e.size - e.offset - (if e.wide then wideEndSize + wideLocatorSize else 0)

/-- The last place where `magic` stands; `position` is that of the first octet. -/
def lastIndex? (magic : Octets) (position : Nat) : Octets → Option Nat
  | [] => none
  | b :: rest =>
    match lastIndex? magic (position + 1) rest with
    | some i => some i
    | none => if magic.isPrefixOf (b :: rest) then some position else none

/-- Where the end record stands: at the very end without a comment, or else at the last place that
looks like one. -/
def endLocation? (bs : Octets) : Option Nat :=
  if bs.length < endSize then none
  else
    let last := bs.length - endSize
    let tail := bs.drop last
    if endMagic.isPrefixOf tail && numberAt tail 20 2 == 0 then some last
    else
      let start := bs.length - (65536 + endSize)
      (lastIndex? endMagic start (bs.drop start)).filter fun i => i + endSize ≤ bs.length

/-- The wider end record before the plain one, if there is one. -/
def widen (bs : Octets) (e : EndRecord) : Except UnpackError EndRecord :=
  if e.location < wideLocatorSize then .ok e
  else
    let locator := slice bs (e.location - wideLocatorSize) wideLocatorSize
    if !wideLocatorMagic.isPrefixOf locator then .ok e
    else if numberAt locator 4 4 ≠ 0 ∨ 1 < numberAt locator 16 4 then .error (.damaged .severalDisks)
    else if e.location < wideLocatorSize + wideEndSize then .error (.damaged .notZip)
    else
      let record := slice bs (e.location - wideLocatorSize - wideEndSize) wideEndSize
      if !wideEndMagic.isPrefixOf record then .ok e
      else .ok ⟨e.location, numberAt record 40 8, numberAt record 48 8, true⟩

def endRecord (bs : Octets) : Except UnpackError EndRecord :=
  match endLocation? bs with
  | none => .error (.damaged .notZip)
  | some i =>
    let record := slice bs i endSize
    widen bs ⟨i, numberAt record 12 4, numberAt record 16 4, false⟩

/-- A member of an archive, as its directory describes it. -/
structure Member where
  /-- The name as written. -/
  fullName : String
  /-- The name up to its first NUL. -/
  name : String
  flags : Nat
  method : Nat
  checksum : Nat
  compressedSize : Nat
  size : Nat
  attributes : Nat
  /-- Where the member's own header starts. -/
  header : Int
  /-- Where the next header or the directory starts. -/
  limit : Int
deriving DecidableEq, Repr

def hasFlag (flags bit : Nat) : Bool := flags / 2 ^ bit % 2 == 1

/-- A name in UTF-8 if the flags say so, else in code page 437. -/
def decodeName (flags : Nat) (bs : Octets) : Except UnpackError String :=
  if hasFlag flags 11 then (utf8Decode bs).mapError fun e => .unsupported (.name e)
  else .ok (decode437 bs)

/-- Takes the next eight octets for a number that does not fit its own field. -/
def wideNumber (overflows : Bool) (name : String) (value : Nat) (data : Octets) :
    Except UnpackError (Nat × Octets) :=
  if !overflows then .ok (value, data)
  else if data.length < 8 then .error (.damaged (.wideField name))
  else .ok (numberAt data 0 8, data.drop 8)

/-- Takes numbers that do not fit their own fields from an extra field. -/
def applyWide (m : Member) (data : Octets) : Except UnpackError Member := do
  let (size, data) ←
    wideNumber (m.size == 0xFFFFFFFF || m.size == 0xFFFFFFFFFFFFFFFF) "File size" m.size data
  let (compressedSize, data) ←
    wideNumber (m.compressedSize == 0xFFFFFFFF) "Compress size" m.compressedSize data
  let (header, _) ← wideNumber (m.header == 0xFFFFFFFF) "Header offset" m.header.toNat data
  return { m with size, compressedSize, header }

/-- Goes through the extra fields of a member. The first argument bounds their number. -/
def applyExtra : Nat → Member → Octets → Except UnpackError Member
  | 0, m, _ => .ok m
  | steps + 1, m, extra =>
    if extra.length < 4 then .ok m
    else do
      let kind := numberAt extra 0 2
      let size := numberAt extra 2 2
      if extra.length < size + 4 then .error (.damaged (.extraField kind size))
      else
        let m ← if kind = 1 then applyWide m (slice extra 4 size) else .ok m
        applyExtra steps m (extra.drop (size + 4))

/-- The newest version of the format that can be unpacked, in tenths. -/
def versionLimit : Nat := 63

/-- The member that a record describes, and the length that the record claims. -/
def takeMember (shift : Int) (bs : Octets) : Except UnpackError (Member × Nat) :=
  let record := bs.take memberSize
  if record.length < memberSize then .error (.damaged .directoryEnded)
  else if !memberMagic.isPrefixOf record then .error (.damaged .directoryMagic)
  else do
    let flags := numberAt record 8 2
    let nameSize := numberAt record 28 2
    let extraSize := numberAt record 30 2
    let commentSize := numberAt record 32 2
    let fullName ← decodeName flags (slice bs memberSize nameSize)
    if versionLimit < numberAt record 6 1 then .error (.unsupported (.version (numberAt record 6 1)))
    else
      let m : Member := {
        fullName
        name := String.ofList (fullName.toList.takeWhile (· != '\x00'))
        flags
        method := numberAt record 10 2
        checksum := numberAt record 16 4
        compressedSize := numberAt record 20 4
        size := numberAt record 24 4
        attributes := numberAt record 38 4
        header := numberAt record 42 4
        limit := 0 }
      let extra := slice bs (memberSize + nameSize) extraSize
      let m ← applyExtra (extra.length + 1) m extra
      return ({ m with header := m.header + shift }, memberSize + nameSize + extraSize + commentSize)

/-- The members from here on, up to the claimed size of the directory. The first argument bounds their
number. -/
def takeMembers (shift : Int) : Nat → Nat → Octets → Except UnpackError (List Member)
  | 0, _, _ => .ok []
  | steps + 1, left, bs =>
    if left = 0 then .ok []
    else do
      let (m, claimed) ← takeMember shift bs
      return m :: (← takeMembers shift steps (left - claimed) (bs.drop claimed))

/-- Where a member has to end: at the next header, or at its own if a member before it has the same one,
or at the directory, which starts at `start`. -/
def limitOf (start : Int) (before ms : List Member) (m : Member) : Int :=
  if before.any fun other => other.header == m.header then m.header
  else
    ((ms.map Member.header).filter (m.header < ·)).foldl
      (fun nearest h => some (nearest.elim h (min h))) none |>.getD start

/-- Members with their limits; `before` holds those in front of them. -/
def setLimits (start : Int) (ms : List Member) : List Member → List Member → List Member
  | _, [] => []
  | before, m :: rest =>
    { m with limit := limitOf start before ms m } :: setLimits start ms (m :: before) rest

/-- The members of an archive, in the order of its directory. -/
def members (bs : Octets) : Except UnpackError (List Member) := do
  let e ← endRecord bs
  let start := (e.offset : Int) + e.shift
  if start < 0 then .error (.damaged .directoryOffset)
  else
    let directory := slice bs start.toNat e.size
    let ms ← takeMembers e.shift (directory.length + 1) e.size directory
    return setLimits start ms [] ms

end SqlTidy.Zip
