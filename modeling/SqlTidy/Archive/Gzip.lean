import SqlTidy.Archive.Checksum
import SqlTidy.Archive.Error

/-!
# Files in gzip form

A file in gzip form is a sequence of members: a header, compressed data, and the checksum and the size of
what it expands to. Zeros may follow a member. The expanded file is read in the order of its octets
(`GzipFile.read`); it is expanded ahead of what is asked for, up to the size of a buffer, and so a flaw
may show before the octets in front of it have been asked for.
-/

namespace SqlTidy

/-- A member that is being expanded. -/
structure GzipMember where
  inflater : Inflater
  /-- How much of the data that was read has not been looked at. -/
  unseen : Nat
  isOver : Bool
  /-- The checksum of what has been expanded, in the making. -/
  register : UInt32
  /-- How much has been expanded. -/
  size : Nat

/-- A file in gzip form that is being read. -/
structure GzipFile where
  /-- The file, from the octet on that is read next. -/
  input : Octets
  member : Option GzipMember
  /-- Expanded octets that have not been asked for. -/
  spare : Octets

namespace GzipFile

def opened (bs : Octets) : GzipFile := ⟨bs, none, []⟩

def ended : UnpackError :=
  .crash (.dataEnded "Compressed file ended before the end-of-stream marker was reached")

/-- So many octets, which have to be there. -/
def exactly (n : Nat) (bs : Octets) : Except UnpackError (Octets × Octets) :=
  if bs.length < n then .error ended else .ok (bs.take n, bs.drop n)

/-- The octets behind a NUL, or none if there is none. -/
def afterNul (bs : Octets) : Octets := (bs.dropWhile (· != 0)).drop 1

def hasBit (flags : UInt8) (bit : Nat) : Bool := flags.toNat / 2 ^ bit % 2 == 1

/-- The number that octets write, least significant first. -/
def littleEndian (bs : Octets) : Nat := bs.foldr (fun b n => b.toNat + 256 * n) 0

/-- What follows the header of a member; nothing if the file is at its end. -/
def afterHeader (bs : Octets) : Except UnpackError (Option Octets) :=
  match bs with
  | [] => .ok none
  | 0x1F :: 0x8B :: rest => do
    let (fixed, rest) ← exactly 8 rest
    let flags := fixed[1]?.getD 0
    if fixed[0]?.getD 0 ≠ 8 then .error (.damaged .notGzip)
    else
      let rest ←
        if hasBit flags 2 then do
          let (size, rest) ← exactly 2 rest
          let (_, rest) ← exactly (littleEndian size) rest
          pure rest
        else pure rest
      let rest := if hasBit flags 3 then afterNul rest else rest
      let rest := if hasBit flags 4 then afterNul rest else rest
      let rest ← if hasBit flags 1 then (exactly 2 rest).map (·.2) else pure rest
      return some rest
  | _ => .error (.damaged .notGzip)

/-- What follows the end of a member: its checksum and its size have to be right. -/
def afterMember (m : GzipMember) (bs : Octets) : Except UnpackError Octets := do
  let (trailer, rest) ← exactly 8 bs
  if littleEndian (trailer.take 4) ≠ (~~~m.register).toNat
      ∨ littleEndian (trailer.drop 4) ≠ m.size % 2 ^ 32 then .error (.damaged .notGzip)
  else return rest.dropWhile (· == 0)

/-- The member to go on with, or none at the end of the file. -/
def current (f : GzipFile) : Except UnpackError (Option GzipMember × Octets) := do
  let input ←
    match f.member with
    | some m => if m.isOver then afterMember m f.input else return (some m, f.input)
    | none => .ok f.input
  match ← afterHeader input with
  | none => return (none, [])
  | some input => return (some ⟨.initial, 0, false, 0xFFFFFFFF, 0⟩, input)

/-- The size of the buffers. -/
def bufferSize : Nat := 8192

/-- Expands up to `size` octets, at least one unless the file is at its end. The first argument bounds the
number of pieces that are read. -/
def expand : Nat → Nat → GzipFile → Except UnpackError (Octets × GzipFile)
  | 0, _, f => .ok ([], f)
  | steps + 1, size, f => do
    match ← f.current with
    | (none, input) => return ([], { f with input, member := none })
    | (some m, input) =>
      let piece := input.take (bufferSize - m.unseen)
      let input := input.drop piece.length
      let isEmpty := m.unseen == 0 && piece.isEmpty
      let before := m.inflater.output.size
      let (inflater, pause) := (m.inflater.feed piece).expand size
      match pause with
      | .corrupt flaw => .error (.damaged (.compressedData flaw))
      | _ =>
        let octets := (inflater.output.extract before inflater.output.size).toList
        let isOver := pause == .over
        let m : GzipMember := {
          inflater
          unseen := if isOver then 0 else inflater.unseen pause
          isOver
          register := octets.foldl crcStep m.register
          size := m.size + octets.length }
        let f := { f with input := if isOver then inflater.rest ++ input else input, member := some m }
        if !octets.isEmpty then return (octets, f)
        else if isEmpty then .error ended
        else expand steps size f

/-- Expands up to `size` octets, at least one unless the file is at its end. -/
def expandSome (f : GzipFile) (size : Nat) : Except UnpackError (Octets × GzipFile) :=
  expand (f.input.length + bufferSize + 3) size f

/-- Reads whole buffers at once; `got` holds the pieces so far, last first. Yields how much is missing,
or nothing if the file is at its end. The first argument bounds the number of pieces. -/
def readBuffers : Nat → Nat → List Octets → GzipFile →
    Except UnpackError (Option Nat × List Octets × GzipFile)
  | 0, _, got, f => .ok (none, got, f)
  | steps + 1, n, got, f =>
    if n < bufferSize then .ok (some n, got, f)
    else do
      let (octets, f) ← f.expandSome (n / bufferSize * bufferSize)
      if octets.isEmpty then return (none, got, f)
      else readBuffers steps (n - octets.length) (octets :: got) f

/-- Reads less than a buffer through a buffer of which `filled` octets are in use. The first argument
bounds the number of pieces. -/
def readBuffered : Nat → Nat → Nat → List Octets → GzipFile → Except UnpackError (List Octets × GzipFile)
  | 0, _, _, got, f => .ok (got, f)
  | steps + 1, n, filled, got, f =>
    if n = 0 || bufferSize ≤ filled then .ok (got, f)
    else do
      let (octets, f) ← f.expandSome (bufferSize - filled)
      if octets.isEmpty then return (got, f)
      else if octets.length < n then
        readBuffered steps (n - octets.length) (filled + octets.length) (octets :: got) f
      else return (octets.take n :: got, { f with spare := octets.drop n })

/-- The next `n` octets of the expanded file, fewer if it ends. -/
def read (f : GzipFile) (n : Nat) : Except UnpackError (Octets × GzipFile) :=
  if n ≤ f.spare.length then .ok (f.spare.take n, { f with spare := f.spare.drop n })
  else do
    match ← readBuffers (n + 1) (n - f.spare.length) [f.spare] { f with spare := [] } with
    | (none, got, f) => return (got.reverse.flatten, f)
    | (some n, got, f) =>
      let (got, f) ← readBuffered (bufferSize + 1) n 0 got f
      return (got.reverse.flatten, f)

end GzipFile

end SqlTidy
