import SqlTidy.Archive.Bzip2
import SqlTidy.Archive.Checksum
import SqlTidy.Archive.Directory
import SqlTidy.Archive.Lzma

/-!
# The content of a member

The data of a member is read from the archive in pieces, expanded, and handed on in blocks
(`Reader.block`). The checksum is compared as soon as the content is complete, before its last block is
handed on. So of a damaged member only the blocks before the damage are there.
-/

namespace SqlTidy.Zip

/-- How the data of a member stands for its content. -/
inductive Decoder where
  | stored
  /-- Data behind which so many octets have been read but not been looked at. -/
  | deflated (inflater : Inflater) (unseen : Nat)
  /-- All data so far, of whose content so many octets have been handed on. -/
  | bzip2 (data : Octets) (given : Nat)
  | lzma (data : Octets) (given : Nat)

/-- Data is read in pieces of at least so many octets. -/
def leastPiece : Nat := 4096

/-- More than what can come out of data that has been read but not been put out. -/
def flushRoom : Nat := 4096

namespace Decoder

def unseen : Decoder → Nat
  | .deflated _ n => n
  | _ => 0

/-- Expands all lzma data so far. It starts with the size of its properties and the properties. -/
def expandLzma (data : Octets) : Except UnpackError (Array UInt8 × Bool) :=
  let size := numberAt data 2 2
  if data.length ≤ 4 ∨ data.length ≤ 4 + size then .ok (#[], false)
  else
    match Lzma.Properties.ofOctets? (slice data 4 size) with
    | none => .error (.crash (.lzma "Invalid or unsupported options"))
    | some p =>
      match Lzma.expand p (data.drop (4 + size)) with
      | (_, .corrupt) => .error (.crash (.lzma "Corrupt input data"))
      | (octets, ending) => .ok (octets, ending == .over)

/-- Expands a piece of data, as far as about `wanted` octets go; `isLast` says that it is the last piece.
Yields octets and whether there are no more. -/
def step (d : Decoder) (wanted : Nat) (piece : Octets) (isLast : Bool) :
    Except UnpackError (Octets × Bool × Decoder) :=
  match d with
  | .stored => .ok (piece, isLast, .stored)
  | .deflated inflater _ =>
    let before := inflater.output.size
    let (inflater, pause) := (inflater.feed piece).expand (max wanted leastPiece)
    let unseen := inflater.unseen pause
    match pause with
    | .corrupt _ => .error (.crash .corruptData)
    | _ =>
      if pause = .over || (isLast && unseen == 0) then
        let (inflater, _) := inflater.expand flushRoom
        .ok ((inflater.output.extract before inflater.output.size).toList, true, .deflated inflater 0)
      else
        .ok ((inflater.output.extract before inflater.output.size).toList, false,
          .deflated inflater unseen)
  | .bzip2 data given =>
    let data := data ++ piece
    match Bzip2.expand data with
    | (_, .corrupt) => .error .badStream
    | (octets, ending) =>
      .ok ((octets.extract given octets.size).toList, ending == .over || isLast, .bzip2 data octets.size)
  | .lzma data given => do
    let data := data ++ piece
    let (octets, isOver) ← expandLzma data
    return ((octets.extract given octets.size).toList, isOver || isLast, .lzma data octets.size)

end Decoder

/-- A member that is being read. -/
structure Reader where
  name : String
  /-- The checksum that the content should have. -/
  stated : Nat
  decoder : Decoder
  /-- The archive, from the octet on that is read next. -/
  archive : Octets
  /-- How much of the data is not yet read. -/
  dataLeft : Nat
  /-- How much of the content is not yet there. -/
  left : Nat
  isOver : Bool
  /-- The checksum of what is there, in the making. -/
  register : UInt32
  /-- Content that is there but was not asked for. -/
  spare : Octets

namespace Reader

/-- Reads at least `n` octets of data if there are so many. -/
def take (r : Reader) (n : Nat) : Except UnpackError (Octets × Reader) :=
  if r.dataLeft = 0 then .ok ([], r)
  else
    let n := min (max n leastPiece) r.dataLeft
    let piece := r.archive.take n
    if piece.isEmpty then .error (.crash (.dataEnded ""))
    else .ok (piece, { r with archive := r.archive.drop n, dataLeft := r.dataLeft - piece.length })

/-- Gets more of the content, about `n` octets. -/
def fill (r : Reader) (n : Nat) : Except UnpackError (Octets × Reader) := do
  let (piece, r) ← if r.decoder.unseen < n then r.take (n - r.decoder.unseen) else .ok ([], r)
  let (octets, isOver, decoder) ← r.decoder.step n piece (r.dataLeft == 0)
  let octets := octets.take r.left
  let left := r.left - octets.length
  let isOver := isOver || left == 0
  let register := octets.foldl crcStep r.register
  if isOver && (~~~register).toNat != r.stated then .error (.damaged (.checksum r.name))
  else return (octets, { r with decoder, left, isOver, register })

/-- Gets `n` octets of the content, or fewer if there are no more; `got` holds the pieces so far, last
first. The first argument bounds the number of pieces. -/
def gather : Nat → Nat → List Octets → Reader → Except UnpackError (Octets × Reader)
  | 0, _, got, r => .ok (got.reverse.flatten, r)
  | steps + 1, n, got, r =>
    if n = 0 || r.isOver then .ok (got.reverse.flatten, r)
    else do
      let (octets, r) ← r.fill n
      if n < octets.length then
        return ((octets.take n :: got).reverse.flatten, { r with spare := octets.drop n })
      else gather steps (n - octets.length) (octets :: got) r

/-- The size of a block. -/
def blockSize : Nat := 65536

/-- The next block of the content. It is empty if there is no more. -/
def block (r : Reader) : Except UnpackError (Octets × Reader) :=
  if blockSize < r.spare.length then
    .ok (r.spare.take blockSize, { r with spare := r.spare.drop blockSize })
  else
    let n := blockSize - r.spare.length
    gather (n + r.dataLeft + 1) n [r.spare] { r with spare := [] }

/-- All blocks from here on, and the failure that stopped them if one did. The first argument bounds
their number. -/
def blocks : Nat → Reader → List Octets × Option UnpackError
  | 0, _ => ([], none)
  | steps + 1, r =>
    match r.block with
    | .error e => ([], some e)
    | .ok ([], _) => ([], none)
    | .ok (octets, r) =>
      let (more, failure) := blocks steps r
      (octets :: more, failure)

end Reader

/-- The decoder for a method, if it is known. -/
def decoderOf? : Nat → Option Decoder
  | 0 => some .stored
  | 8 => some (.deflated .initial 0)
  | 12 => some (.bzip2 [] 0)
  | 14 => some (.lzma [] 0)
  | _ => none

/-- What is there of the content of a member whose data starts at `start`, and the failure that left out
the rest. -/
def content (bs : Octets) (m : Member) (start : Nat) (decoder : Decoder) : Octets × Option UnpackError :=
  let reader : Reader := {
    name := m.name
    stated := m.checksum
    decoder
    archive := bs.drop start
    dataLeft := m.compressedSize
    left := m.size
    isOver := false
    register := 0xFFFFFFFF
    spare := [] }
  let (blocks, failure) := reader.blocks (m.size / Reader.blockSize + 2)
  (blocks.flatten, failure)

end SqlTidy.Zip
