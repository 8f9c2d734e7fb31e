import SqlTidy.Archive.CodeTree
import SqlTidy.Text.Utf8

/-!
# Expanding compressed data

Compressed data is a sequence of blocks: plain octets, or symbols in a code that is fixed or described
in front of the block. A symbol is an octet, the end of the block, or a length that is followed by a
distance: so many octets are repeated from so far back.

Data may come in pieces, and what it expands to may be asked for in pieces (`Inflater.expand`). An
inflater goes on as long as it has data and needs no more room, so a flaw is found as soon as all before
it has found room. The parts of a block's description are read at once: a description that is not there
as a whole is read again when there is more data.
-/

namespace SqlTidy

/-- What can be wrong with compressed data. -/
inductive InflateFlaw where
  | blockType
  | storedLength
  | tooManySymbols
  | codeLengthCode
  | lengthRepeat
  | noEndOfBlock
  | literalCode
  | distanceCode
  | literalSymbol
  | distanceSymbol
  | tooFarBack
deriving DecidableEq, Repr

def InflateFlaw.text : InflateFlaw → String
  | .blockType => "invalid block type"
  | .storedLength => "invalid stored block lengths"
  | .tooManySymbols => "too many length or distance symbols"
  | .codeLengthCode => "invalid code lengths set"
  | .lengthRepeat => "invalid bit length repeat"
  | .noEndOfBlock => "invalid code -- missing end-of-block"
  | .literalCode => "invalid literal/lengths set"
  | .distanceCode => "invalid distances set"
  | .literalSymbol => "invalid literal/length code"
  | .distanceSymbol => "invalid distance code"
  | .tooFarBack => "invalid distance too far back"

/-- Why expanding stops before the end of the data's own. -/
inductive InflateStop where
  | starved
  | corrupt (flaw : InflateFlaw)
deriving DecidableEq, Repr

/-- The bits of an octet, least significant first. -/
def octetBits (b : UInt8) : Bits := (List.range 8).map fun i => b.toNat / 2 ^ i % 2 == 1

def bitsOf (bs : Octets) : Bits := bs.flatMap octetBits

/-- A number of so many bits, least significant first. -/
def takeBits : Nat → Bits → Except InflateStop (Nat × Bits)
  | 0, bits => .ok (0, bits)
  | _ + 1, [] => .error .starved
  | n + 1, b :: bits => (takeBits n bits).map fun (v, rest) => (b.toNat + 2 * v, rest)

/-- Reads a symbol; a code that stands for none is the flaw `flaw`. -/
def takeSymbol (tree : CodeTree) (flaw : InflateFlaw) (bits : Bits) : Except InflateStop (Nat × Bits) :=
  match tree.decode bits with
  | .symbol s rest => .ok (s, rest)
  | .starved => .error .starved
  | .unknown => .error (.corrupt flaw)

/-- The shortest length of each length symbol, and the number of bits that add to it. -/
def lengthTable : List (Nat × Nat) :=
  [(3, 0), (4, 0), (5, 0), (6, 0), (7, 0), (8, 0), (9, 0), (10, 0), (11, 1), (13, 1), (15, 1), (17, 1),
    (19, 2), (23, 2), (27, 2), (31, 2), (35, 3), (43, 3), (51, 3), (59, 3), (67, 4), (83, 4), (99, 4),
    (115, 4), (131, 5), (163, 5), (195, 5), (227, 5), (258, 0)]

/-- The shortest distance of each distance symbol, and the number of bits that add to it. -/
def distanceTable : List (Nat × Nat) :=
  [(1, 0), (2, 0), (3, 0), (4, 0), (5, 1), (7, 1), (9, 2), (13, 2), (17, 3), (25, 3), (33, 4), (49, 4),
    (65, 5), (97, 5), (129, 6), (193, 6), (257, 7), (385, 7), (513, 8), (769, 8), (1025, 9), (1537, 9),
    (2049, 10), (3073, 10), (4097, 11), (6145, 11), (8193, 12), (12289, 12), (16385, 13), (24577, 13)]

/-- A number given by a symbol and the bits behind it. -/
def takeExtra (table : List (Nat × Nat)) (flaw : InflateFlaw) (index : Nat) (bits : Bits) :
    Except InflateStop (Nat × Bits) :=
  match table[index]? with
  | none => .error (.corrupt flaw)
  | some (least, width) => (takeBits width bits).map fun (v, rest) => (least + v, rest)

/-- The codes of a block: for octets and lengths, and for distances. -/
structure BlockCodes where
  literals : CodeTree
  distances : CodeTree

/-- The length and the distance of a repetition, after its length symbol. -/
def takeRepeat (codes : BlockCodes) (symbol : Nat) (bits : Bits) :
    Except InflateStop (Nat × Nat × Bits) := do
  let (length, bits) ← takeExtra lengthTable .literalSymbol (symbol - 257) bits
  let (symbol, bits) ← takeSymbol codes.distances .distanceSymbol bits
  let (distance, bits) ← takeExtra distanceTable .distanceSymbol symbol bits
  return (length, distance, bits)

/-- Repeats `length` octets from `distance` back. -/
def copyBack (distance : Nat) : Nat → Array UInt8 → Array UInt8
  | 0, out => out
  | length + 1, out => copyBack distance length (out.push (out[out.size - distance]?.getD 0))

/-- The codes of a block that describes none. -/
def fixedCodes : BlockCodes where
  literals := CodeTree.ofLengths
    (List.replicate 144 8 ++ List.replicate 112 9 ++ List.replicate 24 7 ++ List.replicate 8 8)
  distances := CodeTree.ofLengths (List.replicate 32 5)

/-- The order in which the lengths of the code for lengths are given. -/
def codeLengthOrder : List Nat := [16, 17, 18, 0, 8, 7, 9, 6, 10, 5, 11, 4, 12, 3, 13, 2, 14, 1, 15]

/-- So many numbers of three bits. -/
def takeTriplets : Nat → Bits → Except InflateStop (List Nat × Bits)
  | 0, bits => .ok ([], bits)
  | n + 1, bits => do
    let (v, bits) ← takeBits 3 bits
    let (vs, bits) ← takeTriplets n bits
    return (v :: vs, bits)

/-- Reads `total` lengths, those read so far given last first. The first argument bounds the steps. -/
def takeLengths (tree : CodeTree) (total : Nat) :
    Nat → List Nat → Bits → Except InflateStop (List Nat × Bits)
  | 0, read, bits => .ok (read.reverse, bits)
  | steps + 1, read, bits =>
    if total ≤ read.length then .ok (read.reverse, bits)
    else do
      let (symbol, bits) ← takeSymbol tree .codeLengthCode bits
      if symbol < 16 then takeLengths tree total steps (symbol :: read) bits
      else
        let width := if symbol = 16 then 2 else if symbol = 17 then 3 else 7
        let least := if symbol = 18 then 11 else 3
        let (v, bits) ← takeBits width bits
        match (if symbol = 16 then read.head? else some 0) with
        | none => .error (.corrupt .lengthRepeat)
        | some l =>
          if total < read.length + least + v then .error (.corrupt .lengthRepeat)
          else takeLengths tree total steps (List.replicate (least + v) l ++ read) bits

/-- The code for lengths. One that has no codes gives a zero for every bit. -/
def lengthCode (lengths : List Nat) : CodeTree :=
  if lengths.all (· == 0) then .node (.leaf 0) (.leaf 0) else .ofLengths lengths

/-- The codes that stand in front of a block. -/
def takeCodes (bits : Bits) : Except InflateStop (BlockCodes × Bits) := do
  let (counts, bits) ← takeBits 14 bits
  let literalCount := counts % 32 + 257
  let distanceCount := counts / 32 % 32 + 1
  let lengthCount := counts / 1024 + 4
  if 286 < literalCount ∨ 30 < distanceCount then .error (.corrupt .tooManySymbols)
  else
    let (given, bits) ← takeTriplets lengthCount bits
    let lengths := (List.range 19).map fun symbol => ((codeLengthOrder.zip given).lookup symbol).getD 0
    if !CodeTree.isComplete lengths then .error (.corrupt .codeLengthCode)
    else
      let total := literalCount + distanceCount
      let (all, bits) ← takeLengths (lengthCode lengths) total (total + 1) [] bits
      let literals := all.take literalCount
      let distances := all.drop literalCount
      if literals[256]?.getD 0 = 0 then .error (.corrupt .noEndOfBlock)
      else if !CodeTree.isUsable literals then .error (.corrupt .literalCode)
      else if !CodeTree.isUsable distances then .error (.corrupt .distanceCode)
      else return (⟨CodeTree.ofLengths literals, CodeTree.ofLengths distances⟩, bits)

/-- The length of a block of plain octets, which is given twice. -/
def takeStored (bits : Bits) : Except InflateStop (Nat × Bits) := do
  let (lengths, bits) ← takeBits 32 (bits.drop (bits.length % 8))
  let length := lengths % 65536
  if lengths / 65536 ≠ 65535 - length then .error (.corrupt .storedLength) else return (length, bits)

/-- What an inflater is about to do. -/
inductive InflatePhase where
  /-- Start a block, or come to an end after the last. -/
  | start
  /-- Take over so many plain octets. -/
  | stored (left : Nat)
  /-- Read a symbol. -/
  | symbols (codes : BlockCodes)
  /-- Put out an octet. -/
  | literal (codes : BlockCodes) (b : UInt8)
  /-- Repeat so many octets from so far back. -/
  | repeating (codes : BlockCodes) (length distance : Nat)
  | over

/-- Why an inflater pauses: for want of data or of room, or for good. -/
inductive InflatePause where
  | starved
  | full
  | over
  | corrupt (flaw : InflateFlaw)
deriving DecidableEq, Repr

structure Inflater where
  phase : InflatePhase
  /-- Whether the current block is the last. -/
  isLast : Bool
  /-- Data not yet used. -/
  bits : Bits
  output : Array UInt8

namespace Inflater

/-- An inflater without data. -/
def initial : Inflater := ⟨.start, false, [], #[]⟩

/-- Takes in data. -/
def feed (s : Inflater) (bs : Octets) : Inflater := { s with bits := s.bits ++ bitsOf bs }

/-- The phase that a block of a given type starts with. -/
def openBlock (type : Nat) (bits : Bits) : Except InflateStop (InflatePhase × Bits) :=
  match type with
  | 0 => (takeStored bits).map fun (length, bits) => (.stored length, bits)
  | 1 => .ok (.symbols fixedCodes, bits)
  | 2 => (takeCodes bits).map fun (codes, bits) => (.symbols codes, bits)
  | _ => .error (.corrupt .blockType)

/-- What a symbol of a block asks for. -/
def readSymbol (codes : BlockCodes) (bits : Bits) : Except InflateStop (InflatePhase × Bits) := do
  let (symbol, bits) ← takeSymbol codes.literals .literalSymbol bits
  if symbol < 256 then return (.literal codes (UInt8.ofNat symbol), bits)
  else if symbol = 256 then return (.start, bits)
  else
    let (length, distance, bits) ← takeRepeat codes symbol bits
    return (.repeating codes length distance, bits)

/-- Takes over up to `n` plain octets; yields how many are left to be taken over. -/
def takeOver : Nat → Array UInt8 → Bits → Nat × Array UInt8 × Bits
  | 0, out, bits => (0, out, bits)
  | n + 1, out, bits =>
    match takeBits 8 bits with
    | .ok (v, bits) => takeOver n (out.push (UInt8.ofNat v)) bits
    | .error _ => (n + 1, out, bits)

def pauseOf : InflateStop → InflatePause
  | .starved => .starved
  | .corrupt flaw => .corrupt flaw

/-- Works until it has to pause, with room for output up to `limit` octets in all. The first argument
bounds the number of steps. -/
def work (limit : Nat) : Nat → Inflater → Inflater × InflatePause
  | 0, s => (s, .starved)
  | steps + 1, ⟨phase, isLast, bits, out⟩ =>
    match phase with
    | .over => (⟨.over, isLast, bits, out⟩, .over)
    | .start =>
      if isLast then (⟨.over, isLast, bits.drop (bits.length % 8), out⟩, .over)
      else
        match (do
          let (header, rest) ← takeBits 3 bits
          let (phase, rest) ← openBlock (header / 2) rest
          return (header % 2 == 1, phase, rest)) with
        | .ok (isLast, phase, bits) => work limit steps ⟨phase, isLast, bits, out⟩
        | .error stop => (⟨.start, isLast, bits, out⟩, pauseOf stop)
    | .stored 0 => work limit steps ⟨.start, isLast, bits, out⟩
    | .stored (left + 1) =>
      if bits.isEmpty then (⟨.stored (left + 1), isLast, bits, out⟩, .starved)
      else if limit ≤ out.size then (⟨.stored (left + 1), isLast, bits, out⟩, .full)
      else
        let now := min (left + 1) (limit - out.size)
        let (missing, out, bits) := takeOver now out bits
        work limit steps ⟨.stored (left + 1 - now + missing), isLast, bits, out⟩
    | .symbols codes =>
      match readSymbol codes bits with
      | .ok (phase, bits) => work limit steps ⟨phase, isLast, bits, out⟩
      | .error stop => (⟨.symbols codes, isLast, bits, out⟩, pauseOf stop)
    | .literal codes b =>
      if limit ≤ out.size then (⟨.literal codes b, isLast, bits, out⟩, .full)
      else work limit steps ⟨.symbols codes, isLast, bits, out.push b⟩
    | .repeating codes length distance =>
      if limit ≤ out.size then (⟨.repeating codes length distance, isLast, bits, out⟩, .full)
      else if out.size < distance then
        (⟨.repeating codes length distance, isLast, bits, out⟩, .corrupt .tooFarBack)
      else
        let now := min length (limit - out.size)
        let phase := if now = length then .symbols codes else .repeating codes (length - now) distance
        work limit steps ⟨phase, isLast, bits, copyBack distance now out⟩

/-- Expands data as far as up to `room` further octets go. -/
def expand (s : Inflater) (room : Nat) : Inflater × InflatePause :=
  work (s.output.size + room) (3 * s.bits.length + 8) s

/-- The number of octets of data that were not looked at when the inflater paused. -/
def unseen (s : Inflater) (pause : InflatePause) : Nat :=
  match pause with
  | .full => s.bits.length / 8
  | .over => s.bits.length / 8
  | _ => 0

/-- The octets made of bits, eight to one, the first the least significant. -/
def octetsOf : Nat → Bits → Octets
  | 0, _ => []
  | n + 1, bits =>
    match takeBits 8 bits with
    | .ok (v, rest) => UInt8.ofNat v :: octetsOf n rest
    | .error _ => []

/-- The data behind the end. -/
def rest (s : Inflater) : Octets := octetsOf (s.bits.length / 8) s.bits

end Inflater

end SqlTidy
