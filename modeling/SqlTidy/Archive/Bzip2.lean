import SqlTidy.Archive.CodeTree
import SqlTidy.Text.Utf8

/-!
# Expanding bzip2 data

Data in bzip2 form is a sequence of blocks. A block is sorted by what follows each octet, octets are
replaced by how recently they came before, runs of zeros are counted, and all that is written in codes of
different lengths, which change every fifty symbols. Inside a block, four equal octets are followed by
the number of further ones. Each block has a checksum, and so have all of them.

`Bzip2.expand` yields what the blocks that are there as a whole stand for, and whether the data is over.
-/

namespace SqlTidy.Bzip2

/-- Why reading stops. -/
inductive Stop where
  | starved
  | corrupt
deriving DecidableEq, Repr

/-- A step of reading bits. -/
abbrev Reading (α : Type) := StateT Bits (Except Stop) α

def corrupt {α : Type} : Reading α := throw .corrupt

def takeBit : Reading Bool := fun
  | [] => .error .starved
  | b :: bits => .ok (b, bits)

/-- A number of so many bits, most significant first. -/
def takeNumber : Nat → Reading Nat
  | 0 => return 0
  | n + 1 => do
    let high ← takeBit
    return high.toNat * 2 ^ n + (← takeNumber n)

/-- The next bits have to write a number. -/
def expect (width n : Nat) : Reading Unit := do
  if (← takeNumber width) ≠ n then corrupt

/-- The bits of octets, most significant first. -/
def bitsOf (bs : Octets) : Bits := bs.flatMap fun b => CodeTree.codeBits 8 b.toNat

/-- Takes in one octet of a block's checksum. -/
def checkStep (r : UInt32) (b : UInt8) : UInt32 :=
  (List.range 8).foldl (fun r _ => if r &&& 0x80000000 = 0 then r <<< 1 else (r <<< 1) ^^^ 0x04C11DB7)
    (r ^^^ (b.toUInt32 <<< 24))

/-- The longest code. -/
def longestCode : Nat := 20

/-- Codes by their lengths. Codes of a length are consecutive numbers, so a number of that many bits is a
code if it is at most `limit`, and then `base` leads from it to its symbol. -/
structure Codes where
  shortest : Nat
  /-- Limit and base for each length, from the shortest on. -/
  levels : List (Int × Int)
  /-- The symbols in the order of their codes. -/
  symbols : Array Nat

/-- Limits and bases from a length on; `next` is the code after those before, and `taken` the number of
symbols before. -/
def levelsFrom (lengths : List Nat) (length : Nat) (next taken : Nat) : Nat → List (Int × Int)
  | 0 => []
  | more + 1 =>
    let count := lengths.count length
    let stop := next + count
    ((stop : Int) - 1, (next : Int) - taken) ::
      levelsFrom lengths (length + 1) (2 * stop) (taken + count) more

def codesOf (lengths : List Nat) : Codes :=
  let shortest := lengths.foldl min longestCode
  let longest := lengths.foldl max 1
  let symbols := (List.range (longestCode + 1)).flatMap (CodeTree.symbolsOf lengths)
  ⟨shortest,
    levelsFrom lengths shortest 0 0 (longest + 1 - shortest) ++
      List.replicate (longestCode - longest) (0, 0),
    symbols.toArray⟩

/-- Reads on until the number read so far is a code. -/
def takeCode (symbols : Array Nat) : List (Int × Int) → Int → Reading Nat
  | [], _ => do
    let _ ← takeBit
    corrupt
  | (limit, base) :: rest, v => do
    if v ≤ limit then
      match symbols[(v - base).toNat]? with
      | some symbol => if v < base then corrupt else return symbol
      | none => corrupt
    else if rest.isEmpty then takeCode symbols rest v
    else takeCode symbols rest (2 * v + (← takeBit).toNat)

def takeSymbol (codes : Codes) : Reading Nat := do
  takeCode codes.symbols codes.levels (← takeNumber codes.shortest)

/-- The octets that occur in a block: sixteen bits say which sixteenths, sixteen more for each of them
which of its octets. -/
def takeAlphabet : Reading (List UInt8) := do
  let rows ← (List.range 16).mapM fun _ => takeBit
  let found ← rows.zipIdx.mapM fun (isUsed, row) => do
    if isUsed then
      let columns ← (List.range 16).mapM fun _ => takeBit
      return columns.zipIdx.filterMap fun (isUsed, column) =>
        if isUsed then some (UInt8.ofNat (16 * row + column)) else none
    else return []
  return found.flatten

/-- A number written as so many ones and a zero; it has to be below a bound. -/
def takeUnary (bound : Nat) : Nat → Reading Nat
  | 0 => corrupt
  | more + 1 => do
    if ← takeBit then
      if more = 0 then corrupt else takeUnary bound more
    else return bound - (more + 1)

/-- Moves the member at an index to the front. -/
def toFront {α : Type} (xs : List α) (i : Nat) : List α := (xs[i]?).toList ++ xs.eraseIdx i

/-- Numbers by how recently they came before. -/
def byRecency : List Nat → List Nat → List Nat
  | _, [] => []
  | order, i :: rest =>
    let order := toFront order i
    order.headD 0 :: byRecency order rest

/-- The most selectors that count. -/
def selectorLimit : Nat := 18002

/-- A code length, given from the one before by single steps. The first argument bounds the steps. -/
def takeLength : Nat → Nat → Reading Nat
  | 0, _ => corrupt
  | steps + 1, length => do
    if length < 1 ∨ longestCode < length then corrupt
    else if ← takeBit then
      if ← takeBit then takeLength steps (length - 1) else takeLength steps (length + 1)
    else return length

/-- So many code lengths. -/
def takeLengths (steps : Nat) : Nat → Nat → Reading (List Nat)
  | 0, _ => return []
  | n + 1, length => do
    let length ← takeLength steps length
    return length :: (← takeLengths steps n length)

/-- Selectors and codes of a block. -/
def takeTables (steps symbolCount : Nat) : Reading (List Codes) := do
  let groups ← takeNumber 3
  if groups < 2 ∨ 6 < groups then corrupt
  let selectorCount ← takeNumber 15
  if selectorCount < 1 then corrupt
  else
    let recent ← (List.range selectorCount).mapM fun _ => takeUnary groups groups
    let tables ← (List.range groups).mapM fun _ => do
      return codesOf (← takeLengths steps symbolCount (← takeNumber 5))
    return (byRecency (List.range groups) (recent.take selectorLimit)).filterMap (tables[·]?)

/-- The symbols of a block as far as they are read. -/
structure Column where
  octets : Array UInt8
  /-- The alphabet, the latest octet first. -/
  order : List UInt8
  /-- The length of the run that is being read, and the weight of its next digit. -/
  run : Nat
  weight : Nat

/-- The most digits of a run. -/
def weightLimit : Nat := 2 * 1024 * 1024

/-- Puts out the run that was read. -/
def Column.finishRun (c : Column) (limit : Nat) : Option Column :=
  if c.run = 0 then some { c with weight := 1 }
  else if limit < c.octets.size + c.run then none
  else
    some { c with
      octets := c.octets ++ Array.replicate c.run (c.order.headD 0), run := 0, weight := 1 }

/-- Reads the symbols of a block; `tables` holds the codes for each fifty symbols from here on, and
`left` how many of the first fifty are left. The first argument bounds the number of symbols. -/
def takeColumn (limit stop : Nat) : Nat → List Codes → Nat → Column → Reading (Array UInt8)
  | 0, _, _, _ => throw .starved
  | steps + 1, tables, left, c => do
    let (tables, left) := if left = 0 then (tables.tail, 50) else (tables, left)
    match tables with
    | [] => corrupt
    | codes :: _ =>
      let symbol ← takeSymbol codes
      if symbol ≤ 1 then
        if weightLimit ≤ c.weight then corrupt
        else
          takeColumn limit stop steps tables (left - 1)
            { c with run := c.run + (symbol + 1) * c.weight, weight := 2 * c.weight }
      else
        match c.finishRun limit with
        | none => corrupt
        | some c =>
          if symbol = stop then return c.octets
          else if limit ≤ c.octets.size then corrupt
          else
            let order := toFront c.order (symbol - 1)
            takeColumn limit stop steps tables (left - 1)
              { c with octets := c.octets.push (order.headD 0), order }

/-- For each place in sorted order, the place in the column that it came from. -/
def sources (column : Array UInt8) : Array Nat :=
  let counts := column.foldl (fun counts b => counts.modify b.toNat (· + 1)) (Array.replicate 256 0)
  let starts := (counts.foldl (fun (starts, sum) n => (starts.push sum, sum + n)) (#[], 0)).1
  ((List.range column.size).foldl
    (fun (sources, next) i =>
      let b := (column[i]?.getD 0).toNat
      (sources.setIfInBounds (next[b]?.getD 0) i, next.modify b (· + 1)))
    (Array.replicate column.size 0, starts)).1

/-- The octets of a block in their own order, the place of the first given. -/
def unsort (column : Array UInt8) (sources : Array Nat) : Nat → Nat → List UInt8
  | 0, _ => []
  | n + 1, i => column[i]?.getD 0 :: unsort column sources n (sources[i]?.getD 0)

/-- Repeats octets as their counts say; `run` is the number of equal octets `last` just before. The result
is given last first. -/
def repeatRuns : Nat → UInt8 → Array UInt8 → List UInt8 → Option (Array UInt8)
  | run, _, out, [] => if run = 4 then none else some out
  | run, last, out, b :: rest =>
    if run = 4 then repeatRuns 0 0 (out ++ Array.replicate b.toNat last) rest
    else repeatRuns (if run ≠ 0 ∧ b = last then run + 1 else 1) b (out.push b) rest

/-- The distances at which octets of a shuffled block have their last bit turned over. -/
def shuffleDistances : List Nat :=
  [619, 720, 127, 481, 931, 816, 813, 233, 566, 247, 985, 724, 205, 454, 863, 491, 741, 242, 949,
  214, 733, 859, 335, 708, 621, 574, 73, 654, 730, 472, 419, 436, 278, 496, 867, 210, 399, 680, 480,
  51, 878, 465, 811, 169, 869, 675, 611, 697, 867, 561, 862, 687, 507, 283, 482, 129, 807, 591, 733,
  623, 150, 238, 59, 379, 684, 877, 625, 169, 643, 105, 170, 607, 520, 932, 727, 476, 693, 425, 174,
  647, 73, 122, 335, 530, 442, 853, 695, 249, 445, 515, 909, 545, 703, 919, 874, 474, 882, 500, 594,
  612, 641, 801, 220, 162, 819, 984, 589, 513, 495, 799, 161, 604, 958, 533, 221, 400, 386, 867,
  600, 782, 382, 596, 414, 171, 516, 375, 682, 485, 911, 276, 98, 553, 163, 354, 666, 933, 424, 341,
  533, 870, 227, 730, 475, 186, 263, 647, 537, 686, 600, 224, 469, 68, 770, 919, 190, 373, 294, 822,
  808, 206, 184, 943, 795, 384, 383, 461, 404, 758, 839, 887, 715, 67, 618, 276, 204, 918, 873, 777,
  604, 560, 951, 160, 578, 722, 79, 804, 96, 409, 713, 940, 652, 934, 970, 447, 318, 353, 859, 672,
  112, 785, 645, 863, 803, 350, 139, 93, 354, 99, 820, 908, 609, 772, 154, 274, 580, 184, 79, 626,
  630, 742, 653, 282, 762, 623, 680, 81, 927, 626, 789, 125, 411, 521, 938, 300, 821, 78, 343, 175,
  128, 250, 170, 774, 972, 275, 999, 639, 495, 78, 352, 126, 857, 956, 358, 619, 580, 124, 737, 594,
  701, 612, 669, 112, 134, 694, 363, 992, 809, 743, 168, 974, 944, 375, 748, 52, 600, 747, 642, 182,
  862, 81, 344, 805, 988, 739, 511, 655, 814, 334, 249, 515, 897, 955, 664, 981, 649, 113, 974, 459,
  893, 228, 433, 837, 553, 268, 926, 240, 102, 654, 459, 51, 686, 754, 806, 760, 493, 403, 415, 394,
  687, 700, 946, 670, 656, 610, 738, 392, 760, 799, 887, 653, 978, 321, 576, 617, 626, 502, 894,
  679, 243, 440, 680, 879, 194, 572, 640, 724, 926, 56, 204, 700, 707, 151, 457, 449, 797, 195, 791,
  558, 945, 679, 297, 59, 87, 824, 713, 663, 412, 693, 342, 606, 134, 108, 571, 364, 631, 212, 174,
  643, 304, 329, 343, 97, 430, 751, 497, 314, 983, 374, 822, 928, 140, 206, 73, 263, 980, 736, 876,
  478, 430, 305, 170, 514, 364, 692, 829, 82, 855, 953, 676, 246, 369, 970, 294, 750, 807, 827, 150,
  790, 288, 923, 804, 378, 215, 828, 592, 281, 565, 555, 710, 82, 896, 831, 547, 261, 524, 462, 293,
  465, 502, 56, 661, 821, 976, 991, 658, 869, 905, 758, 745, 193, 768, 550, 608, 933, 378, 286, 215,
  979, 792, 961, 61, 688, 793, 644, 986, 403, 106, 366, 905, 644, 372, 567, 466, 434, 645, 210, 389,
  550, 919, 135, 780, 773, 635, 389, 707, 100, 626, 958, 165, 504, 920, 176, 193, 713, 857, 265,
  203, 50, 668, 108, 645, 990, 626, 197, 510, 357, 358, 850, 858, 364, 936, 638]

/-- Turns over the last bit of some octets; `left` is the number of octets up to the end of the current
distance, and `distances` holds those behind it. -/
def unshuffle : Nat → List Nat → List UInt8 → List UInt8
  | _, _, [] => []
  | 0, distances, b :: rest =>
    let distances := if distances.isEmpty then shuffleDistances else distances
    b :: unshuffle (distances.headD 1 - 1) distances.tail rest
  | left + 1, distances, b :: rest =>
    (if left = 1 then b ^^^ 1 else b) :: unshuffle left distances rest

/-- One block, behind its mark: its octets and its checksum. -/
def takeBlock (level steps : Nat) : Reading (Array UInt8 × UInt32) := do
  let stated ← takeNumber 32
  let isShuffled ← takeBit
  let first ← takeNumber 24
  if 10 + 100000 * level < first then corrupt
  let alphabet ← takeAlphabet
  if alphabet.isEmpty then corrupt
  let tables ← takeTables steps (alphabet.length + 2)
  let column ← takeColumn (100000 * level) (alphabet.length + 1) steps (tables.take 1 ++ tables) 0
    ⟨#[], alphabet, 0, 1⟩
  if column.size ≤ first then corrupt
  else
    let sources := sources column
    let octets := unsort column sources column.size (sources[first]?.getD 0)
    match repeatRuns 0 0 #[] (if isShuffled then unshuffle 0 [] octets else octets) with
    | none => corrupt
    | some out =>
      let check := ~~~(out.foldl checkStep 0xFFFFFFFF)
      if check.toNat ≠ stated then corrupt else return (out, check)

/-- What follows a block. -/
inductive Piece where
  | block (octets : Array UInt8) (check : UInt32)
  | over (check : Nat)

/-- The next block, or the end. -/
def takePiece (level steps : Nat) : Reading Piece := do
  match ← takeNumber 8 with
  | 0x31 => do
    [0x41, 0x59, 0x26, 0x53, 0x59].forM (expect 8)
    let (octets, check) ← takeBlock level steps
    return .block octets check
  | 0x17 => do
    [0x72, 0x45, 0x38, 0x50, 0x90].forM (expect 8)
    return .over (← takeNumber 32)
  | _ => corrupt

/-- How data ends: too early, as it should, or badly. -/
inductive Ending where
  | starved
  | over
  | corrupt
deriving DecidableEq, Repr

/-- All blocks from here on. The first argument bounds their number. -/
def takePieces (level steps : Nat) : Nat → UInt32 → Array UInt8 → Bits → Array UInt8 × Ending
  | 0, _, out, _ => (out, .starved)
  | n + 1, check, out, bits =>
    match takePiece level steps bits with
    | .error .starved => (out, .starved)
    | .error .corrupt => (out, .corrupt)
    | .ok (.over stated, _) => (out, if stated = check.toNat then .over else .corrupt)
    | .ok (.block octets own, bits) =>
      takePieces level steps n (((check <<< 1) ||| (check >>> 31)) ^^^ own) (out ++ octets) bits

/-- The level that a file starts with. -/
def takeLevel : Reading Nat := do
  [0x42, 0x5A, 0x68].forM (expect 8)
  let level ← takeNumber 8
  if level < 0x31 ∨ 0x39 < level then corrupt else return level - 0x30

/-- What data expands to as far as it goes, and how it ends. -/
def expand (bs : Octets) : Array UInt8 × Ending :=
  let bits := bitsOf bs
  let steps := bits.length + 1
  match takeLevel bits with
  | .error .starved => (#[], .starved)
  | .error .corrupt => (#[], .corrupt)
  | .ok (level, bits) => takePieces level steps steps 0 #[] bits

end SqlTidy.Bzip2
