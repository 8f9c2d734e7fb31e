import SqlTidy.Number.Power

/-!
# Prefix codes

Compressed data is written in codes of different lengths, none of which starts another. A code tree
has a symbol at the end of each code. The codes of a block are given by their lengths alone: codes of
one length are consecutive numbers in the order of their symbols, and shorter codes come first
(`CodeTree.ofLengths`).
-/

namespace SqlTidy

abbrev Bits := List Bool

inductive CodeTree where
  | empty
  | leaf (symbol : Nat)
  | node (zero one : CodeTree)
deriving DecidableEq, Repr

/-- What became of reading one symbol. -/
inductive Decoded where
  | symbol (s : Nat) (rest : Bits)
  | starved
  | unknown

namespace CodeTree

/-- Adds a symbol at the end of a code. -/
def insert (symbol : Nat) : Bits → CodeTree → CodeTree
  | [], _ => .leaf symbol
  | false :: code, .node zero one => .node (zero.insert symbol code) one
  | true :: code, .node zero one => .node zero (one.insert symbol code)
  | false :: code, _ => .node (insert symbol code .empty) .empty
  | true :: code, _ => .node .empty (insert symbol code .empty)

/-- Reads the symbol whose code stands at the front. A code that is not in the tree is unknown once
its first missing bit is there. -/
def decode : CodeTree → Bits → Decoded
  | .leaf s, bits => .symbol s bits
  | .empty, [] => .starved
  | .empty, _ :: _ => .unknown
  | .node _ _, [] => .starved
  | .node zero _, false :: bits => if zero = .empty then .unknown else zero.decode bits
  | .node _ one, true :: bits => if one = .empty then .unknown else one.decode bits

/-- The last `width` binary digits of a number, most significant first. -/
def codeBits : Nat → Nat → Bits
  | 0, _ => []
  | width + 1, n => (n / 2 ^ width % 2 == 1) :: codeBits width n

/-- The longest code. -/
def maxLength : Nat := 15

/-- The symbols with a code of a given length, in their order. -/
def symbolsOf (lengths : List Nat) (length : Nat) : List Nat :=
  (lengths.zipIdx.filter fun (l, _) => l == length).map (·.2)

/-- Adds the codes of one length, given the first of them; yields the next code as well. -/
def addLength (lengths : List Nat) (acc : CodeTree × Nat) (length : Nat) : CodeTree × Nat :=
  (symbolsOf lengths length).foldl
    (fun (tree, code) symbol => (tree.insert symbol (codeBits length code), code + 1))
    (acc.1, 2 * acc.2)

/-- The tree of the codes with given lengths, by symbol; a length of zero means no code. -/
def ofLengths (lengths : List Nat) : CodeTree :=
  (((List.range maxLength).map (· + 1)).foldl (addLength lengths) (.empty, 0)).1

/-- How much of all codes the given lengths use up, out of `2 ^ maxLength`. -/
def usage (lengths : List Nat) : Nat :=
  lengths.foldl (fun used l => if l = 0 then used else used + 2 ^ (maxLength - l)) 0

/-- Lengths that leave no code unused, or give no code at all. -/
def isComplete (lengths : List Nat) : Bool :=
  lengths.all (· == 0) || usage lengths == 2 ^ maxLength

/-- Lengths that are complete or give a single code of one bit. -/
def isUsable (lengths : List Nat) : Bool :=
  isComplete lengths || (usage lengths ≤ 2 ^ maxLength && lengths.all (· ≤ 1))

end CodeTree

end SqlTidy
