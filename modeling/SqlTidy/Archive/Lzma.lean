import SqlTidy.Number.Power
import SqlTidy.Text.Utf8

/-!
# Expanding lzma data

Data in lzma form is one long number, from which bits are taken by splitting a range: a bit that is likely
takes up less of the range than one that is not. How likely a bit is depends on what came before it in the
same context, and is learned on the way. The bits tell of single octets and of repetitions.

`Lzma.expand` yields what the data stands for as far as it goes, and how it ends.
-/

namespace SqlTidy.Lzma

/-- Why decoding stops. -/
inductive Stop where
  | starved
  | corrupt
deriving DecidableEq, Repr

/-- How octets depend on the ones before them, and how far back repetitions reach. -/
structure Properties where
  /-- The number of high bits of the octet before that count. -/
  contextBits : Nat
  /-- The number of low bits of the place that count for octets. -/
  placeBits : Nat
  /-- The number of low bits of the place that count for all else. -/
  stateBits : Nat
  window : Nat
deriving DecidableEq, Repr

/-- Properties as five octets write them. -/
def Properties.ofOctets? : Octets → Option Properties
  | [first, a, b, c, d] =>
    let v := first.toNat
    let p : Properties := {
      contextBits := v % 9
      placeBits := v / 9 % 5
      stateBits := v / 45
      window := max 4096 ((a.toNat + 256 * b.toNat + 65536 * c.toNat + 16777216 * d.toNat + 15) / 16 * 16) }
    if 224 < v ∨ 4 < p.contextBits + p.placeBits then none else some p
  | _ => none

/-- The data and the range that has been split so far. The likelihood of a zero is kept for each context,
out of 2048. -/
structure Range where
  size : Nat
  code : Nat
  data : Octets
  likelihoods : Array Nat

/-- A step of decoding. -/
abbrev Decoding (α : Type) := StateT Range (Except Stop) α

/-- Takes in an octet if the range has become small. -/
def normalise : Decoding Unit := fun ⟨size, code, data, likelihoods⟩ =>
  if size < 2 ^ 24 then
    match data with
    | [] => .error .starved
    | b :: data => .ok ((), ⟨size * 256, (code * 256 + b.toNat) % 2 ^ 32, data, likelihoods⟩)
  else .ok ((), ⟨size, code, data, likelihoods⟩)

/-- Splits the range by the likelihood of a context, which is adjusted. -/
def splitRange (context : Nat) : Range → Nat × Range
  | ⟨size, code, data, likelihoods⟩ =>
    let likelihood := likelihoods[context]?.getD 1024
    let bound := size / 2048 * likelihood
    if code < bound then
      (0, ⟨bound, code, data, likelihoods.setIfInBounds context (likelihood + (2048 - likelihood) / 32)⟩)
    else
      (1, ⟨size - bound, code - bound, data,
        likelihoods.setIfInBounds context (likelihood - likelihood / 32)⟩)

/-- A bit in a context. -/
def bit (context : Nat) : Decoding Nat := do
  normalise
  modifyGet (splitRange context)

/-- A bit that is as likely as not. -/
def evenBit : Decoding Nat := do
  normalise
  modifyGet fun ⟨size, code, data, likelihoods⟩ =>
    let half := size / 2
    if code < half ∨ 2 ^ 31 ≤ code - half then (0, ⟨half, code, data, likelihoods⟩)
    else (1, ⟨half, code - half, data, likelihoods⟩)

/-- So many bits, most significant first, each in the context of those before it. -/
def tree (base : Nat) : Nat → Nat → Decoding Nat
  | 0, node => return node
  | width + 1, node => do tree base width (2 * node + (← bit (base + node)))

/-- A number of so many bits, most significant first. -/
def number (base width : Nat) : Decoding Nat := do return (← tree base width 1) - 2 ^ width

/-- A number of so many bits, least significant first. -/
def reverseNumber (base : Nat) : Nat → Nat → Decoding Nat
  | 0, _ => return 0
  | width + 1, node => do
    let b ← bit (base + node)
    return b + 2 * (← reverseNumber base width (2 * node + b))

/-- A number of so many bits that are as likely as not, most significant first. -/
def evenNumber : Nat → Decoding Nat
  | 0 => return 0
  | width + 1 => do
    let b ← evenBit
    return b * 2 ^ width + (← evenNumber width)

/-! Where the contexts of each kind start. -/

def matchContext (state place : Nat) : Nat := 16 * state + place

def repeatContext (state : Nat) : Nat := 192 + state

def firstContext (state : Nat) : Nat := 204 + state

def secondContext (state : Nat) : Nat := 216 + state

def thirdContext (state : Nat) : Nat := 228 + state

def longContext (state place : Nat) : Nat := 240 + 16 * state + place

def slotContexts (kind : Nat) : Nat := 432 + 64 * kind

def specialContexts : Nat := 688

def alignContexts : Nat := 816

def lengthContexts : Nat := 832

def repeatLengthContexts : Nat := 1346

def literalContexts : Nat := 1860

/-- The number of contexts. -/
def contextCount (p : Properties) : Nat := literalContexts + 768 * 2 ^ (p.contextBits + p.placeBits)

/-- The length of a repetition, less two. -/
def lengthCode (base place : Nat) : Decoding Nat := do
  if (← bit base) = 0 then number (base + 2 + 8 * place) 3
  else if (← bit (base + 1)) = 0 then return 8 + (← number (base + 130 + 8 * place) 3)
  else return 16 + (← number (base + 258) 8)

/-- The distance of a repetition, less one; it depends on the length. -/
def distanceCode (length : Nat) : Decoding Nat := do
  let slot ← number (slotContexts (min length 3)) 6
  if slot < 4 then return slot
  else
    let width := slot / 2 - 1
    let high := (2 + slot % 2) * 2 ^ width
    if slot < 14 then return high + (← reverseNumber (specialContexts + high - slot) width 1)
    else return high + 16 * (← evenNumber (width - 4)) + (← reverseNumber alignContexts 4 1)

/-- An octet when the octet at the latest distance is known: as long as its bits agree, they are context. -/
def guidedOctet (base : Nat) : Nat → Nat → Nat → Decoding Nat
  | 0, _, node => return node
  | width + 1, guide, node => do
    let guideBit := guide / 128 % 2
    let b ← bit (base + 256 * (1 + guideBit) + node)
    if b = guideBit then guidedOctet base width (2 * guide) (2 * node + b)
    else tree base width (2 * node + b)

/-- What came before: the kind of the last symbols, and the latest four distances, less one. -/
structure History where
  state : Nat
  distances : Nat × Nat × Nat × Nat

/-- What one symbol says. -/
inductive Symbol where
  | octet (b : UInt8)
  | repetition (length distance : Nat)
  | over

/-- The octet that lies so far back. -/
def lookBack (out : Array UInt8) (distance : Nat) : Nat := (out[out.size - 1 - distance]?.getD 0).toNat

def afterOctet (state : Nat) : Nat := if state < 4 then 0 else if state < 10 then state - 3 else state - 6

/-- An octet that stands for itself. -/
def takeOctet (p : Properties) (h : History) (out : Array UInt8) : Decoding (Symbol × History) := do
  let before := if out.isEmpty then 0 else lookBack out 0
  let context := out.size % 2 ^ p.placeBits * 2 ^ p.contextBits + before / 2 ^ (8 - p.contextBits)
  let base := literalContexts + 768 * context
  let node ←
    if h.state < 7 then tree base 8 1 else guidedOctet base 8 (lookBack out h.distances.1) 1
  return (.octet (UInt8.ofNat (node - 256)), { h with state := afterOctet h.state })

/-- The end of the data: the number has to be used up. -/
def takeEnd (h : History) : Decoding (Symbol × History) := do
  normalise
  if (← get).code = 0 then return (.over, h) else throw .corrupt

/-- A repetition from a distance of its own. -/
def takeMatch (p : Properties) (h : History) (out : Array UInt8) (place : Nat) :
    Decoding (Symbol × History) := do
  let length ← lengthCode lengthContexts place
  let distance ← distanceCode length
  let (a, b, c, _) := h.distances
  if distance = 2 ^ 32 - 1 then takeEnd h
  else if min out.size p.window ≤ distance then throw .corrupt
  else return (.repetition (length + 2) distance, ⟨if h.state < 7 then 7 else 10, distance, a, b, c⟩)

/-- A repetition from one of the latest distances. -/
def takeRepeat (h : History) (out : Array UInt8) (place : Nat) : Decoding (Symbol × History) := do
  let (a, b, c, d) := h.distances
  if out.isEmpty then throw .corrupt
  else if (← bit (firstContext h.state)) = 0 then
    if (← bit (longContext h.state place)) = 0 then
      return (.repetition 1 a, { h with state := if h.state < 7 then 9 else 11 })
    else finish a b c d
  else if (← bit (secondContext h.state)) = 0 then finish b a c d
  else if (← bit (thirdContext h.state)) = 0 then finish c a b d
  else finish d a b c
where
  /-- The length, once the distances are in their new order. -/
  finish (a b c d : Nat) : Decoding (Symbol × History) := do
    let length ← lengthCode repeatLengthContexts place
    return (.repetition (length + 2) a, ⟨if h.state < 7 then 8 else 11, a, b, c, d⟩)

def takeSymbol (p : Properties) (h : History) (out : Array UInt8) : Decoding (Symbol × History) := do
  let place := out.size % 2 ^ p.stateBits
  if (← bit (matchContext h.state place)) = 0 then takeOctet p h out
  else if (← bit (repeatContext h.state)) = 0 then takeMatch p h out place
  else takeRepeat h out place

/-- Repeats so many octets from a distance, less one. -/
def copyFrom (distance : Nat) : Nat → Array UInt8 → Array UInt8
  | 0, out => out
  | n + 1, out => copyFrom distance n (out.push (UInt8.ofNat (lookBack out distance)))

/-- How data ends: too early, as it should, or badly. -/
inductive Ending where
  | starved
  | over
  | corrupt
deriving DecidableEq, Repr

/-- All symbols from here on. The first argument bounds their number. -/
def takeSymbols (p : Properties) : Nat → History → Range → Array UInt8 → Array UInt8 × Ending
  | 0, _, _, out => (out, .starved)
  | steps + 1, h, range, out =>
    match takeSymbol p h out range with
    | .error .starved => (out, .starved)
    | .error .corrupt => (out, .corrupt)
    | .ok ((.over, _), _) => (out, .over)
    | .ok ((.octet b, h), range) => takeSymbols p steps h range (out.push b)
    | .ok ((.repetition length distance, h), range) =>
      takeSymbols p steps h range (copyFrom distance length out)

/-- The most symbols that one octet of data can stand for. -/
def symbolsPerOctet : Nat := 8192

/-- What data expands to as far as it goes, and how it ends. -/
def expand (p : Properties) (bs : Octets) : Array UInt8 × Ending :=
  match bs with
  | [] => (#[], .starved)
  | first :: rest =>
    if first ≠ 0 then (#[], .corrupt)
    else if rest.length < 4 then (#[], .starved)
    else
      let code := (rest.take 4).foldl (fun n b => 256 * n + b.toNat) 0
      takeSymbols p (symbolsPerOctet * (bs.length + 1)) ⟨0, 0, 0, 0, 0⟩
        ⟨2 ^ 32 - 1, code, rest.drop 4, Array.replicate (contextCount p) 1024⟩ #[]

end SqlTidy.Lzma
