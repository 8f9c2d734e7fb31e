/-!
# UTF-8

Octets are read as a sequence of pieces: a character, or the longest run of octets that starts one
and cannot be completed. A strict reader stops at the first such run and says where it is and what
is wrong with it; a lenient one puts the replacement character in its place.
-/

namespace SqlTidy

abbrev Octets := List UInt8

/-- What is wrong with octets that are not a character. -/
inductive Utf8Flaw where
  | start
  | continuation
  | truncated
deriving DecidableEq, Repr

def Utf8Flaw.text : Utf8Flaw → String
  | .start => "invalid start byte"
  | .continuation => "invalid continuation byte"
  | .truncated => "unexpected end of data"

inductive Utf8Piece where
  | char (c : Char)
  | flawed (octets : Octets) (flaw : Utf8Flaw)

/-- The bounds of the octets that must follow a leading octet, and the bits that it gives itself. -/
def utf8Lead? (b : UInt8) : Option (Nat × List (UInt8 × UInt8)) :=
  if b < 0x80 then some (b.toNat, [])
  else if b < 0xC2 then none
  else if b < 0xE0 then some (b.toNat % 32, [(0x80, 0xBF)])
  else if b == 0xE0 then some (0, [(0xA0, 0xBF), (0x80, 0xBF)])
  else if b == 0xED then some (13, [(0x80, 0x9F), (0x80, 0xBF)])
  else if b < 0xF0 then some (b.toNat % 16, [(0x80, 0xBF), (0x80, 0xBF)])
  else if b == 0xF0 then some (0, [(0x90, 0xBF), (0x80, 0xBF), (0x80, 0xBF)])
  else if b < 0xF4 then some (b.toNat % 8, [(0x80, 0xBF), (0x80, 0xBF), (0x80, 0xBF)])
  else if b == 0xF4 then some (4, [(0x80, 0x8F), (0x80, 0xBF), (0x80, 0xBF)])
  else none

/-- Reads the octets that must follow, given those taken (last first) and the bits they make up. -/
def utf8Follow (taken : Octets) (bits : Nat) : List (UInt8 × UInt8) → Octets → Utf8Piece × Octets
  | [], rest => (.char (Char.ofNat bits), rest)
  | _ :: _, [] => (.flawed taken.reverse .truncated, [])
  | (lo, hi) :: bounds, b :: rest =>
    if lo ≤ b && b ≤ hi then utf8Follow (b :: taken) (64 * bits + b.toNat % 64) bounds rest
    else (.flawed taken.reverse .continuation, b :: rest)

/-- The piece that starts with the octet `b`, and what follows it. -/
def utf8Piece (b : UInt8) (rest : Octets) : Utf8Piece × Octets :=
  match utf8Lead? b with
  | some (bits, bounds) => utf8Follow [b] bits bounds rest
  | none => (.flawed [b] .start, rest)

theorem length_utf8Follow_le (taken : Octets) (bits : Nat) :
    ∀ (bounds : List (UInt8 × UInt8)) (rest : Octets),
      (utf8Follow taken bits bounds rest).2.length ≤ rest.length
  | [], rest => by simp [utf8Follow]
  | _ :: _, [] => by simp [utf8Follow]
  | (lo, hi) :: bounds, b :: rest => by
    simp only [utf8Follow]
    split
    · exact Nat.le_succ_of_le (length_utf8Follow_le _ _ bounds rest)
    · simp

theorem length_utf8Piece_le (b : UInt8) (rest : Octets) :
    (utf8Piece b rest).2.length ≤ rest.length := by
  unfold utf8Piece
  split
  · exact length_utf8Follow_le _ _ _ _
  · simp

/-- All pieces of a sequence of octets. -/
def utf8Pieces : Octets → List Utf8Piece
  | [] => []
  | b :: rest => (utf8Piece b rest).1 :: utf8Pieces (utf8Piece b rest).2
termination_by bs => bs.length
decreasing_by exact Nat.lt_succ_of_le (length_utf8Piece_le b rest)

/-- The octets of a text. -/
def utf8Encode (s : String) : Octets := s.toList.flatMap String.utf8EncodeChar

/-- Where octets stop being a text: the first octet that does not fit, where it stands, how many
octets it spoils and why. -/
structure Utf8Error where
  octet : UInt8
  position : Nat
  length : Nat
  flaw : Utf8Flaw
deriving DecidableEq, Repr

def Utf8Error.message (e : Utf8Error) : String :=
  let place :=
    if e.length = 1 then
      "byte 0x" ++ String.ofList (Nat.toDigits 16 e.octet.toNat) ++ " in position " ++ toString e.position
    else
      "bytes in position " ++ toString e.position ++ "-" ++ toString (e.position + e.length - 1)
  "'utf-8' codec can't decode " ++ place ++ ": " ++ e.flaw.text

def strictFrom (position : Nat) : List Utf8Piece → Except Utf8Error (List Char)
  | [] => .ok []
  | .char c :: rest => (strictFrom (position + c.utf8Size) rest).map (c :: ·)
  | .flawed octets flaw :: _ => .error ⟨octets.headD 0, position, octets.length, flaw⟩

/-- The text of the octets, or where they stop being one. -/
def utf8Decode (bs : Octets) : Except Utf8Error String :=
  (strictFrom 0 (utf8Pieces bs)).map String.ofList

def Utf8Piece.replaced : Utf8Piece → Char
  | .char c => c
  | .flawed _ _ => '\uFFFD'

/-- The text of the octets, a replacement character for each run that is none. -/
def utf8DecodeLenient (bs : Octets) : String :=
  String.ofList ((utf8Pieces bs).map Utf8Piece.replaced)

end SqlTidy
