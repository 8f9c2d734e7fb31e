import SqlTidy.Number.Power
import SqlTidy.Tools.Quoting

/-!
# Sets of characters

A set is written as a row of parts: characters, ranges such as `a-z`, classes such as `[:digit:]`, a character
that is like others, `[=c=]`, and repetitions `[c*n]`. A repetition without a number fills a row up to the
length of another.
-/

namespace SqlTidy.Tools

/-- A class of characters by its name. -/
structure CharacterClass where
  name : String
deriving DecidableEq, Repr

inductive SetPart where
  | single (c : Char)
  | range (first last : Char)
  | named (k : CharacterClass)
  | alike (c : Char)
  /-- So many times a character; none as often as there is room. -/
  | repetition (c : Char) (count : Nat)
deriving DecidableEq, Repr

abbrev CharacterRow := List SetPart

/-- All characters there are. -/
def allCharacters : List Char := (List.range 256).map Char.ofNat

namespace CharacterClass

def holds (k : CharacterClass) (c : Char) : Bool :=
  match Shell.classOf? k.name with
  | some p => p c
  | none => false

def members (k : CharacterClass) : List Char := allCharacters.filter k.holds

/-- The classes that a case can be changed between. -/
def isCase (k : CharacterClass) : Bool := k.name == "lower" || k.name == "upper"

end CharacterClass

namespace SetPart

/-- The number of characters in a part. -/
def size : SetPart → Nat
  | .single _ => 1
  | .range first last => last.toNat + 1 - first.toNat
  | .named k => k.members.length
  | .alike _ => 1
  | .repetition _ count => count

def holds : SetPart → Char → Bool
  | .single d, c => c == d
  | .range first last, c => first ≤ c && c ≤ last
  | .named k, c => k.holds c
  | .alike d, c => c == d
  | .repetition d count, c => c == d && count != 0

/-- The characters of a part, but no more than so many. -/
def upTo (limit : Nat) : SetPart → List Char
  | .single c => [c]
  | .range first last => (List.range' first.toNat (last.toNat + 1 - first.toNat)).map Char.ofNat
  | .named k => k.members
  | .alike c => [c]
  | .repetition c count => List.replicate (min count limit) c

def isOpen : SetPart → Bool
  | .repetition _ 0 => true
  | _ => false

/-- The class, if it is one that a case can be changed between. -/
def case? : SetPart → Option CharacterClass
  | .named k => if k.isCase then some k else none
  | _ => none

end SetPart

namespace CharacterRow

def size (r : CharacterRow) : Nat := r.foldl (fun n part => n + part.size) 0

def holds (r : CharacterRow) (c : Char) : Bool := r.any (·.holds c)

end CharacterRow

/-! ## Reading a set -/

/-- Why text is no set. -/
inductive SetFlaw where
  | noClass
  | noAlike
  | badClass (name : List Char)
  | badAlike (text : List Char)
  | badCount (text : List Char)
  | reversed (first last : Char)
deriving DecidableEq, Repr

/-- Text with all that cannot be shown escaped. -/
def showable (cs : List Char) : List Char :=
  cs.flatMap fun c => if c = '\\' then ['\\', '\\'] else if isShown c then [c] else escaped c

def SetFlaw.text : SetFlaw → List Char
  | .noClass => "missing character class name '[::]'".toList
  | .noAlike => "missing equivalence class character '[==]'".toList
  | .badClass name => "invalid character class ".toList ++ cited (showable name)
  | .badAlike text => showable text ++ ": equivalence class operand must be a single character".toList
  | .badCount text => "invalid repeat count ".toList ++ cited (showable text) ++ " in [c*n] construct".toList
  | .reversed first last =>
    let one (c : Char) : List Char := if isShown c then [c] else octalEscape c
    "range-endpoints of '".toList ++ one first ++ ['-'] ++ one last ++
      "' are in reverse collating sequence order".toList

/-- A character of a set, and whether a backslash was before it. -/
abbrev Marked := Char × Bool

def octalValue? (c : Char) : Option Nat := if '0' ≤ c ∧ c ≤ '7' then some (c.toNat - 48) else none

/-- The character that octal digits stand for, what is behind them, and the digits if there was one too many. -/
def octalCharacter (first : Char) (rest : List Char) : Char × List Char × Option (List Char) :=
  let value (c : Char) : Nat := c.toNat - 48
  match rest with
  | [] => (Char.ofNat (value first), [], none)
  | second :: more =>
    if (octalValue? second).isNone then (Char.ofNat (value first), rest, none)
    else
      let two := 8 * value first + value second
      match more with
      | [] => (Char.ofNat two, [], none)
      | third :: after =>
        if (octalValue? third).isNone then (Char.ofNat two, more, none)
        else if 8 * two + value third < 256 then (Char.ofNat (8 * two + value third), after, none)
        else (Char.ofNat two, more, some [first, second, third])

/-- Resolves backslashes. Yields warnings, too. -/
def unescape : Nat → List Char → List Marked × List (List Char)
  | 0, _ => ([], [])
  | steps + 1, cs =>
    match cs with
    | [] => ([], [])
    | ['\\'] =>
      ([('\\', false)], ["warning: an unescaped backslash at end of string is not portable".toList])
    | '\\' :: c :: rest =>
      if (octalValue? c).isSome then
        let (d, rest, extra?) := octalCharacter c rest
        let (more, warnings) := unescape steps rest
        let warning : List (List Char) :=
          match extra? with
          | some [a, b, e] =>
            ["warning: the ambiguous octal escape \\".toList ++ [a, b, e] ++
              " is being\n\tinterpreted as the 2-byte sequence \\0".toList ++ [a, b, ',', ' ', e]]
          | _ => []
        ((d, true) :: more, warning ++ warnings)
      else
        let d := ([('a', '\x07'), ('b', '\x08'), ('f', '\x0c'), ('n', '\n'), ('r', '\r'), ('t', '\t'),
          ('v', '\x0b')].lookup c).getD c
        let (more, warnings) := unescape steps rest
        ((d, true) :: more, warnings)
    | c :: rest =>
      let (more, warnings) := unescape steps rest
      ((c, false) :: more, warnings)

/-- What stands before a character and a closing bracket, and what is behind them. -/
def untilClosing (c : Char) : List Marked → Option (List Char × List Marked)
  | a :: b :: rest =>
    if a = (c, false) ∧ b = (']', false) then some ([], rest)
    else (untilClosing c (b :: rest)).map fun (before, rest) => (a.1 :: before, rest)
  | _ => none

/-- The number that a repetition has: octal behind a zero. -/
def repeatCount? (text : List Char) : Option Nat :=
  let base := if text.head? = some '0' then 8 else 10
  let digits := text.dropWhile fun c => c == ' ' || ('\t' ≤ c && c ≤ '\r')
  let digits := if digits.head? = some '+' then digits.tail else digits
  if !digits.isEmpty && digits.all fun c => '0' ≤ c && c.toNat < 48 + base then
    let n := digits.foldl (fun n c => base * n + (c.toNat - 48)) 0
    if n < 2 ^ 64 - 1 then some n else none
  else none

/-- A repetition that follows an opening bracket, and what is behind it. -/
def repetition? (rest : List Marked) : Except SetFlaw (Option (SetPart × List Marked)) :=
  match rest with
  | (c, _) :: ('*', false) :: after =>
    let inside := after.takeWhile fun m => m ≠ (']', false) ∧ !m.2
    match after.drop inside.length with
    | (']', false) :: behind =>
      let text := inside.map (·.1)
      if text.isEmpty then .ok (some (.repetition c 0, behind))
      else
        match repeatCount? text with
        | some n => .ok (some (.repetition c n, behind))
        | none => .error (.badCount text)
    | _ => .ok none
  | _ => .ok none

/-- Whether a star, digits and a closing bracket follow. -/
def isStarred : List Marked → Bool
  | ('*', false) :: rest => (rest.dropWhile fun m => m.1.isDigit).head? == some (']', false)
  | _ => false

/-- A class, a character like others or a repetition that follows an opening bracket. -/
def bracketed? (rest : List Marked) : Except SetFlaw (Option (SetPart × List Marked)) :=
  match rest with
  | (':', false) :: after =>
    match untilClosing ':' after with
    | none => repetition? rest
    | some ([], _) => .error .noClass
    | some (name, behind) =>
      if (Shell.classOf? (String.ofList name)).isSome then .ok (some (.named ⟨String.ofList name⟩, behind))
      else if isStarred after then repetition? rest
      else .error (.badClass name)
  | ('=', false) :: after =>
    match untilClosing '=' after with
    | none => repetition? rest
    | some ([], _) => .error .noAlike
    | some ([c], behind) => .ok (some (.alike c, behind))
    | some (text, _) => if isStarred after then repetition? rest else .error (.badAlike text)
  | _ => repetition? rest

/-- Reads the parts of a set. The first argument bounds their number. -/
def readParts : Nat → List Marked → Except SetFlaw CharacterRow
  | 0, _ => .ok []
  | steps + 1, ms =>
    match ms with
    | [] => .ok []
    | [(a, _)] => .ok [.single a]
    | [(a, _), (b, _)] => .ok [.single a, .single b]
    | (a, isMarked) :: b :: c :: rest => do
      let found? ← if a = '[' ∧ !isMarked then bracketed? (b :: c :: rest) else .ok none
      match found? with
      | some (part, behind) => return part :: (← readParts steps behind)
      | none =>
        if b = ('-', false) then
          if c.1 < a then throw (.reversed a c.1) else return .range a c.1 :: (← readParts steps rest)
        else return .single a :: (← readParts steps (b :: c :: rest))

/-- Reads a set; yields warnings, too. -/
def readSet (text : List Char) : Except SetFlaw CharacterRow × List (List Char) :=
  let (marked, warnings) := unescape (text.length + 1) text
  (readParts (marked.length + 1) marked, warnings)

end SqlTidy.Tools
