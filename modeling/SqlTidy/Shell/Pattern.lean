import SqlTidy.Disk.Calls
import SqlTidy.Shell.Text

/-!
# Patterns

A star stands for any text, a question mark for any character, brackets for one of several characters.
An escaped character stands for itself. A text fits a pattern as a whole; the names of files that fit
one are found directory by directory.
-/

namespace SqlTidy.Shell

/-- A character in a pattern. -/
structure PatternChar where
  char : Char
  isEscaped : Bool
deriving DecidableEq, Repr

abbrev Pattern := List PatternChar

/-- A character that is not escaped. -/
def PatternChar.isSign (p : PatternChar) (c : Char) : Bool := p.char == c && !p.isEscaped

/-- Characters are ordered by their octets, those of the upper half first. -/
def signedOrder (c : Char) : Nat := (c.toNat + 128) % 256

/-- A backslash escapes what follows it. -/
def applyEscapes : Pattern → Pattern
  | [] => []
  | [p] => [p]
  | p :: q :: rest =>
    if p.isSign '\\' then ⟨q.char, true⟩ :: applyEscapes rest else p :: applyEscapes (q :: rest)

/-- A named class behind a bracket: its characters, and the pattern behind it. -/
def takeClass (ps : Pattern) : Option ((Char → Bool) × Pattern) :=
  let text := ps.map (·.char)
  classNames.findSome? fun name =>
    let whole := ":" ++ name ++ ":]"
    if whole.toList.isPrefixOf text then
      (classOf? name).map fun has => (has, ps.drop whole.length)
    else none

/-- Whether a character is one of those in brackets, and the pattern behind the brackets; `none` if they
are not closed. The first character of the pattern counts even if it is a bracket. The first argument
bounds the number of steps. -/
def inBrackets : Nat → Char → Bool → Pattern → Option (Bool × Pattern)
  | 0, _, _, _ => none
  | _, _, _, [] => none
  | steps + 1, c, found, p :: ps =>
    let goOn (found : Bool) (ps : Pattern) : Option (Bool × Pattern) :=
      match ps with
      | [] => none
      | q :: rest => if q.isSign ']' then some (found, rest) else inBrackets steps c found ps
    match (if p.isSign '[' then takeClass ps else none) with
    | some (has, rest) => goOn (found || has c) rest
    | none =>
      match ps with
      | dash :: last :: rest =>
        if dash.isSign '-' && !last.isSign ']' then
          goOn (found || (signedOrder p.char ≤ signedOrder c && signedOrder c ≤ signedOrder last.char)) rest
        else goOn (found || p.char == c) ps
      | _ => goOn (found || p.char == c) ps

/-- One character against the start of a pattern: the pattern behind it if it fits. -/
def stepOver (p : PatternChar) (ps : Pattern) (c : Char) : Option Pattern :=
  if p.isSign '?' then some ps
  else if p.isSign '[' then
    let (isInverted, inner) :=
      match ps with
      | q :: rest => if q.isSign '!' then (true, rest) else (false, ps)
      | [] => (false, ps)
    match inBrackets (inner.length + 1) c false inner with
    | some (found, rest) => if found = isInverted then none else some rest
    | none => if p.char = c then some ps else none
  else if p.char = c then some ps
  else none

/-- Whether a text fits a pattern. The first argument bounds the steps. -/
def fitsWith : Nat → Pattern → List Char → Bool
  | 0, _, _ => false
  | _, [], cs => cs.isEmpty
  | steps + 1, p :: ps, cs =>
    if p.isSign '*' then
      fitsWith steps ps cs ||
        match cs with
        | _ :: rest => fitsWith steps (p :: ps) rest
        | [] => false
    else
      match cs with
      | c :: rest =>
        match stepOver p ps c with
        | some ps => fitsWith steps ps rest
        | none => false
      | [] => false

/-- Whether a text fits a pattern. -/
def fits (pattern : Pattern) (cs : List Char) : Bool :=
  let pattern := applyEscapes pattern
  fitsWith (pattern.length + cs.length + 1) pattern cs

/-- A text without the start or the end that fits a pattern, the shortest or the longest one. A NUL between
parameters ends what is compared, and the search from the left. -/
def cutText (fromStart longest : Bool) (pattern : Pattern) (cs : List Char) : List Char :=
  let first (cs : List Char) : List Char := cs.takeWhile (· ≠ '\x00')
  let isCut (place : Nat) : Bool := fits pattern (first (if fromStart then cs.take place else cs.drop place))
  let place? :=
    if fromStart == longest then (List.range (cs.length + 1)).reverse.find? isCut
    else (List.range ((first cs).length + 1)).find? isCut
  match place? with
  | some place => if fromStart then cs.drop place else cs.take place
  | none => cs

/-- Whether a pattern has signs in it that stand for other characters. -/
def hasSigns (pattern : Pattern) : Bool := pattern.any fun p => !p.isEscaped && "*?[".toList.contains p.char

def patternText (pattern : Pattern) : List Char := pattern.map (·.char)

/-- The pieces of a pattern between its slashes. -/
def splitPattern : Pattern → List Pattern
  | [] => [[]]
  | p :: rest =>
    if p.char = '/' then [] :: splitPattern rest
    else
      match splitPattern rest with
      | first :: more => (p :: first) :: more
      | [] => [[p]]

/-- The names in a directory. -/
def namesIn (t : FileTree) (directory : List Char) : List (List Char) :=
  match t.find (if directory.isEmpty then "." else toText directory) with
  | .ok (position, .directory) =>
    ['.'] :: ['.', '.'] :: t.entries.filterMap fun (p, _) =>
      match p with
      | name :: above => if above = position then some (ofText name) else none
      | [] => none
  | _ => []

/-- Names that start with a dot have to be asked for by a dot. -/
def isShown (piece : Pattern) (name : List Char) : Bool :=
  name.head? != some '.' || (applyEscapes piece).head?.any fun p => p.char == '.'

/-- The paths that fit pieces of a pattern, behind a path. -/
def matchPieces (t : FileTree) : List Char → List Pattern → List (List Char)
  | _, [] => []
  | before, [piece] =>
    if hasSigns piece then
      ((namesIn t before).filter fun n => isShown piece n && fits piece n).map (before ++ ·)
    else
      let path := before ++ patternText (applyEscapes piece)
      if (t.walk false (toText path)).toOption.any isTaken then [path] else []
  | before, piece :: rest =>
    if hasSigns piece then
      (((namesIn t before).filter fun n => isShown piece n && fits piece n).map
        (before ++ · ++ ['/'])).flatMap fun path => matchPieces t path rest
    else matchPieces t (before ++ patternText (applyEscapes piece) ++ ['/']) rest
where
  isTaken : Spot → Bool
    | .taken _ _ => true
    | .free _ => false

/-- Octets in order. -/
def isBefore : List Char → List Char → Bool
  | [], _ => true
  | _ :: _, [] => false
  | a :: as, b :: bs => if a = b then isBefore as bs else a < b

/-- The paths that fit a pattern, in order. -/
def matching (t : FileTree) (pattern : Pattern) : List (List Char) :=
  (matchPieces t [] (splitPattern pattern)).mergeSort isBefore

end SqlTidy.Shell
