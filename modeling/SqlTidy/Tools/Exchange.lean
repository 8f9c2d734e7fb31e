import SqlTidy.Tools.CharacterSet
import SqlTidy.Tools.Work

/-!
# Exchanging, deleting and squeezing characters

The characters of one row become those at the same places of another. A row that is too short goes on with
its last character. Classes of upper and lower case at the same places change the case.
-/

namespace SqlTidy.Tools

open Shell

/-- Why two rows do not go together. -/
inductive RowFlaw where
  | openFirst
  | tooMany
  | manyOpen
  | alikeSecond
  | classSecond
  | misaligned
  | emptySecond
  | endsInClass
  | notUniform
  | openUnused
deriving DecidableEq, Repr

def RowFlaw.text : RowFlaw → String
  | .openFirst => "the [c*] repeat construct may not appear in string1"
  | .tooMany => "too many characters in set"
  | .manyOpen => "only one [c*] repeat construct may appear in string2"
  | .alikeSecond => "[=c=] expressions may not appear in string2 when translating"
  | .classSecond =>
    "when translating, the only character classes that may appear in\nstring2 are 'upper' and 'lower'"
  | .misaligned => "misaligned [:upper:] and/or [:lower:] construct"
  | .emptySecond => "when not truncating set1, string2 must be non-empty"
  | .endsInClass =>
    "when translating with string1 longer than string2,\nthe latter string must not end with a character class"
  | .notUniform =>
    "when translating with complemented character classes,\nstring2 must map all characters in the domain to one"
  | .openUnused => "the [c*] construct may appear in string2 only when translating"

/-- A place in a row: a character, whether a part starts there, and the class if a case can be changed. -/
structure Place where
  character : Char
  isStart : Bool
  case? : Option CharacterClass
deriving DecidableEq, Repr

/-- The places of a row; of a repetition no more than so many. -/
def CharacterRow.places (limit : Nat) (r : CharacterRow) : List Place :=
  r.flatMap fun part => (part.upTo limit).zipIdx.map fun (c, i) => ⟨c, i == 0, part.case?⟩

/-- The places behind the part that goes on. -/
def behindPart (ps : List Place) : List Place := ps.dropWhile fun p => !p.isStart

theorem length_behindPart_le (ps : List Place) : (behindPart ps).length ≤ ps.length :=
  (List.dropWhile_sublist _).length_le

/-- Checks that the classes of a case in the second row stand where such classes stand in the first. A pair of
classes counts as one place: yields by how much less that makes the rows. -/
def align : List Place → List Place → Except RowFlaw (Nat × Nat)
  | _, [] => .ok (0, 0)
  | [], q :: _ => if q.isStart && q.case?.isSome then .error .misaligned else .ok (0, 0)
  | p :: ps, q :: qs =>
    match q.case? with
    | none => align ps qs
    | some k =>
      if q.isStart && !(p.isStart && p.case?.isSome) then .error .misaligned
      else do
        let (less, lessSecond) ← align (behindPart ps) (behindPart qs)
        return (less + ((p.case?.getD k).members.length - 1), lessSecond + (k.members.length - 1))
termination_by ps => ps.length
decreasing_by
  all_goals simp only [List.length_cons]
  · omega
  · have := length_behindPart_le ps
    omega

/-- Which character becomes which, by the places of two rows. -/
def pairs : List Place → List Place → List (Char × Char)
  | p :: ps, q :: qs =>
    match p.case?, q.case? with
    | _, none => (p.character, q.character) :: pairs ps qs
    | none, some _ => (p.character, q.character) :: pairs (behindPart ps) (behindPart qs)
    | some own, some k =>
      (if own = k then [] else own.members.zip k.members) ++ pairs (behindPart ps) (behindPart qs)
  | _, _ => []
termination_by ps => ps.length
decreasing_by
  all_goals simp only [List.length_cons]
  · omega
  all_goals
    have := length_behindPart_le ps
    omega

/-- What is to be done. -/
structure Exchange where
  isComplement : Bool
  deletes : Bool
  squeezes : Bool
  truncates : Bool

/-- More characters than this are too many in a row. -/
def rowLimit : Nat := 2 ^ 64 - 2

/-- The second row, with its open repetition filled up to a length. -/
def filledTo (length : Nat) (r : CharacterRow) : CharacterRow :=
  if CharacterRow.size r ≤ length ∧ (r.filter SetPart.isOpen).length = 1 then
    r.map fun
      | .repetition c 0 => .repetition c (length - CharacterRow.size r)
      | part => part
  else r

/-- The character that a row goes on with. -/
def lastOf (r : CharacterRow) : Except RowFlaw Char :=
  match r.getLast? with
  | some (.single c) => .ok c
  | some (.range _ last) => .ok last
  | some (.repetition c _) => .ok c
  | some (.alike c) => .ok c
  | some (.named _) => .error .endsInClass
  | none => .error .emptySecond

def isNamed : SetPart → Bool
  | .named _ => true
  | _ => false

def isAlike : SetPart → Bool
  | .alike _ => true
  | _ => false

namespace Exchange

/-- The characters that the first row means. -/
def means (x : Exchange) (first : CharacterRow) (c : Char) : Bool := CharacterRow.holds first c != x.isComplement

/-- The number of places of the first row. -/
def width (x : Exchange) (first : CharacterRow) : Nat :=
  if x.isComplement then (allCharacters.filter (x.means first)).length else CharacterRow.size first

/-- The first row is all right by itself. -/
def checkFirst (first : CharacterRow) : Except RowFlaw Unit :=
  if rowLimit < CharacterRow.size first then .error .tooMany
  else if first.any SetPart.isOpen then .error .openFirst
  else .ok ()

/-- The second row is all right by itself. -/
def checkSecond (second : CharacterRow) : Except RowFlaw Unit :=
  if rowLimit < CharacterRow.size second then .error .tooMany
  else if 1 < (second.filter SetPart.isOpen).length then .error .manyOpen
  else .ok ()

/-- The second row as it goes with the first: filled up and gone on with. -/
def matched (x : Exchange) (first second : CharacterRow) : Except RowFlaw CharacterRow := do
  let width := x.width first
  checkSecond second
  let second := filledTo width second
  if second.any isAlike then throw .alikeSecond
  else if second.any fun part => isNamed part && part.case?.isNone then throw .classSecond
  else
    let (less, lessSecond) ←
      if x.isComplement || !second.any isNamed then .ok (0, 0)
      else align (CharacterRow.places width first) (CharacterRow.places width second)
    let size := CharacterRow.size second
    let missing := (width - less) - (size - lessSecond)
    let second ←
      if missing = 0 ∨ x.truncates then pure second
      else if size = 0 then throw .emptySecond
      else do
        let c ← lastOf second
        pure (second ++ [.repetition c missing])
    if x.isComplement && first.any isNamed && !isUniform width second then throw .notUniform else return second
where
  /-- Whether a row fills the first and has only one character. -/
  isUniform (width : Nat) (r : CharacterRow) : Bool :=
    let cs := (CharacterRow.places (width + 1) r).map Place.character
    CharacterRow.size r == width && !cs.isEmpty && cs.all fun c => cs.head? == some c

/-- Which character becomes which. -/
def table (x : Exchange) (first second : CharacterRow) : List (Char × Char) :=
  let width := x.width first
  if x.isComplement then
    (allCharacters.filter (x.means first)).zip ((CharacterRow.places width second).map Place.character)
  else pairs (CharacterRow.places width first) (CharacterRow.places width second)

end Exchange

/-- Drops repeated characters of a kind. -/
def squeeze (isMeant : Char → Bool) : List Char → List Char
  | a :: b :: rest =>
    if a = b ∧ isMeant a then squeeze isMeant (b :: rest) else a :: squeeze isMeant (b :: rest)
  | cs => cs

/-- What becomes of text. A character of the first row twice becomes what its last place says. -/
def Exchange.apply (x : Exchange) (first : CharacterRow) (second? : Option CharacterRow) :
    Except RowFlaw (List Char → List Char) := do
  Exchange.checkFirst first
  match second? with
  | none => return if x.deletes then List.filter (!x.means first ·) else squeeze (x.means first)
  | some second =>
    if x.deletes then
      Exchange.checkSecond second
      if second.any SetPart.isOpen then throw .openUnused
      else return fun cs => squeeze (CharacterRow.holds second) (cs.filter (!x.means first ·))
    else
      let second ← x.matched first second
      let table := (x.table first second).reverse
      let change (cs : List Char) : List Char := cs.map fun c => (table.lookup c).getD c
      return if x.squeezes then squeeze (CharacterRow.holds second) ∘ change else change

def trTable : OptionTable where
  letters := "cCdst".toList.map fun c => (c, .never)
  words := [("complement", .never, 'c'), ("delete", .never, 'd'), ("squeeze-repeats", .never, 's'),
    ("truncate-set1", .never, 't'), ("help", .never, 'h'), ("version", .never, 'V')]

/-- Reads a row; a flaw ends the work. -/
def readRow (w : Work) (operand : List Char) : Except Work (CharacterRow × Work) :=
  let (row, warnings) := readSet operand
  let w := warnings.foldl Work.warn w
  match row with
  | .ok row => .ok (row, w)
  | .error flaw => .error (w.complain flaw.text)

/-- Copies the input with a change. -/
def filterInput (change : List Char → List Char) (w : Work) : Work :=
  match w.task.drain 0 with
  | .error cause => w.complain ("read error: ".toList ++ cause.text.toList)
  | .ok (bs, task) => { w with task }.put (toOctets (change (ofOctets bs)))

/-- Exchanges, deletes or squeezes. -/
def runExchange (x : Exchange) (operands : List (List Char)) (w : Work) : Except Work Work := do
  let (first, w) ← readRow w (operands.headD [])
  let (second?, w) ←
    match operands.tail with
    | [] => pure (none, w)
    | operand :: _ => do
      let (second, w) ← readRow w operand
      pure (some second, w)
  match x.apply first second? with
  | .ok change => return filterInput change w
  | .error flaw => .error (w.complain flaw.text.toList)

/-- Exchanges, deletes or squeezes characters of the input. -/
def tr : Tool := toolWith trTable true fun g w =>
  let x : Exchange := ⟨g.has 'c' || g.has 'C', g.has 'd', g.has 's', g.has 't'⟩
  let least := if x.deletes == x.squeezes then 2 else 1
  let most := if x.deletes && !x.squeezes then 1 else 2
  let count := g.operands.length
  if count < least then
    match g.operands.getLast? with
    | none => (w.complain "missing operand".toList).misuse
    | some operand =>
      let why := if x.squeezes then "both deleting and squeezing repeats.\n" else "translating.\n"
      ((w.complain ("missing operand after ".toList ++ cited operand)).tell
        ("Two strings must be given when " ++ why).toList).misuse
  else if most < count then
    let w := w.complain ("extra operand ".toList ++ cited ((g.operands.drop most).headD []))
    (if count = 2 then
      w.tell "Only one string may be given when deleting without squeezing repeats.\n".toList
    else w).misuse
  else
    match runExchange x g.operands w with
    | .ok w => w
    | .error w => w

end SqlTidy.Tools
