import SqlTidy.Shell.Pattern

/-!
# Fields

Expansions leave a sequence of atoms: characters, marks of quotes, and the starts of regions, in which
dividers make fields. A blank divider counts together with blanks around it, any other on its own. A NUL
stands between two parameters and always divides, as a blank would; in a region for quoted parameters
nothing else does, and empty ones are fields, too.
-/

namespace SqlTidy.Shell

inductive Atom where
  | char (c : Char) (isEscaped divides : Bool)
  | mark
  | region (nulOnly : Bool)
deriving DecidableEq, Repr

/-- The characters that atoms make up where no fields are made. -/
def joinedText (atoms : List Atom) : List Char :=
  atoms.filterMap fun
    | .char c _ _ => some c
    | _ => none

/-- The pattern that atoms make up. -/
def patternOf (atoms : List Atom) : Pattern :=
  atoms.filterMap fun
    | .char c isEscaped _ => some ⟨c, isEscaped⟩
    | _ => none

/-- How far a division into fields has come. -/
structure Division where
  /-- The complete fields and the atoms of the one at hand, the last first. -/
  fields : List (List Atom) := []
  field : List Atom := []
  /-- Whether blanks have just ended a field. -/
  afterBlank : Bool := false
  nulOnly : Bool := false
  wasNulOnly : Bool := false
  /-- How many more fields there may be; no number is no bound. -/
  limit : Option Nat := none
  /-- Atoms at the end of the last field that may be dropped, the last first. -/
  trailing : Option (List Atom) := none

namespace Division

def isBlankDivider (c : Char) : Bool := c == ' ' || c == '\t' || c == '\n' || c == '\x00'

/-- Takes a character of the last field: dividers at its end are kept apart. -/
def takeLast (d : Division) (a : Atom) (isDivider isBlank : Bool) : Division :=
  let kept : List Atom := d.trailing.getD [] ++ d.field
  if isBlank then { d with trailing := some (a :: d.trailing.getD []) }
  else if isDivider && d.afterBlank then
    { d with trailing := d.trailing.map (a :: ·), field := if d.trailing.isNone then a :: d.field else d.field,
             afterBlank := false }
  else { d with field := a :: kept, trailing := none, afterBlank := false }

/-- Takes a divider that ends a field. -/
def endField (d : Division) (a : Atom) (isBlank : Bool) : Division :=
  let afterBlank := if d.wasNulOnly || d.nulOnly then d.afterBlank else isBlank
  if d.field.isEmpty && afterBlank then { d with afterBlank := false }
  else
    match d.limit with
    | some 1 => { d with limit := some 0, trailing := some [a], afterBlank }
    | limit =>
      { d with
        fields := d.field.reverse :: d.fields
        field := []
        afterBlank
        limit := limit.map (· - 1) }

/-- Takes an atom. -/
def take (dividers : List Char) (d : Division) (a : Atom) : Division :=
  match a with
  | .region nulOnly => { d with wasNulOnly := d.nulOnly, nulOnly, afterBlank := false }
  | .char c _ true =>
    let isDivider := c == '\x00' || (!d.nulOnly && dividers.contains c)
    let isBlank := isDivider && isBlankDivider c
    if d.limit = some 0 then d.takeLast a isDivider isBlank
    else if d.afterBlank then
      if isBlank then { d with field := [] }
      else if isDivider then { d with field := [], afterBlank := false }
      else { d with field := [a], afterBlank := false }
    else if isDivider then d.endField a isBlank
    else { d with field := a :: d.field, afterBlank := false }
  | a =>
    if d.limit = some 0 then { d with field := a :: (d.trailing.getD [] ++ d.field), trailing := none }
    else { d with field := a :: d.field }

/-- The fields at the end. -/
def finish (d : Division) : List (List Atom) :=
  if d.nulOnly || !d.field.isEmpty then (d.field.reverse :: d.fields).reverse else d.fields.reverse

end Division

/-- The fields that atoms make up, at most so many if there is a bound. -/
def divide (dividers : List Char) (limit : Option Nat) (atoms : List Atom) : List (List Atom) :=
  (atoms.foldl (Division.take dividers) { limit }).finish

end SqlTidy.Shell
