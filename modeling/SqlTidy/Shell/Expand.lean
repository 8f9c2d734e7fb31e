import SqlTidy.Shell.Fields
import SqlTidy.Shell.State

/-!
# Expansion

Parameters, substitutions and arithmetic in a word are replaced by what they stand for, a tilde by a
home. What comes of a word is a list of fields, a text, or a pattern, depending on where it stands.
-/

namespace SqlTidy.Shell

/-- How a word is expanded. -/
structure Expansion where
  /-- Whether fields are made. -/
  divides : Bool := false
  /-- Whether a tilde at the start stands for a home. -/
  startsHome : Bool := false
  /-- Whether a tilde behind an equals sign or a colon does. -/
  assigns : Bool := false
  isQuoted : Bool := false
  /-- Whether the word stands inside an expansion. -/
  isNested : Bool := false

/-- What expansions inside others need: words one level deeper, and what commands write. -/
structure Expander where
  word : Expansion → Word → Run (List Atom)
  substitute : Command → Run (List Char)

/-- Atoms for a value. -/
def valueAtoms (isQuoted : Bool) (cs : List Char) : List Atom :=
  if isQuoted then cs.map (.char · true false)
  else .region false :: cs.map (.char · false true)

/-- The homes of users. -/
def homeOf? (user : List Char) : Option (List Char) :=
  if user = "root".toList then some "/root".toList else none

/-- The letters of options, in the order in which they are listed. -/
def optionLetters : List Char :=
  ['e', 'f', 'I', 'i', 'm', 'n', 's', 'x', 'v', 'V', 'E', 'C', 'a', 'b', 'u', 'p']

/-- The value of a parameter, and whether only NULs divide it. -/
def State.parameter? (s : State) (name : List Char) (divides isQuoted : Bool) :
    Option (List Char) × Bool :=
  let all (separator : List Char) : List Char := (s.parameters.intersperse separator).flatten
  let first := s.dividers.head?
  match name with
  | ['#'] => (some (decimalText s.parameters.length), false)
  | ['?'] => (some (decimalText s.status), false)
  | ['$'] => (some (decimalText ownNumber), false)
  | ['!'] => (s.lastJob.map decimalText, false)
  | ['-'] => (some (optionLetters.reverse.filter s.has), false)
  | ['@'] =>
    if divides && isQuoted then (some (all ['\x00']), true)
    else if divides then (some (all ['\x00']), false)
    else (some (all first.toList), false)
  | ['*'] =>
    if divides && !isQuoted then (some (all ['\x00']), false)
    else (some (all first.toList), false)
  | c :: _ =>
    if isNumeral c then
      let n := (takeInteger false name).value.toNat
      (if n = 0 then some s.name else s.parameters[n - 1]?, false)
    else (s.valueOf? name, false)
  | [] => (none, false)

namespace Expander

/-- The value of an arithmetic expression. -/
def calculate (text : List Char) : Run Int := do
  let s ← get
  match Shell.calculate s.valueOf? text with
  | .ok (n, assigned) =>
    assigned.forM fun (name, n) => Run.assign name (decimalText n) false
    return n
  | .error (.illegal text) => Run.illegalNumber text
  | .error .overflow => throw (.killed 8)
  | .error .zeroDivision => complain "division by zero"
  | .error (.expecting what) => complain what
where
  /-- What is wrong with the expression. -/
  complain (what : String) : Run Int :=
    Run.stop (("arithmetic expression: " ++ what ++ ": \"").toList ++ text ++ ['"'])

/-- What is complained about a parameter that is not set. -/
def notSet {α : Type} (name text : List Char) : Run α := Run.stop (name ++ ": ".toList ++ text)

/-- The atoms of a parameter. -/
def parameter (e : Expander) (x : Expansion) (name : List Char) (use : ParameterUse) (word : Word) :
    Run (List Atom) := do
  let s ← get
  let (value, nulOnly) := s.parameter? name (x.divides && use != .length) x.isQuoted
  let isEasy := !x.isQuoted || (name = ['@'] && !s.parameters.isEmpty)
  let atoms (cs : List Char) : List Atom :=
    (if isEasy then [.region nulOnly] else []) ++
      cs.map fun c => .char c x.isQuoted (isEasy && (!nulOnly || !x.isQuoted || c == '\x00'))
  let inner : Expansion := { x with startsHome := true, isNested := true }
  let isSet (emptyCounts : Bool) : Bool :=
    match value with
    | some cs => !(emptyCounts && cs.isEmpty)
    | none => false
  let checked : Run (List Char) := do
    match value with
    | some cs => return cs
    | none => if s.has 'u' then notSet name "parameter not set".toList else return []
  match use with
  | .invalid => Run.stopText "Bad substitution"
  | .value => return atoms (← checked)
  | .length => return valueAtoms x.isQuoted (decimalText (← checked).length)
  | .byDefault emptyCounts =>
    if isSet emptyCounts then return atoms (value.getD []) else e.word inner word
  | .ifSet emptyCounts => if isSet emptyCounts then e.word inner word else return []
  | .assigning emptyCounts =>
    if isSet emptyCounts then return atoms (value.getD [])
    else
      let cs := joinedText (← e.word { startsHome := true } word)
      Run.assignChecked name cs
      return valueAtoms x.isQuoted cs
  | .required emptyCounts =>
    if isSet emptyCounts then return atoms (value.getD [])
    else if word.isEmpty then
      notSet name (("parameter not set" ++ if emptyCounts then " or null" else "").toList)
    else notSet name (joinedText (← e.word { startsHome := true } word))
  | .cut fromStart longest =>
    let cs ← checked
    let pattern := patternOf (← e.word { startsHome := true } word)
    return atoms (cutText fromStart longest pattern cs)

/-- A tilde at the start of pieces: the home it stands for, and the pieces behind it. -/
def home? (s : State) (assigns : Bool) (pieces : List Piece) : Option (List Char × List Piece) :=
  match pieces with
  | .char '~' false :: rest =>
    let isEnd (c : Char) : Bool := c == '/' || (assigns && c == ':')
    let user := (leadingText rest).takeWhile fun c => !isEnd c
    let behind := rest.drop user.length
    let isComplete :=
      match behind with
      | [] => true
      | .char c false :: _ => isEnd c
      | _ => false
    if !isComplete then none
    else
      let home := if user.isEmpty then s.valueOf? "HOME".toList else homeOf? user
      home.map fun cs => (cs, behind)
  | _ => none

/-- Where an expansion stands in a word. -/
structure Stand where
  /-- Whether quotes are open. -/
  inQuotes : Bool := false
  /-- Whether a tilde may come next. -/
  atHome : Bool := false
  /-- Whether an equals sign may still come. -/
  mayAssign : Bool := false
  /-- Whether a region of plain characters has begun. -/
  inRegion : Bool := false

/-- Expands pieces. The first argument bounds their number. -/
def pieces (e : Expander) (x : Expansion) : Nat → Stand → List Piece → Run (List Atom)
  | 0, _, _ => return []
  | _, _, [] => return []
  | steps + 1, stand, p :: rest => do
    let s ← get
    let inQuotes := stand.inQuotes
    let inner : Expansion := { x with isQuoted := x.isQuoted || inQuotes, startsHome := false }
    let plain : Stand := { stand with atHome := false, inRegion := false }
    match (if stand.atHome then home? s x.assigns (p :: rest) else none) with
    | some (home, behind) =>
      let more ← pieces e x steps plain behind
      return home.map (.char · true false) ++ more
    | none =>
      match p with
      | .char c isEscaped =>
        let isEquals := x.assigns && stand.mayAssign && c == '=' && !isEscaped
        let isColon := x.assigns && c == ':' && !isEscaped
        let divides := x.isNested && !x.isQuoted && !inQuotes && !isEscaped
        let more ← pieces e x steps
          ⟨inQuotes, isEquals || isColon, stand.mayAssign && !isEquals, divides⟩ rest
        let start : List Atom := if divides && !stand.inRegion then [.region false] else []
        return start ++ .char c isEscaped divides :: more
      | .quote =>
        match inQuotes, rest with
        | false, .parameter ['@'] .value _ :: .quote :: behind =>
          let atoms ← e.parameter { inner with isQuoted := true } ['@'] .value []
          let more ← pieces e x steps plain behind
          return atoms ++ more
        | _, _ =>
          let more ← pieces e x steps { plain with inQuotes := !inQuotes } rest
          return .mark :: more
      | .parameter name use word =>
        let atoms ← e.parameter inner name use word
        let more ← pieces e x steps plain rest
        return atoms ++ more
      | .substitution body =>
        let cs ← e.substitute body
        let more ← pieces e x steps plain rest
        return valueAtoms inner.isQuoted cs ++ more
      | .arithmetic body =>
        let n ← calculate (joinedText (← e.word {} body))
        let more ← pieces e x steps plain rest
        return valueAtoms inner.isQuoted (decimalText n) ++ more

/-- The atoms of a word. -/
def expand (e : Expander) (x : Expansion) (word : Word) : Run (List Atom) :=
  e.pieces x (word.length + 1) { atHome := x.startsHome, mayAssign := x.assigns } word

/-- The text of a word. -/
def text (e : Expander) (x : Expansion) (word : Word) : Run (List Char) := do
  return joinedText (← e.word x word)

/-- The paths or the text that a field stands for. -/
def named (s : State) (field : List Atom) : List (List Char) :=
  let pattern := patternOf field
  if s.has 'f' || !hasSigns pattern then [patternText pattern]
  else
    match matching s.system.tree pattern with
    | [] => [patternText pattern]
    | paths => paths

/-- The fields of a word. -/
def fields (e : Expander) (word : Word) : Run (List (List Char)) := do
  let atoms ← e.word { divides := true, startsHome := true } word
  let s ← get
  return (divide s.dividers none atoms).flatMap (named s)

/-- The fields of words. -/
def allFields (e : Expander) : List Word → Run (List (List Char))
  | [] => return []
  | word :: rest => do
    let first ← e.fields word
    return first ++ (← allFields e rest)

end Expander

end SqlTidy.Shell
