import SqlTidy.Process.Find
import SqlTidy.Shell.State

/-!
# Tests

Tests of texts, numbers and files, joined by negation, conjunction and disjunction. What three or four
arguments mean is settled first, by the place of an operator among them.
-/

namespace SqlTidy.Shell

/-- What a path leads to, as far as tests can tell. -/
inductive Kind where
  | file (position : Position) (size mode : Nat)
  | directory (position : Position)
  | pipe
  | device
deriving DecidableEq, Repr

def Kind.isFile : Kind → Bool
  | .file _ _ _ => true
  | _ => false

def Kind.isDirectory : Kind → Bool
  | .directory _ => true
  | _ => false

namespace State

/-- What a path leads to. -/
def kindOf? (s : State) (path : String) : Option Kind :=
  let ofFile (position : Position) : Option Kind :=
    match s.system.tree.at? position with
    | some (.file content mode) => some (.file position content.length mode)
    | _ => none
  match s.system.deviceOf? path with
  | some (.descriptor n) => do
    let number ← s.descriptors.lookup n
    let f ← s.system.file? number
    match f.channel with
    | .file position => ofFile position
    | .directory => some (.directory [])
    | .pipe _ => some .pipe
    | .nothing => some .device
  | some .null => some .device
  | some .terminal => some .device
  | none =>
    match s.system.tree.find path with
    | .ok (position, .directory) => some (.directory position)
    | .ok (position, _) => ofFile position
    | .error _ => none

/-- Whether a path ends in a link. -/
def isLink (s : State) (path : String) : Bool :=
  match s.system.tree.walk false path with
  | .ok (.taken _ (.link _)) => true
  | _ => false

end State

/-- What an operator of a test is. -/
inductive OperatorKind where
  | unary
  | binary
  | negation
  | conjunction
  | disjunction
  | leftParen
  | rightParen
deriving DecidableEq, Repr

def operatorKind? (cs : List Char) : Option OperatorKind :=
  let s := String.ofList cs
  if s ∈ ["-r", "-w", "-x", "-e", "-f", "-d", "-c", "-b", "-p", "-u", "-g", "-k", "-s", "-t", "-z", "-n",
      "-h", "-O", "-G", "-L", "-S"] then some .unary
  else if s ∈ ["=", "!=", "<", ">", "-eq", "-ne", "-ge", "-gt", "-le", "-lt", "-nt", "-ot", "-ef"] then
    some .binary
  else if s = "!" then some .negation
  else if s = "-a" then some .conjunction
  else if s = "-o" then some .disjunction
  else if s = "(" then some .leftParen
  else if s = ")" then some .rightParen
  else none

/-- What a test begins with. -/
inductive Lexeme where
  | ended
  | operand
  | operator (kind : OperatorKind)
deriving DecidableEq, Repr

/-- Whether what looks like an operator with one operand is an operand itself. -/
def isOperand : List (List Char) → Bool
  | _ :: next :: _ :: _ => operatorKind? next == some .binary
  | [_, _] => false
  | _ => true

def lexeme (ts : List (List Char)) : Lexeme :=
  match ts with
  | [] => .ended
  | t :: rest =>
    match operatorKind? t with
    | some .unary => if isOperand ts then .operand else .operator .unary
    | some .leftParen => if rest.isEmpty then .operand else .operator .leftParen
    | some kind => .operator kind
    | none => .operand

/-- A step of a test, which goes along its arguments. -/
abbrev Testing (α : Type) := StateT (List (List Char)) (ExceptT Stop (StateM State)) α

namespace Testing

/-- A step of the script as a step of a test. -/
def lift {α : Type} (x : Run α) : Testing α := StateT.lift x

/-- Complains about an operator. -/
def fail {α : Type} (operator : List Char) (text : String) : Testing α :=
  lift (Run.stop ((if operator.isEmpty then [] else operator ++ ": ".toList) ++ text.toList))

def number (cs : List Char) : Testing Int :=
  match wholeNumber? false cs with
  | some n => pure n
  | none => lift (Run.illegalNumber cs)

/-- A test with one operand. -/
def unary (operator operand : List Char) : Testing Bool := do
  let s : State ← lift get
  let path := toText operand
  let kind := s.kindOf? path
  match String.ofList operator with
  | "-z" => return operand.isEmpty
  | "-n" => return !operand.isEmpty
  | "-t" =>
    let _ ← number operand
    return false
  | "-h" => return s.isLink path
  | "-L" => return s.isLink path
  | "-f" => return kind.any Kind.isFile
  | "-d" => return kind.any Kind.isDirectory
  | "-p" => return kind == some .pipe
  | "-c" => return kind == some .device
  | "-b" => return false
  | "-S" => return false
  | "-u" => return modeBit kind 0o4000
  | "-g" => return modeBit kind 0o2000
  | "-k" => return modeBit kind 0o1000
  | "-s" =>
    match kind with
    | some (.file _ size _) => return 0 < size
    | some (.directory _) => return true
    | _ => return false
  | "-x" =>
    match kind with
    | some (.file _ _ mode) => return mode &&& FileTree.executeBits != 0
    | some (.directory _) => return true
    | _ => return false
  | _ => return kind.isSome
where
  /-- Whether a file has a permission. -/
  modeBit (kind : Option Kind) (bit : Nat) : Bool :=
    match kind with
    | some (.file _ _ mode) => mode &&& bit != 0
    | _ => false

/-- A test with two operands. -/
def binary (operator a b : List Char) : Testing Bool := do
  match String.ofList operator with
  | "=" => return a == b
  | "!=" => return a != b
  | "<" => return a != b && isBefore a b
  | ">" => return a != b && isBefore b a
  | "-eq" => return (← number a) == (← number b)
  | "-ne" => return (← number a) != (← number b)
  | "-gt" => return (← number a) > (← number b)
  | "-ge" => return (← number a) ≥ (← number b)
  | "-lt" => return (← number a) < (← number b)
  | "-le" => return (← number a) ≤ (← number b)
  | "-ef" =>
    let s : State ← lift get
    match s.kindOf? (toText a), s.kindOf? (toText b) with
    | some (.file p _ _), some (.file q _ _) => return p == q
    | some (.directory p), some (.directory q) => return p == q
    | _, _ => return false
  | _ => return false

/-- The arguments left. -/
def here : Testing (List (List Char)) := get

def advance (n : Nat) : Testing (List (List Char)) := do
  modify (List.drop n)
  get

/-- The test at hand, given what it begins with. `inner` is a test in parentheses. -/
def primary (inner : Lexeme → Testing Bool) (l : Lexeme) (isUnary : Bool) : Testing Bool := do
  match l with
  | .ended => return false
  | .operator .leftParen =>
    let l := lexeme (← advance 1)
    if l = .operator .rightParen then return false
    else
      let r ← inner l
      if lexeme (← advance 1) ≠ .operator .rightParen then fail [] "closing paren expected"
      return r
  | _ =>
    let ts ← here
    if isUnary && l == .operator .unary then
      match ← advance 1 with
      | [] => fail (ts.headD []) "argument expected"
      | operand :: _ => unary (ts.headD []) operand
    else
      match ts with
      | a :: operator :: rest =>
        if operatorKind? operator = some .binary then
          let _ ← advance 2
          match rest with
          | [] => fail operator "argument expected"
          | b :: _ => binary operator a b
        else return !a.isEmpty
      | [a] => return !a.isEmpty
      | [] => return false

/-- A test with negations in front. The first argument bounds their number. -/
def negated (inner : Lexeme → Testing Bool) : Nat → Lexeme → Testing Bool
  | 0, _ => return false
  | steps + 1, l => do
    if l ≠ .operator .negation then primary inner l true
    else
      let next := lexeme (← here).tail
      if next ≠ .ended then let _ ← advance 1
      return !(← negated inner steps next)

/-- A conjunction of tests. The first argument bounds their number. -/
def conjunction (inner : Lexeme → Testing Bool) : Nat → Bool → Lexeme → Testing Bool
  | 0, r, _ => return r
  | steps + 1, r, l => do
    let this ← negated inner (steps + 1) l
    let r := r && this
    if lexeme (← here).tail = .operator .conjunction then
      conjunction inner steps r (lexeme (← advance 2))
    else return r

/-- A disjunction of tests. The first argument bounds their number. -/
def disjunction (inner : Lexeme → Testing Bool) : Nat → Bool → Lexeme → Testing Bool
  | 0, r, _ => return r
  | steps + 1, r, l => do
    let this ← conjunction inner (steps + 1) true l
    let r := r || this
    if lexeme (← here).tail = .operator .disjunction then
      disjunction inner steps r (lexeme (← advance 2))
    else return r

/-- A test with parentheses, at most so deep. -/
def whole : Nat → Lexeme → Testing Bool
  | 0, _ => return false
  | depth + 1, l => do disjunction (whole depth) ((← here).length + 1) false l

end Testing

/-- The value of a test whose arguments are settled. -/
def evaluateTest (ts : List (List Char)) (l : Lexeme) : Run Bool := do
  let (r, left) ← (Testing.whole (ts.length + 1) l).run ts
  match left with
  | t :: _ :: _ => Run.stop ((if t.isEmpty then [] else t ++ ": ".toList) ++ "unexpected operator".toList)
  | _ => return r

/-- The value of a test. The first argument bounds the number of negations. -/
def testWith : Nat → Bool → List (List Char) → Run Bool
  | 0, _, _ => return false
  | steps + 1, isNegated, ts => do
    let settled (ts : List (List Char)) (l : Lexeme) : Run Bool := do
      return (← evaluateTest ts l) != isNegated
    let three (ts : List (List Char)) : Run Bool :=
      if ts.head? = some ['('] ∧ ts.getLast? = some [')'] then
        let inner := (ts.drop 1).dropLast
        settled inner (lexeme inner)
      else if ts.head? = some ['!'] then testWith steps true (ts.drop 1)
      else settled ts (lexeme ts)
    match ts with
    | [] => return isNegated
    | [_, operator, _] =>
      if operatorKind? operator = some .binary then settled ts .operand else three ts
    | [_, _, _, _] => three ts
    | ts => settled ts (lexeme ts)

/-- The value of a test. -/
def test (ts : List (List Char)) : Run Bool := testWith (ts.length + 1) false ts

end SqlTidy.Shell
