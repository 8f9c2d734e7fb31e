import SqlTidy.Shell.Number

/-!
# Arithmetic

Expressions are calculated while they are read, with numbers of 64 bits that wrap around. A part that
cannot matter any more is read, but has no effect. Assignments are collected in order.
-/

namespace SqlTidy.Shell

inductive ArithmeticToken where
  | number (n : Int)
  | name (cs : List Char)
  | sign (text : String)
  | bad
  | ended
deriving DecidableEq

/-- Why an expression has no value. -/
inductive ArithmeticFlaw where
  | expecting (what : String)
  | zeroDivision
  | illegal (text : List Char)
  /-- The quotient has more than 64 bits, which nothing survives. -/
  | overflow
deriving DecidableEq

/-- Signs of an expression, longer ones before those they start with. -/
def arithmeticSigns : List String :=
  ["<<=", ">>=", "==", "!=", "<=", ">=", "<<", ">>", "&&", "||", "+=", "-=", "*=", "/=", "%=", "&=", "|=",
    "^=", "=", "<", ">", "+", "-", "*", "/", "%", "&", "|", "^", "!", "~", "(", ")", "?", ":"]

/-- The tokens of an expression. The first argument bounds their number. -/
def arithmeticTokens : Nat → List Char → List ArithmeticToken
  | 0, _ => []
  | _, [] => []
  | steps + 1, c :: rest =>
    if c = ' ' ∨ c = '\t' ∨ c = '\n' then arithmeticTokens steps rest
    else if isNumeral c then
      let t := takeInteger true (c :: rest)
      .number (clamped t.value) :: arithmeticTokens steps t.rest
    else if isNameStart c then
      let name := leadingName (c :: rest)
      .name name :: arithmeticTokens steps ((c :: rest).drop name.length)
    else
      match arithmeticSigns.find? fun s => s.toList.isPrefixOf (c :: rest) with
      | some s => .sign s :: arithmeticTokens steps ((c :: rest).drop s.length)
      | none => [.bad]

/-- Operators with two operands, by how closely they bind. -/
def operatorLevel? (sign : String) : Option Nat :=
  if sign ∈ ["*", "/", "%"] then some 0
  else if sign ∈ ["+", "-"] then some 1
  else if sign ∈ ["<<", ">>"] then some 2
  else if sign ∈ ["<", "<=", ">", ">="] then some 3
  else if sign ∈ ["==", "!="] then some 4
  else if sign = "&" then some 5
  else if sign = "^" then some 6
  else if sign = "|" then some 7
  else none

/-- The operators that an assignment can be joined with. -/
def assigningOperator? (sign : String) : Option (Option String) :=
  if sign = "=" then some none
  else if sign ∈ ["+=", "-=", "*=", "/=", "%=", "&=", "|=", "^="] then some (some (sign.take 1).toString)
  else if sign = "<<=" then some (some "<<")
  else if sign = ">>=" then some (some ">>")
  else none

def ofBool (b : Bool) : Int := if b then 1 else 0

/-- A number as 64 bits. -/
def asBits (n : Int) : UInt64 := UInt64.ofNat (n % 2 ^ 64).toNat

def ofBits (b : UInt64) : Int := wrapped b.toNat

/-- What an operator makes of two numbers. -/
def operate (sign : String) (a b : Int) : Except ArithmeticFlaw Int :=
  match sign with
  | "*" => .ok (wrapped (a * b))
  | "/" =>
    if b = 0 then .error .zeroDivision
    else if a = least ∧ b = -1 then .error .overflow
    else .ok (Int.tdiv a b)
  | "%" =>
    if b = 0 then .error .zeroDivision
    else if a = least ∧ b = -1 then .error .overflow
    else .ok (Int.tmod a b)
  | "+" => .ok (wrapped (a + b))
  | "-" => .ok (wrapped (a - b))
  | "<<" => .ok (wrapped (a * 2 ^ (b % 64).toNat))
  | ">>" => .ok (Int.fdiv a (2 ^ (b % 64).toNat))
  | "<" => .ok (ofBool (a < b))
  | "<=" => .ok (ofBool (a ≤ b))
  | ">" => .ok (ofBool (b < a))
  | ">=" => .ok (ofBool (b ≤ a))
  | "==" => .ok (ofBool (a == b))
  | "!=" => .ok (ofBool (a != b))
  | "&" => .ok (ofBits (asBits a &&& asBits b))
  | "^" => .ok (ofBits (asBits a ^^^ asBits b))
  | _ => .ok (ofBits (asBits a ||| asBits b))

/-- An expression while it is calculated: the tokens left, and the variables set so far. -/
structure Calculation where
  tokens : List ArithmeticToken
  assigned : List (List Char × Int)

/-- A step of a calculation. -/
abbrev Calculating (α : Type) := StateT Calculation (Except ArithmeticFlaw) α

namespace Calculating

def next : Calculating ArithmeticToken := do
  let c ← get
  match c.tokens with
  | t :: rest =>
    set { c with tokens := rest }
    return t
  | [] => return .ended

def peek : Calculating ArithmeticToken := do return ((← get).tokens.head?).getD .ended

/-- The number that a variable holds; one that is not set counts as zero. -/
def lookUp (value? : List Char → Option (List Char)) (name : List Char) : Calculating Int := do
  match (← get).assigned.lookup name with
  | some n => return n
  | none =>
    let text := (value? name).getD []
    match wholeNumber? true text with
    | some n => return n
    | none => throw (.illegal text)

def setTo (name : List Char) (n : Int) : Calculating Int := do
  modify fun c => { c with assigned := (name, n) :: c.assigned }
  return n

/-- An operand with the signs in front of it. The first argument bounds the depth. -/
def operand (value? : List Char → Option (List Char)) (inner : Bool → Calculating Int) (isIdle : Bool) :
    Nat → Calculating Int
  | 0 => throw (.expecting "expecting primary")
  | steps + 1 => do
    match ← next with
    | .number n => return n
    | .name cs => if isIdle then return 0 else lookUp value? cs
    | .sign "(" =>
      let n ← inner isIdle
      if (← next) ≠ .sign ")" then throw (.expecting "expecting ')'")
      return n
    | .sign "+" => operand value? inner isIdle steps
    | .sign "-" => return wrapped (-(← operand value? inner isIdle steps))
    | .sign "!" => return ofBool ((← operand value? inner isIdle steps) == 0)
    | .sign "~" => return -(← operand value? inner isIdle steps) - 1
    | _ => throw (.expecting "expecting primary")

/-- The operator that comes next, with its level. -/
def operator? : Calculating (Option (String × Nat)) := do
  match ← peek with
  | .sign s => return (operatorLevel? s).map fun level => (s, level)
  | _ => return none

/-- Operands joined by operators that bind closer than a level. The first argument bounds their
number. -/
def chain (one : Calculating Int) (isIdle : Bool) : Nat → Int → Nat → Calculating Int
  | 0, a, _ => return a
  | steps + 1, a, limit => do
    match ← operator? with
    | none => return a
    | some (s, level) =>
      if limit ≤ level then return a
      else
        let _ ← next
        let b ← one
        let b ←
          match ← operator? with
          | some (_, closer) => if closer < level then chain one isIdle steps b level else pure b
          | none => pure b
        let a ← if isIdle then pure b else liftM (operate s a b)
        chain one isIdle steps a limit

/-- An expression with assignments. The first argument bounds its depth. -/
def expression (value? : List Char → Option (List Char)) : Nat → Bool → Calculating Int
  | 0, _ => throw (.expecting "expecting primary")
  | depth + 1, isIdle => do
    match (← get).tokens with
    | .name cs :: .sign s :: rest =>
      match assigningOperator? s with
      | none => cond (expression value? depth) depth isIdle
      | some sign? =>
        modify fun c => { c with tokens := rest }
        let n ← expression value? depth isIdle
        if isIdle then return n
        else
          match sign? with
          | none => setTo cs n
          | some sign => setTo cs (← operate sign (← lookUp value? cs) n)
    | _ => cond (expression value? depth) depth isIdle
where
  /-- Operands with operators between them. -/
  joined (inner : Bool → Calculating Int) (bound : Nat) (isIdle : Bool) : Calculating Int := do
    let one := operand value? inner isIdle bound
    chain one isIdle bound (← one) 8
  /-- A conjunction. -/
  conj (inner : Bool → Calculating Int) : Nat → Bool → Calculating Int
    | 0, _ => throw (.expecting "expecting primary")
    | steps + 1, isIdle => do
      let a ← joined inner (steps + 1) isIdle
      if (← peek) = .sign "&&" then
        let _ ← next
        let b ← conj inner steps (isIdle || a == 0)
        return ofBool (a ≠ 0 ∧ b ≠ 0)
      else return a
  /-- A disjunction. -/
  disj (inner : Bool → Calculating Int) : Nat → Bool → Calculating Int
    | 0, _ => throw (.expecting "expecting primary")
    | steps + 1, isIdle => do
      let a ← conj inner (steps + 1) isIdle
      if (← peek) = .sign "||" then
        let _ ← next
        let b ← disj inner steps (isIdle || a != 0)
        return ofBool (a ≠ 0 ∨ b ≠ 0)
      else return a
  /-- A choice between two expressions. -/
  cond (inner : Bool → Calculating Int) : Nat → Bool → Calculating Int
    | 0, _ => throw (.expecting "expecting primary")
    | steps + 1, isIdle => do
      let a ← disj inner (steps + 1) isIdle
      if (← peek) = .sign "?" then
        let _ ← next
        let b ← inner (isIdle || a == 0)
        if (← next) ≠ .sign ":" then throw (.expecting "expecting ':'")
        let c ← cond inner steps (isIdle || a != 0)
        return if a ≠ 0 then b else c
      else return a

end Calculating

/-- The value of an expression, and the variables it sets, in order. -/
def calculate (value? : List Char → Option (List Char)) (text : List Char) :
    Except ArithmeticFlaw (Int × List (List Char × Int)) := do
  let tokens := arithmeticTokens (text.length + 1) text
  let (n, c) ← (Calculating.expression value? (tokens.length + 2) false).run ⟨tokens, []⟩
  if c.tokens.isEmpty then return (n, c.assigned.reverse) else throw (.expecting "expecting EOF")

end SqlTidy.Shell
