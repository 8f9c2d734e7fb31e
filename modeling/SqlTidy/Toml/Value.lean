import SqlTidy.Toml.Scalars
import SqlTidy.Toml.Strings

/-!
# TOML values

Keys, and the values behind them: strings, switches, arrays, tables in braces, numbers, dates. Arrays
and tables nest, so their scanners call one another; the first argument of each bounds the nesting,
and twice the length of the text is always enough.
-/

namespace SqlTidy.Toml

def isBareKeyChar (c : Char) : Bool :=
  ('a' ≤ c && c ≤ 'z') || ('A' ≤ c && c ≤ 'Z') || ('0' ≤ c && c ≤ '9') || c == '-' || c == '_'

/-- One part of a key: bare or quoted. -/
def keyPart (cs : List Char) : Except Stop (String × List Char) :=
  match cs with
  | '\'' :: rest => literalString rest
  | '"' :: rest => lineString rest
  | c :: _ =>
    if isBareKeyChar c then .ok (String.ofList (cs.takeWhile isBareKeyChar), cs.dropWhile isBareKeyChar)
    else .error (.flaw .keyStart cs)
  | [] => .error (.flaw .keyStart [])

/-- The parts of a key after the first; the first argument bounds their number. -/
def keyParts : Nat → Key → List Char → Except Stop (Key × List Char)
  | steps + 1, parts, '.' :: rest => do
    let (part, after) ← keyPart (skipSpace rest)
    keyParts steps (part :: parts) (skipSpace after)
  | _, parts, cs => .ok (parts.reverse, cs)

/-- A key and the blanks after it. -/
def key (cs : List Char) : Except Stop (Key × List Char) := do
  let (part, after) ← keyPart cs
  keyParts cs.length [part] (skipSpace after)

/-- Passes over blanks, line feeds and comments; the first argument bounds the number of comments. -/
def skipBetween : Nat → List Char → Except Stop (List Char)
  | 0, cs => .ok cs
  | steps + 1, cs => do
    match cs.dropWhile isTomlSpaceOrNewline with
    | '#' :: rest => skipBetween steps (← skipComment ('#' :: rest))
    | after => .ok after

/-- Blanks, line feeds and comments between the items of an array. -/
def skipArraySpace (cs : List Char) : Except Stop (List Char) := skipBetween (cs.length + 1) cs

/-- Reaches the table under a key, creating it on the way, and changes it there. Where an array of
tables is met, its last table is meant if `intoLists` says so. -/
def updateNest (intoLists : Bool) (f : Table → Except Flaw Table) :
    Key → Table → Except Flaw Table
  | [], t => f t
  | k :: ks, t =>
    match Entries.get? t k with
    | none => (updateNest intoLists f ks []).map fun inner => Entries.put t k (.table inner)
    | some (.table inner) =>
      (updateNest intoLists f ks inner).map fun inner => Entries.put t k (.table inner)
    | some (.list items) =>
      match intoLists, items.getLast? with
      | true, some (.table inner) =>
        (updateNest intoLists f ks inner).map fun inner =>
          Entries.put t k (.list (items.dropLast ++ [.table inner]))
      | _, _ => .error .overwritten
    | some _ => .error .overwritten

/-- A table in braces in the making, with the keys whose values may not be extended. -/
structure InlineTable where
  table : Table
  frozen : List Key

def isContainer : Value → Bool
  | .list _ => true
  | .table _ => true
  | _ => false

/-- Takes one entry into a table in braces. -/
def InlineTable.add (t : InlineTable) (k : Key) (v : Value) : Except Flaw InlineTable := do
  if t.frozen.any (·.isPrefixOf k) then .error (.immutable k)
  else
    let stem := k.getLastD ""
    let table ← updateNest false
      (fun nest =>
        if (Entries.get? nest stem).isSome then .error (.duplicateKey stem)
        else .ok (Entries.put nest stem v))
      k.dropLast t.table
    return ⟨table, if isContainer v then k :: t.frozen else t.frozen⟩

/-- A flaw in front of `rest`. -/
def flawAt {α : Type} (rest : List Char) (x : Except Flaw α) : Except Stop α :=
  x.mapError fun flaw => .flaw flaw rest

mutual

/-- A value. -/
def value : Nat → Scan Value
  | 0, cs => .error (.flaw .invalidValue cs)
  | depth + 1, cs =>
    match cs with
    | '"' :: '"' :: '"' :: rest => (linesString rest).map fun (s, after) => (.text s, after)
    | '"' :: rest => (lineString rest).map fun (s, after) => (.text s, after)
    | '\'' :: '\'' :: '\'' :: rest => (literalLines rest).map fun (s, after) => (.text s, after)
    | '\'' :: rest => (literalString rest).map fun (s, after) => (.text s, after)
    | 't' :: 'r' :: 'u' :: 'e' :: rest => .ok (.bool true, rest)
    | 'f' :: 'a' :: 'l' :: 's' :: 'e' :: rest => .ok (.bool false, rest)
    | '[' :: rest => do
      match ← skipArraySpace rest with
      | ']' :: after => return (.list [], after)
      | items => arrayItems depth [] items
    | '{' :: rest =>
      match skipSpace rest with
      | '}' :: after => .ok (.table [], after)
      | entries => inlineEntries depth ⟨[], []⟩ entries
    | cs => scalar cs

/-- The items of an array from the next one on; those before it are given last first. -/
def arrayItems : Nat → List Value → Scan Value
  | 0, _, cs => .error (.flaw .unclosedArray cs)
  | depth + 1, items, cs => do
    let (v, after) ← value depth cs
    match ← skipArraySpace after with
    | ']' :: after => return (.list (v :: items).reverse, after)
    | ',' :: more =>
      match ← skipArraySpace more with
      | ']' :: after => return (.list (v :: items).reverse, after)
      | next => arrayItems depth (v :: items) next
    | other => .error (.flaw .unclosedArray other)

/-- The entries of a table in braces from the next one on. -/
def inlineEntries : Nat → InlineTable → Scan Value
  | 0, _, cs => .error (.flaw .unclosedInlineTable cs)
  | depth + 1, t, cs => do
    let (k, after) ← key cs
    match after with
    | '=' :: rest =>
      let (v, after) ← value depth (skipSpace rest)
      let t ← flawAt after (t.add k v)
      match skipSpace after with
      | '}' :: after => return (.table t.table, after)
      | ',' :: more => inlineEntries depth t (skipSpace more)
      | other => .error (.flaw .unclosedInlineTable other)
    | other => .error (.flaw .expectedEquals other)

end

/-- A key, an equals sign and a value. -/
def keyValue (cs : List Char) : Except Stop ((Key × Value) × List Char) := do
  let (k, after) ← key cs
  match after with
  | '=' :: rest =>
    let rest := skipSpace rest
    let (v, after) ← value (2 * rest.length + 1) rest
    return ((k, v), after)
  | other => .error (.flaw .expectedEquals other)

end SqlTidy.Toml
