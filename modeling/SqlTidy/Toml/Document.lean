import SqlTidy.Text.Utf8
import SqlTidy.Toml.Value

/-!
# TOML documents

A document is a sequence of statements: entries, headers that open a table, headers that append a
table to an array. What has been declared may not be declared again, and values written out in full
may not be extended; `Draft` keeps both in mind.
-/

namespace SqlTidy.Toml

/-- A document in the making. -/
structure Draft where
  table : Table
  /-- The table that entries go into. -/
  header : Key
  /-- The values written out in full, which cannot be extended. -/
  frozen : List Key
  /-- The tables that have been declared. -/
  declared : List Key
  /-- Tables that count as declared from the next header on. -/
  pending : List Key

namespace Draft

def empty : Draft := ⟨[], [], [], [], []⟩

def isFrozen (d : Draft) (k : Key) : Bool := d.frozen.any (·.isPrefixOf k)

/-- The tables that dotted keys have opened count as declared now. -/
def settle (d : Draft) : Draft := { d with declared := d.pending ++ d.declared, pending := [] }

/-- Opens the table with a given header. -/
def openTable (d : Draft) (k : Key) : Except Flaw Draft := do
  if d.declared.contains k || d.isFrozen k then .error (.declaredTwice k)
  else
    let table ← updateNest true .ok k d.table
    return { d with table, header := k, declared := k :: d.declared }

/-- Appends a table to the array under a key. -/
def appendItem (name : String) (nest : Table) : Except Flaw Table :=
  match Entries.get? nest name with
  | none => .ok (Entries.put nest name (.list [.table []]))
  | some (.list items) => .ok (Entries.put nest name (.list (items ++ [.table []])))
  | some _ => .error .overwritten

/-- Opens a new table at the end of an array of tables; what was declared below it is free again. -/
def openItem (d : Draft) (k : Key) : Except Flaw Draft := do
  if d.isFrozen k then .error (.immutable k)
  else
    let table ← updateNest true (appendItem (k.getLastD "")) k.dropLast d.table
    return { d with
      table, header := k
      frozen := d.frozen.filter fun f => !k.isPrefixOf f
      declared := k :: d.declared.filter fun f => !k.isPrefixOf f }

/-- The tables that a dotted key passes through, outermost first. -/
def passedTables (header k : Key) : List Key :=
  (List.range (k.length - 1)).map fun i => header ++ k.take (i + 1)

/-- Takes in an entry under the current header. -/
def add (d : Draft) (k : Key) (v : Value) : Except Flaw Draft := do
  let passed := passedTables d.header k
  match passed.find? d.declared.contains with
  | some k => .error (.redefined k)
  | none =>
    let parent := d.header ++ k.dropLast
    if parent ≠ [] ∧ d.isFrozen parent then .error (.immutable parent)
    else
      let stem := k.getLastD ""
      let table ← updateNest true
        (fun nest =>
          if (Entries.get? nest stem).isSome then .error .overwritten
          else .ok (Entries.put nest stem v))
        parent d.table
      return { d with
        table
        pending := d.pending ++ passed
        frozen := if isContainer v then (d.header ++ k) :: d.frozen else d.frozen }

end Draft

/-- One statement: an entry or a header. -/
def statement (d : Draft) (cs : List Char) : Except Stop (Draft × List Char) :=
  match cs with
  | '[' :: '[' :: rest => do
    let (k, after) ← key (skipSpace rest)
    let d ← flawAt after (d.settle.openItem k)
    match after with
    | ']' :: ']' :: after => return (d, skipSpace after)
    | _ => .error (.flaw .expectedArrayEnd after)
  | '[' :: rest => do
    let (k, after) ← key (skipSpace rest)
    let d ← flawAt after (d.settle.openTable k)
    match after with
    | ']' :: after => return (d, skipSpace after)
    | _ => .error (.flaw .expectedTableEnd after)
  | c :: _ =>
    if isBareKeyChar c || c == '"' || c == '\'' then do
      let ((k, v), after) ← keyValue cs
      let d ← flawAt after (d.add k v)
      return (d, skipSpace after)
    else if c = '#' then .ok (d, cs)
    else .error (.flaw .invalidStatement cs)
  | [] => .ok (d, [])

/-- All statements from here on; the first argument bounds the number of lines. -/
def statements : Nat → Draft → List Char → Except Stop Draft
  | 0, d, _ => .ok d
  | steps + 1, d, cs =>
    match skipSpace cs with
    | [] => .ok d
    | '\n' :: rest => statements steps d rest
    | cs => do
      let (d, after) ← statement d cs
      match ← skipComment after with
      | [] => return d
      | '\n' :: rest => statements steps d rest
      | other => .error (.flaw .expectedNewline other)

/-- Line feeds for carriage returns that stand before one. -/
def unifyLineFeeds : List Char → List Char
  | '\r' :: '\n' :: rest => '\n' :: unifyLineFeeds rest
  | c :: rest => c :: unifyLineFeeds rest
  | [] => []

/-- The table that a document writes. -/
def parse (document : String) : Except Error Table :=
  let cs := unifyLineFeeds document.toList
  match statements (cs.length + 1) .empty cs with
  | .ok d => .ok d.table
  | .error stop => .error (stop.inDocument cs)

end SqlTidy.Toml
