/-!
# Named entries

Entries by name, in the order in which the names first came. Giving a name a new value leaves it at
its place.
-/

namespace SqlTidy

abbrev Entries (α : Type) := List (String × α)

namespace Entries

variable {α : Type}

def get? (es : Entries α) (name : String) : Option α := es.lookup name

def names (es : Entries α) : List String := es.map (·.1)

/-- Gives a name a value. -/
def put : Entries α → String → α → Entries α
  | [], name, v => [(name, v)]
  | (n, w) :: rest, name, v => if n = name then (n, v) :: rest else (n, w) :: put rest name v

/-- Gives several names their values, one after the other. -/
def putAll (es : Entries α) (new : List (String × α)) : Entries α :=
  new.foldl (fun es e => put es e.1 e.2) es

/-- The entries that a list of pairs describes, later pairs over earlier ones. -/
def ofList (pairs : List (String × α)) : Entries α := putAll [] pairs

/-- Gives a name a value unless it has one. -/
def putNew (es : Entries α) (name : String) (v : α) : Entries α :=
  if (get? es name).isSome then es else put es name v

end Entries

end SqlTidy
