/-!
# Paths

A path is the slashes it starts with and the names between its slashes. Empty names and single dots
say nothing and are left out; two dots are kept, since what they lead to depends on the tree. Two
slashes at the start are kept apart from one, three or more are one.
-/

namespace SqlTidy

/-- What a path starts from. -/
inductive Anchor where
  | here
  | root
  | doubleRoot
deriving DecidableEq, Repr

def Anchor.text : Anchor → String
  | .here => ""
  | .root => "/"
  | .doubleRoot => "//"

structure Path where
  anchor : Anchor
  parts : List String
deriving DecidableEq, Repr

/-- The pieces of a text between its slashes. -/
def splitSlashes : List Char → List (List Char)
  | [] => [[]]
  | '/' :: rest => [] :: splitSlashes rest
  | c :: rest =>
    match splitSlashes rest with
    | first :: more => (c :: first) :: more
    | [] => [[c]]

/-- Holds for a text that cannot be handed to the system, which takes NUL for the end of a text. -/
def hasNul (s : String) : Bool := s.toList.contains '\x00'

/-- The names in a text that say something. -/
def pathNames (s : String) : List String :=
  ((splitSlashes s.toList).map String.ofList).filter fun name => name ≠ "" ∧ name ≠ "."

namespace Path

def ofText (s : String) : Path where
  anchor :=
    match s.toList with
    | '/' :: '/' :: '/' :: _ => .root
    | '/' :: '/' :: _ => .doubleRoot
    | '/' :: _ => .root
    | _ => .here
  parts := pathNames s

def text (p : Path) : String :=
  match p.anchor, p.parts with
  | .here, [] => "."
  | anchor, parts => anchor.text ++ String.intercalate "/" parts

instance : ToString Path := ⟨text⟩

def isAbsolute (p : Path) : Bool := p.anchor != .here

/-- A path seen from another: an absolute one stands for itself. -/
def join (p q : Path) : Path :=
  if q.isAbsolute then q else ⟨p.anchor, p.parts ++ q.parts⟩

instance : HDiv Path String Path := ⟨fun p s => p.join (ofText s)⟩

theorem div_of_absolute (p : Path) {name : String} (h : (ofText name).isAbsolute = true) :
    (p / name : Path) = ofText name := if_pos h

theorem div_of_relative (p : Path) {name : String} (h : (ofText name).isAbsolute = false) :
    (p / name : Path) = ⟨p.anchor, p.parts ++ (ofText name).parts⟩ := by
  change p.join (ofText name) = _
  simp [join, h]

/-- A path without double dots, as far as names before them can be dropped. -/
def normal (p : Path) : Path :=
  { p with parts := (p.parts.foldl step []).reverse }
where
  /-- Adds one name to those before it, given innermost first. -/
  step : List String → String → List String
    | above, name =>
      if name ≠ ".." then name :: above
      else
        match above with
        | [] => if p.isAbsolute then [] else [".."]
        | last :: rest => if last = ".." then ".." :: above else rest

def parent (p : Path) : Path := ⟨p.anchor, p.parts.dropLast⟩

end Path

end SqlTidy
