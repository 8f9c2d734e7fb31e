import SqlTidy.Text.WordChar
import SqlTidy.Value

/-!
# Environment variables in settings

Texts of a configuration file may name variables, as `$NAME` or in braces. A text falls into segments,
plain characters and references (`segments`), and each reference to a variable that is set is replaced
by its value. What a variable holds is not looked at again.
-/

namespace SqlTidy

/-- The variables of an environment. -/
abbrev Environment := Entries String

/-- A piece of a text with references. -/
inductive Segment where
  | plain (c : Char)
  | reference (name : List Char) (braced : Bool)
deriving DecidableEq, Repr

namespace Segment

/-- The characters that a segment was written with. -/
def source : Segment → List Char
  | .plain c => [c]
  | .reference name false => '$' :: name
  | .reference name true => '$' :: '\x7b' :: name ++ ['\x7d']

/-- The characters that stand for a segment in an environment. -/
def expand (env : Environment) : Segment → List Char
  | .plain c => [c]
  | .reference name braced =>
    match Entries.get? env (String.ofList name) with
    | some v => v.toList
    | none => source (.reference name braced)

end Segment

/-- The reference behind a dollar sign, if there is one, and what follows it. -/
def reference? (cs : List Char) : Option (Segment × List Char) :=
  match cs.takeWhile isWordChar with
  | c :: name => some (.reference (c :: name) false, cs.dropWhile isWordChar)
  | [] =>
    match cs with
    | '\x7b' :: rest =>
      match rest.takeWhile (· != '\x7d'), rest.dropWhile (· != '\x7d') with
      | c :: name, _ :: after => some (.reference (c :: name) true, after)
      | _, _ => none
    | _ => none

theorem length_reference?_le {cs after : List Char} {s : Segment}
    (h : reference? cs = some (s, after)) : after.length ≤ cs.length := by
  unfold reference? at h
  split at h
  · simp only [Option.some.injEq, Prod.mk.injEq] at h
    rw [← h.2]
    exact (List.dropWhile_sublist _).length_le
  · split at h
    · rename_i rest _
      split at h
      · rename_i hd
        simp only [Option.some.injEq, Prod.mk.injEq] at h
        have := (List.dropWhile_sublist (l := rest) (· != '\x7d')).length_le
        rw [hd, h.2] at this
        simp only [List.length_cons] at this ⊢
        omega
      · cases h
    · cases h

/-- The segments of a text, in its order. -/
def segments : List Char → List Segment
  | [] => []
  | '$' :: rest =>
    match _h : reference? rest with
    | some (s, after) => s :: segments after
    | none => .plain '$' :: segments rest
  | c :: rest => .plain c :: segments rest
termination_by cs => cs.length
decreasing_by
  · have := length_reference?_le _h
    simp only [List.length_cons]
    omega
  · simp
  · simp

/-- A text with its references replaced. -/
def expandText (env : Environment) (s : String) : String :=
  String.ofList ((segments s.toList).flatMap (Segment.expand env))

mutual

/-- A value with the references in its texts replaced; keys are left alone. -/
def Value.expand (env : Environment) : Value → Value
  | .text s => .text (expandText env s)
  | .list items => .list (expandItems env items)
  | .table entries => .table (expandEntries env entries)
  | .null => .null
  | .bool b => .bool b
  | .int n => .int n
  | .float x => .float x
  | .date d => .date d
  | .time t => .time t
  | .moment m => .moment m
termination_by structural v => v

def expandItems (env : Environment) : List Value → List Value
  | [] => []
  | v :: rest => v.expand env :: expandItems env rest
termination_by structural items => items

def expandEntries (env : Environment) : List (String × Value) → List (String × Value)
  | [] => []
  | (key, v) :: rest => (key, v.expand env) :: expandEntries env rest
termination_by structural entries => entries

end

end SqlTidy
