import SqlTidy.Calendar
import SqlTidy.Entries
import SqlTidy.Number.Double

/-!
# Values

What a configuration file or a caller can put under a key, before it is checked.
-/

namespace SqlTidy

inductive Value where
  | null
  | bool (b : Bool)
  | int (n : Int)
  | float (x : Double)
  | text (s : String)
  | date (d : Date)
  | time (t : TimeOfDay)
  | moment (m : Moment)
  | list (items : List Value)
  | table (entries : List (String × Value))
deriving Repr, Inhabited

/-- Values by key. -/
abbrev Table := Entries Value

mutual

/-- The value of a later layer over that of an earlier one: tables are joined key by key, anything
else is replaced. -/
def Value.overlay : Value → Value → Value
  | .table base, .table top => .table (overlayEntries base top)
  | _, top => top
termination_by structural _ top => top

/-- Lays entries over earlier ones, one after the other. -/
def overlayEntries (base : List (String × Value)) : List (String × Value) → List (String × Value)
  | [] => base
  | (key, top) :: rest =>
    overlayEntries
      (Entries.put base key
        (match Entries.get? base key with
        | some v => v.overlay top
        | none => top))
      rest
termination_by structural entries => entries

end

end SqlTidy
