import SqlTidy.Value
import SqlTidy.Text.Blank
import SqlTidy.Number.Limit

/-!
# Checked fields

A record is built from a table by reading each of its fields. A field that does not fit is reported
with its place and its fault, and all faults of a record are reported together (`Checked`): those of
the fields in the order of the record, then those of the record as a whole.

Readers are lenient where no information is lost: a number may be written as text, a switch as a
word or as 0 or 1.
-/

namespace SqlTidy

/-- Why a value does not fit a field. -/
inductive Fault where
  | missing
  | extra
  | intType
  | intParsing
  | intFraction
  | intSize
  | notFinite
  | notAbove (bound : Int)
  | below (bound : Int)
  | above (bound : Int)
  | boolType
  | boolParsing
  | textType
  | tableType
  | pathType
  | severityName
  | refused (reason : String)
  | frozen
  | noAttribute (name : String)
deriving DecidableEq, Repr

namespace Fault

/-- The short name of a fault. -/
def kind : Fault → String
  | .missing => "missing"
  | .extra => "extra_forbidden"
  | .intType => "int_type"
  | .intParsing => "int_parsing"
  | .intFraction => "int_from_float"
  | .intSize => "int_parsing_size"
  | .notFinite => "finite_number"
  | .notAbove _ => "greater_than"
  | .below _ => "greater_than_equal"
  | .above _ => "less_than_equal"
  | .boolType => "bool_type"
  | .boolParsing => "bool_parsing"
  | .textType => "string_type"
  | .tableType => "dict_type"
  | .pathType => "path_type"
  | .severityName => "enum"
  | .refused _ => "value_error"
  | .frozen => "frozen_instance"
  | .noAttribute _ => "no_such_attribute"

def message : Fault → String
  | .missing => "Field required"
  | .extra => "Extra inputs are not permitted"
  | .intType => "Input should be a valid integer"
  | .intParsing => "Input should be a valid integer, unable to parse string as an integer"
  | .intFraction => "Input should be a valid integer, got a number with a fractional part"
  | .intSize => "Unable to parse input string as an integer, exceeded maximum size"
  | .notFinite => "Input should be a finite number"
  | .notAbove bound => "Input should be greater than " ++ toString bound
  | .below bound => "Input should be greater than or equal to " ++ toString bound
  | .above bound => "Input should be less than or equal to " ++ toString bound
  | .boolType => "Input should be a valid boolean"
  | .boolParsing => "Input should be a valid boolean, unable to interpret input"
  | .textType => "Input should be a valid string"
  | .tableType => "Input should be a valid dictionary"
  | .pathType => "Input is not a valid path for <class 'pathlib.Path'>"
  | .severityName => "Input should be 'error', 'warning' or 'info'"
  | .refused reason => "Value error, " ++ reason
  | .frozen => "Instance is frozen"
  | .noAttribute name => "Object has no attribute '" ++ name ++ "'"

end Fault

/-- A fault and where it is: the keys that lead to the value, outermost first. -/
structure FieldError where
  place : List String
  fault : Fault
deriving DecidableEq, Repr

/-- A record or all that is wrong with the table it was read from. -/
abbrev Checked (α : Type) := Except (List FieldError) α

namespace Checked

variable {α β : Type}

/-- Supplies one more field; the faults of both sides are kept. -/
def app (f : Checked (α → β)) (x : Checked α) : Checked β :=
  match f, x with
  | .ok f, .ok x => .ok (f x)
  | .ok _, .error es => .error es
  | .error es, .ok _ => .error es
  | .error es, .error fs => .error (es ++ fs)

/-- Adds faults that concern no single field. -/
def also (x : Checked α) (more : List FieldError) : Checked α :=
  match x, more with
  | .ok x, [] => .ok x
  | .ok _, more => .error more
  | .error es, more => .error (es ++ more)

end Checked

/-- Reads a value or says what is wrong with it. -/
abbrev Reader (α : Type) := Value → Except (List FieldError) α

namespace Reader

variable {α : Type}

/-- A reader whose only complaint is about the value as a whole. -/
def ofFault (read : Value → Except Fault α) : Reader α := fun v =>
  (read v).mapError fun fault => [⟨[], fault⟩]

end Reader

/-- Faults inside a field, placed under its name. -/
def within (name : String) (es : List FieldError) : List FieldError :=
  es.map fun e => ⟨name :: e.place, e.fault⟩

/-- The field `name` of a table, or its default. -/
def field {α : Type} (t : Table) (name : String) (read : Reader α) (default : α) : Checked α :=
  match Entries.get? t name with
  | some v => (read v).mapError (within name)
  | none => .ok default

/-- The field `name` of a table, which has to be there. -/
def requiredField {α : Type} (t : Table) (name : String) (read : Reader α) : Checked α :=
  match Entries.get? t name with
  | some v => (read v).mapError (within name)
  | none => .error [⟨[name], .missing⟩]

/-- The keys of a table that are no fields. -/
def extraFields (t : Table) (fields : List String) : List FieldError :=
  (Entries.names t).filterMap fun name => if name ∈ fields then none else some ⟨[name], .extra⟩

/-- Why a field was not given a value: the value is refused, or there is only a view of that name. -/
inductive AssignError where
  | invalid (errors : List FieldError)
  | readOnly (record name : String)

def AssignError.message : AssignError → String
  | .invalid _ => ""
  | .readOnly record name => "property '" ++ name ++ "' of '" ++ record ++ "' object has no setter"

/-- A name with an underscore in front is no field. Anything may be noted under it, on every record, and
no field changes. -/
def isNoteName (name : String) : Bool := name.toList.head? == some '_'

/-- A note on a record. The name of the one view with such a name cannot be taken. -/
def assignNote (record name : String) : Except AssignError Unit :=
  if name = "__fields_set__" then .error (.readOnly record name) else .ok ()

/-- Records of other kinds than settings cannot be changed, whatever the field. -/
def assignFrozen (record name : String) : Except AssignError Unit :=
  if isNoteName name then assignNote record name else .error (.invalid [⟨[name], .frozen⟩])

end SqlTidy
