import SqlTidy.Shell.Expand
import SqlTidy.Shell.Test

/-!
# Redirections

All targets are expanded before the first file is opened. The descriptors that a command changes lead
back to where they led before when it is done.
-/

namespace SqlTidy.Shell

/-- A redirection with its target expanded. -/
structure Directed where
  descriptor : Nat
  kind : RedirectKind
  target : List Char

/-- Where a descriptor leads: to an open file, or nowhere. -/
abbrev Lead := Nat × Option Nat

/-- Makes a descriptor lead somewhere. -/
def State.lead (s : State) (lead : Lead) : State :=
  let others := s.descriptors.filter fun d => d.1 ≠ lead.1
  { s with descriptors := (lead.2.map fun number => (lead.1, number)).toList ++ others }

/-- How a failure to create a file is put. -/
def creationText (cause : Cause) : String :=
  if cause = .noEntry ∨ cause = .notDirectory then "Directory nonexistent" else cause.text

/-- How a failure to open a file is put. -/
def openingText (cause : Cause) : String :=
  if cause = .noEntry ∨ cause = .notDirectory then "No such file" else cause.text

namespace Directed

/-- Expands the targets of redirections. -/
def ofAll (e : Expander) : List Redirect → Run (List Directed)
  | [] => return []
  | .mk descriptor kind word :: rest => do
    let target ← e.text { startsHome := true } word
    let isDescriptor :=
      match target with
      | [c] => isNumeral c || c == '-'
      | _ => false
    if kind = .copied && !isDescriptor then
      Run.atLine (← get).sourceLine
      Run.stop ("Syntax error: ".toList ++ Flaw.descriptor.text.toList)
    return ⟨descriptor, kind, target⟩ :: (← ofAll e rest)

/-- Opens a file for a descriptor. -/
def openFor (r : Directed) (access : Access) (verb : String) (text : Cause → String) : Run Unit := do
  let s ← get
  match s.system.openPath s.descriptors (toText r.target) access with
  | .ok (system, number) => set ({ s with system }.lead (r.descriptor, some number))
  | .error cause => Run.stop (verb.toList ++ r.target ++ ": ".toList ++ ofText (text cause))

def create (r : Directed) (access : Access) : Run Unit :=
  if access.creates then r.openFor access "cannot create " creationText
  else r.openFor access "cannot open " openingText

/-- The access to a file that must not be overwritten. -/
def carefulAccess (s : State) (path : String) : Access :=
  match s.kindOf? path with
  | none => .fresh
  | some (.file _ _ _) => .fresh
  | some _ => { Access.writing with creates := false, empties := false }

/-- Makes one redirection. -/
def apply (e : Expander) (r : Directed) : Run Unit := do
  let s ← get
  match r.kind with
  | .toFile => r.create (if s.has 'C' then carefulAccess s (toText r.target) else .writing)
  | .overwriting => r.create .writing
  | .appending => r.create .appending
  | .toAndFrom => r.create .both
  | .fromFile => r.openFor .reading "cannot open " openingText
  | .document number expands =>
    let word := (s.documents.lookup number).getD []
    let text ←
      if expands then e.text { isQuoted := true } word
      else pure (word.filterMap fun
        | .char c _ => some c
        | _ => none)
    let s ← get
    let (system, reading, _) := s.system.addPipe (toOctets text)
    set ({ s with system }.lead (r.descriptor, some reading))
  | .copied =>
    if r.target = ['-'] then set (s.lead (r.descriptor, none))
    else
      let other := (takeInteger false r.target).value.toNat
      match s.descriptors.lookup other with
      | some number => set (s.lead (r.descriptor, some number))
      | none =>
        if other = r.descriptor then pure ()
        else Run.stop (decimalText other ++ ": ".toList ++ ofText Cause.badDescriptor.text)

/-- Where the descriptors of redirections lead now. -/
def leads (s : State) (rs : List Directed) : List Lead :=
  (rs.map (·.descriptor)).eraseDups.map fun d => (d, s.descriptors.lookup d)

end Directed

/-- Makes descriptors lead where they led. -/
def State.leadBack (s : State) (leads : List Lead) : State := leads.foldl State.lead s

end SqlTidy.Shell
