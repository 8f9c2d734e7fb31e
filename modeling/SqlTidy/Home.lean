import SqlTidy.Crash
import SqlTidy.Settings.Expand

/-!
# Home directories

A path may start with a tilde, for the home directory of the user, or with a tilde and a name, for
that of another user.
-/

namespace SqlTidy

/-- What is known about home directories: the user's own, and those of all accounts. -/
structure Homes where
  own : String
  accounts : Entries String

/-- A directory without slashes at its end; only slashes are the root. -/
def trimSlashes (s : String) : String :=
  let cs := (s.toList.reverse.dropWhile (· == '/')).reverse
  if cs.isEmpty then "/" else String.ofList cs

/-- The home directory that a name with a tilde stands for. -/
def Homes.lookup (h : Homes) (name : String) : Option String :=
  (if name = "~" then some h.own
    else Entries.get? h.accounts (String.ofList (name.toList.drop 1))).map trimSlashes

/-- A path with the tilde at its start replaced. -/
def Homes.expand (h : Homes) (p : Path) : Except Crash Path :=
  match p.anchor, p.parts with
  | .here, name :: rest =>
    if name.toList.head? ≠ some '~' then .ok p
    else if hasNul name then .error .nul
    else
      match h.lookup name with
      | none => .error .noHome
      | some home =>
        if home.toList.head? = some '~' then .error .noHome
        else .ok ((Path.ofText home).join ⟨.here, rest⟩)
  | _, _ => .ok p

end SqlTidy
