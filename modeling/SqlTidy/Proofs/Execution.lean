import SqlTidy.Proofs.Descent
import SqlTidy.Proofs.Spawning
import SqlTidy.Proofs.WriteBack
import SqlTidy.Shell.Programs

/-!
# The file that is executed

A program is looked for from the current directory, but started from the directory of the child, and the text that
was found is read again there. An absolute text leads to the same file from everywhere (`find_of_rooted`). A relative
one with a slash is executed as it reads from the directory of the child. A bare name comes only of an empty entry of
the search path; it is searched for once more, along the search path of the child.
-/

namespace SqlTidy

namespace FileTree

variable {t inside : FileTree} {directory : Option Path} {path : String} {p : Position}

/-- The position that a path leads to from a directory. -/
def leadsFrom (t : FileTree) (directory : Option Path) (path : String) : Except Cause Position := do
  return (← (← enter t directory).find path).1

theorem at?_here (t : FileTree) (here q : Position) : FileTree.at? { t with here } q = t.at? q := by
  cases q <;> rfl

theorem walkWith_here (onLink : Position → List String → Except Cause Spot) (t : FileTree) (here : Position)
    (follow : Bool) (d : Position) (names : List String) :
    walkWith onLink { t with here } follow d names = walkWith onLink t follow d names := by
  induction names generalizing d with
  | nil => rfl
  | cons name rest ih => simp only [walkWith, at?_here, ih]

/-- A walk does not ask where relative paths start from. -/
theorem walkFrom_here (t : FileTree) (here : Position) (follow : Bool) (links : Nat) :
    walkFrom { t with here } follow links = walkFrom t follow links := by
  induction links with
  | zero => exact funext fun d => funext (walkWith_here _ t here follow d)
  | succ links ih =>
    rw [walkFrom, walkFrom, ih]
    exact funext fun d => funext (walkWith_here _ t here follow d)

theorem find_of_rooted (h : isRooted path = true) (t : FileTree) (here : Position) :
    FileTree.find { t with here } path = t.find path := by
  simp only [find, walk, startOf, h, if_true, walkFrom_here]

theorem enter_eq_ok (h : enter t directory = .ok inside) : ∃ here, inside = { t with here } := by
  cases directory with
  | none =>
    cases h
    exact ⟨t.here, rfl⟩
  | some d =>
    obtain ⟨⟨position, entry⟩, -, h⟩ := bind_eq_ok_iff.1 h
    split at h
    · cases h
      exact ⟨_, rfl⟩
    · cases h

theorem leadsFrom_eq_ok_iff : t.leadsFrom directory path = .ok p ↔
    ∃ inside e, enter t directory = .ok inside ∧ inside.find path = .ok (p, e) := by
  simp only [leadsFrom, bind_eq_ok_iff]
  constructor
  · rintro ⟨inside, hinside, ⟨q, e⟩, hfind, hq⟩
    cases hq
    exact ⟨inside, e, hinside, hfind⟩
  · rintro ⟨inside, e, hinside, hfind⟩
    exact ⟨inside, hinside, (p, e), hfind, rfl⟩

/-- An absolute path leads to the same position from every directory. -/
theorem leadsFrom_unique {directory' : Option Path} {q : Position} (h : isRooted path = true)
    (hp : t.leadsFrom directory path = .ok p) (hq : t.leadsFrom directory' path = .ok q) : p = q := by
  obtain ⟨inside, e, hinside, hfind⟩ := leadsFrom_eq_ok_iff.1 hp
  obtain ⟨inside', e', hinside', hfind'⟩ := leadsFrom_eq_ok_iff.1 hq
  obtain ⟨here, rfl⟩ := enter_eq_ok hinside
  obtain ⟨here', rfl⟩ := enter_eq_ok hinside'
  rw [find_of_rooted h] at hfind hfind'
  cases hfind.symm.trans hfind'
  rfl

end FileTree

/-! ## Names of programs -/

section Names

variable {t : FileTree} {env : Entries String} {name directory file : String}

theorem hasSlash_of_rooted (h : isRooted name = true) : hasSlash name = true := by
  obtain ⟨rest, hrest⟩ := List.head?_eq_some_iff.1 (beq_iff_eq.1 h)
  simp [hasSlash, hrest]

theorem isRooted_inDirectory (h : isRooted directory = true) (name : String) :
    isRooted (inDirectory directory name) = true := by
  obtain ⟨rest, hrest⟩ := List.head?_eq_some_iff.1 (beq_iff_eq.1 h)
  rw [inDirectory]
  split <;> simp [isRooted, hrest]

theorem inDirectory_empty (name : String) : inDirectory "" name = name := by simp [inDirectory]

/-- Only in no directory at all a name stays bare. -/
theorem eq_empty_of_inDirectory (h : hasSlash (inDirectory directory name) = false) : directory = "" := by
  rw [inDirectory] at h
  split at h
  · next hd =>
    rcases hd with hd | hd
    · exact hd
    · have hmem := List.mem_of_getLast? hd
      simp [hasSlash, hmem] at h
  · simp [hasSlash] at h

theorem findProgram_eq_some (h : findProgram t env name = some file) :
    isStartable t file = true ∧ (hasSlash name = true ∧ file = name ∨
      hasSlash name = false ∧ ∃ before directory after,
        searchDirectories (searchPath env) = before ++ directory :: after ∧ file = inDirectory directory name ∧
        ∀ d ∈ before, isStartable t (inDirectory d name) = false) := by
  rw [findProgram] at h
  split at h
  · next hslash =>
    split at h
    · next hstart =>
      cases h
      exact ⟨hstart, .inl ⟨hslash, rfl⟩⟩
    · cases h
  · next hslash =>
    split at h
    · cases h
    · rw [List.find?_map] at h
      obtain ⟨d, hd, rfl⟩ := Option.map_eq_some_iff.1 h
      obtain ⟨hstart, before, after, hdirs, hbefore⟩ := List.find?_eq_some_iff_append.1 hd
      exact ⟨hstart, .inr ⟨by simpa using hslash, before, d, after, hdirs, rfl, by simpa using hbefore⟩⟩

theorem candidates_of_slash (h : hasSlash name = true) : candidates env name = [name] := if_pos h

theorem candidates_of_bare (h : hasSlash name = false) :
    candidates env name = (searchDirectories (searchPath env)).map (inDirectory · name) := by
  simp [candidates, h]

end Names

/-! ## Starts -/

/-- What is started is a file that may be executed. -/
theorem exists_file_of_start {programs : Programs} {path : String} {p : Process} {ended : Ended}
    (h : start programs path p = .ok ended) :
    ∃ position content mode, p.tree.find path = .ok (position, .file content mode) ∧
      isStartable p.tree path = true := by
  obtain ⟨⟨position, arguments⟩, himage, -⟩ := bind_eq_ok_iff.1 h
  rw [interpreterLimit, imageOf] at himage
  obtain ⟨⟨found, entry⟩, hfind, himage⟩ := bind_eq_ok_iff.1 himage
  split at himage
  · next content mode heq =>
    cases heq
    refine ⟨found, content, mode, hfind, ?_⟩
    simp only [isStartable, hfind]
    split at himage
    · cases himage
    · next hmode => simpa using hmode
  · cases himage

namespace Launch

/-- The file that a launch executes, and how it ends. Of the files that the name can stand for it is the first that
can be started, seen from the directory of the launch. -/
inductive Executes (l : Launch) (name : String) (arguments : List String) (input : Octets) (t : FileTree) :
    Position → Ended → Prop
  | intro {inside : FileTree} {before after : List String} {path : String} {position : Position} {ended : Ended} :
      l.obstacle? name arguments = none → enter t l.directory = .ok inside →
      candidates l.environment name = before ++ path :: after →
      (∀ x ∈ before, ∃ cause, start l.programs x (l.asked name arguments input inside) = .error cause) →
      start l.programs path (l.asked name arguments input inside) = .ok ended →
      t.leadsFrom l.directory path = .ok position → Executes l name arguments input t position ended

variable {l : Launch} {name : String} {arguments : List String} {input : Octets} {t : FileTree} {ended : Ended}

theorem exists_executes (h : l.run name arguments input t = .ok ended) : ∃ position ended',
    l.Executes name arguments input t position ended' ∧
      ended = { ended' with tree := { ended'.tree with here := t.here } } := by
  obtain ⟨child, q, ⟨hfree, henter, hpaths, hbefore, hstarts⟩, rfl⟩ := run_eq_ok_iff.1 h
  have hstart := start_eq_ok_iff.2 ⟨child, q, hstarts, rfl⟩
  obtain ⟨position, content, mode, hfind, -⟩ := exists_file_of_start hstart
  exact ⟨position, child q, ⟨hfree, henter, hpaths, hbefore, hstart,
    FileTree.leadsFrom_eq_ok_iff.2 ⟨_, _, henter, hfind⟩⟩, rfl⟩

end Launch

/-! ## Programs that are found -/

namespace Invoker

variable {i : Invoker} {executable file text : String} {arguments : List String} {t t₁ : FileTree} {r : RunResult}
  {found executed : Position} {ended : Ended}

theorem resolve_cases (h : i.resolve t executable = some file) :
    ((Path.ofText executable).isAbsolute = true ∧ isRooted file = true) ∨
      ((Path.ofText executable).isAbsolute = false ∧ findProgram t i.current executable = some file) := by
  rw [resolve] at h
  cases habsolute : (Path.ofText executable).isAbsolute with
  | true =>
    rw [if_pos habsolute] at h
    cases h
    exact .inl ⟨rfl, (Path.proper_ofText executable).isRooted_text.trans habsolute⟩
  | false =>
    rw [if_neg (by simp [habsolute])] at h
    exact .inr ⟨rfl, h⟩

theorem isRooted_of_resolve (h : i.resolve t executable = some file)
    (hsafe : (Path.ofText executable).isAbsolute = true ∨ hasSlash executable = false ∧
      ∀ d ∈ searchDirectories (searchPath i.current), isRooted d = true) : isRooted file = true := by
  rcases resolve_cases h with ⟨-, hrooted⟩ | ⟨hrelative, hfind⟩
  · exact hrooted
  rcases hsafe with habsolute | ⟨hbare, hdirs⟩
  · cases hrelative.symm.trans habsolute
  obtain ⟨-, ⟨hslash, -⟩ | ⟨-, before, d, after, hsplit, rfl, -⟩⟩ := findProgram_eq_some hfind
  · cases hbare.symm.trans hslash
  · exact isRooted_inDirectory (hdirs d (by simp [hsplit])) executable

/-- A bare name is found through an empty entry of the search path, behind entries that do not have it. -/
theorem bare_of_resolve (h : i.resolve t executable = some file) (hbare : hasSlash file = false) :
    file = executable ∧ ∃ before after, searchDirectories (searchPath i.current) = before ++ "" :: after ∧
      ∀ d ∈ before, isStartable t (inDirectory d file) = false := by
  rcases resolve_cases h with ⟨-, hrooted⟩ | ⟨-, hfind⟩
  · cases hbare.symm.trans (hasSlash_of_rooted hrooted)
  obtain ⟨-, ⟨hslash, rfl⟩ | ⟨-, before, d, after, hsplit, rfl, hbefore⟩⟩ := findProgram_eq_some hfind
  · cases hbare.symm.trans hslash
  obtain rfl := eq_empty_of_inDirectory hbare
  rw [inDirectory_empty]
  exact ⟨rfl, before, after, hsplit, hbefore⟩

theorem executes_of_slash (h : i.launch.Executes file arguments (utf8Encode text) t executed ended)
    (hslash : hasSlash file = true) : t.leadsFrom i.directory file = .ok executed := by
  obtain ⟨-, -, hpaths, -, -, hleads⟩ := h
  rw [candidates_of_slash hslash, List.cons_eq_append_iff] at hpaths
  rcases hpaths with ⟨rfl, hpaths⟩ | ⟨before, rfl, hpaths⟩
  · cases hpaths
    exact hleads
  · simp at hpaths

theorem executes_of_bare (h : i.launch.Executes file arguments (utf8Encode text) t executed ended)
    (hbare : hasSlash file = false) : ∃ d ∈ searchDirectories (searchPath i.launch.environment),
      t.leadsFrom i.directory (inDirectory d file) = .ok executed := by
  obtain ⟨-, -, hpaths, -, -, hleads⟩ := h
  rw [candidates_of_bare hbare] at hpaths
  obtain ⟨d, hd, rfl⟩ := List.mem_map.1 (hpaths ▸ List.mem_append_right _ List.mem_cons_self)
  exact ⟨d, hd, hleads⟩

/-- From the current directory and environment, only a file that cannot be started is passed over. -/
theorem start_error_of_passed_over (hfile : i.resolve t executable = some file)
    (hfound : t.leadsFrom none file = .ok found)
    (h : i.launch.Executes file arguments (utf8Encode text) t executed ended) (hbare : hasSlash file = false)
    (hdirectory : i.directory = none) (henvironment : i.environment = none) (hne : executed ≠ found) :
    ∃ cause, start i.programs file (i.launch.asked file arguments (utf8Encode text) t) = .error cause := by
  obtain ⟨-, front, back, hsplit, hfront⟩ := bare_of_resolve hfile hbare
  obtain @⟨_, before, after, path, _, _, -, henter, hpaths, hbefore, hstart, hleads⟩ := h
  rw [launch, hdirectory] at henter hleads
  cases henter
  have hother : path ≠ file := by
    rintro rfl
    cases hleads.symm.trans hfound
    exact hne rfl
  rw [candidates_of_bare hbare, launch, henvironment, Option.getD_none, hsplit, List.map_append, List.map_cons,
    inDirectory_empty, List.append_eq_append_iff] at hpaths
  -- The executed file stands behind the one that was found, as nothing before that can be started.
  rcases hpaths with ⟨between, rfl, hback⟩ | ⟨between, hfronts, hback⟩
  · cases between with
    | nil =>
      cases hback
      exact absurd rfl hother
    | cons x between =>
      obtain ⟨rfl, -⟩ := List.cons.inj hback
      exact hbefore _ (by simp)
  · cases between with
    | nil =>
      cases hback
      exact absurd rfl hother
    | cons x between =>
      cases hback
      have hmem : path ∈ front.map (inDirectory · file) := by simp [hfronts]
      obtain ⟨d, hd, rfl⟩ := List.mem_map.1 hmem
      obtain ⟨_, _, _, -, hstartable⟩ := exists_file_of_start hstart
      cases (hfront d hd).symm.trans hstartable

/-- A child is run from the file that was found if that is an absolute path, as it is for an absolute executable and
for a bare name along absolute entries of the search path, and also if it has a slash and the child stays in the
current directory. Otherwise the text that was found is read again from the directory of the child: with a slash the
child is run from where it leads there, and a bare name, which only an empty entry of the search path finds, is
searched for along the search path of the child. Without a directory and an environment of its own, a child is then
run from another file only if the one that was found cannot be started. -/
theorem executed_where_found (hfile : i.resolve t executable = some file)
    (hfound : t.leadsFrom none file = .ok found) (hrun : i.invoke executable arguments text t = (.ok r, t₁)) :
    ∃ executed ended, i.launch.Executes file arguments (utf8Encode text) t executed ended ∧
      r = ⟨ended.exitCode, outputText ended.stdout, outputText ended.stderr⟩ ∧
      (isRooted file = true → executed = found) ∧
      ((Path.ofText executable).isAbsolute = true ∨ hasSlash executable = false ∧
        (∀ d ∈ searchDirectories (searchPath i.current), isRooted d = true) → isRooted file = true) ∧
      (hasSlash file = true → t.leadsFrom i.directory file = .ok executed ∧
        (i.directory = none → executed = found)) ∧
      (hasSlash file = false → file = executable ∧ "" ∈ searchDirectories (searchPath i.current) ∧
        (∃ d ∈ searchDirectories (searchPath i.launch.environment),
          t.leadsFrom i.directory (inDirectory d file) = .ok executed) ∧
        (i.directory = none → i.environment = none → executed ≠ found →
          ∃ cause, start i.programs file (i.launch.asked file arguments (utf8Encode text) t) = .error cause)) := by
  obtain ⟨file', ended', hfile', hended, rfl, -⟩ := invoke_eq_ok_iff.1 hrun
  cases hfile.symm.trans hfile'
  obtain ⟨executed, ended, hexecutes, rfl⟩ := Launch.exists_executes hended
  refine ⟨executed, ended, hexecutes, rfl, fun hrooted => ?_, isRooted_of_resolve hfile, fun hslash => ?_,
    fun hbare => ?_⟩
  · exact FileTree.leadsFrom_unique hrooted (executes_of_slash hexecutes (hasSlash_of_rooted hrooted)) hfound
  · have hleads := executes_of_slash hexecutes hslash
    refine ⟨hleads, fun hdirectory => ?_⟩
    rw [hdirectory] at hleads
    cases hleads.symm.trans hfound
    rfl
  · obtain ⟨hname, before, after, hsplit, -⟩ := bare_of_resolve hfile hbare
    exact ⟨hname, by simp [hsplit], executes_of_bare hexecutes hbare,
      start_error_of_passed_over hfile hfound hexecutes hbare⟩

/-- A tree with a formatter at `/d/f` and another one at `/s/d/f`. -/
def treeWithTwo : FileTree where
  entries := [
    (["bin"], .directory), (["sh", "bin"], .file [] 0o755), (["d"], .directory), (["s"], .directory),
    (["d", "s"], .directory), (["f", "d"], .file (utf8Encode "#!/bin/sh\necho found\n") 0o755),
    (["f", "d", "s"], .file (utf8Encode "#!/bin/sh\necho other\n") 0o755)]
  here := []

/-- Children are run in `/s`. -/
def aside : Invoker := ⟨Shell.programs, [], some ⟨.root, ["s"]⟩, none⟩

/-- The formatter at `/d/f` is found, and the one at `/s/d/f` is run. -/
theorem executed_where_found_aside :
    aside.resolve treeWithTwo "d/f" = some "d/f" ∧ treeWithTwo.leadsFrom none "d/f" = .ok ["f", "d"] ∧
    (aside.invoke "d/f" [] "" treeWithTwo).1 = .ok ⟨0, "other\n", ""⟩ ∧
    ∃ ended, aside.launch.Executes "d/f" [] (utf8Encode "") treeWithTwo ["f", "d", "s"] ended := by
  have hfile : aside.resolve treeWithTwo "d/f" = some "d/f" := by decide +kernel
  have hfound : treeWithTwo.leadsFrom none "d/f" = .ok ["f", "d"] := by decide +kernel
  have hresult : (aside.invoke "d/f" [] "" treeWithTwo).1 = .ok ⟨0, "other\n", ""⟩ := by decide +kernel
  have hslash : hasSlash "d/f" = true := by decide +kernel
  have hthere : treeWithTwo.leadsFrom aside.directory "d/f" = .ok ["f", "d", "s"] := by decide +kernel
  obtain ⟨executed, ended, hexecutes, -, -, -, hagain, -⟩ :=
    executed_where_found hfile hfound (Prod.ext hresult rfl)
  cases hthere.symm.trans (hagain hslash).1
  exact ⟨hfile, hfound, hresult, ended, hexecutes⟩

end Invoker

end SqlTidy
