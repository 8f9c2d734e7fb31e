import SqlTidy.Process.Find
import SqlTidy.Proofs.Outcome

/-!
# Programs that are started

Starting a file comes to a program, which is the file itself or the interpreter that it names (`Starts`). A
launch comes to the first of the files that its name can stand for and that can be started
(`Launch.Spawns`). So a launch succeeds just if there is such a file, and ends as its program does
(`Launch.run_eq_ok_iff`).
-/

namespace SqlTidy

section Start

variable {programs : Programs} {path : String} {p q : Process} {child : Program} {ended : Ended}

/-- The program that the start of a file comes to, and the process that it runs as: the one that was asked for,
but with the arguments that interpreters get. -/
inductive Starts (programs : Programs) (path : String) (p : Process) : Program → Process → Prop
  | intro {position : Position} {arguments : List String} {child : Program} :
      imageOf (fun q => (programs q).isSome) p.tree interpreterLimit path p.arguments =
        .ok (position, arguments) →
      programs position = some child → Starts programs path p child { p with arguments }

theorem Starts.input_eq (h : Starts programs path p child q) : q.input = p.input := by
  cases h
  rfl

theorem start_eq_ok_iff :
    start programs path p = .ok ended ↔ ∃ child q, Starts programs path p child q ∧ child q = ended := by
  rw [start, bind_eq_ok_iff]
  constructor
  · rintro ⟨⟨position, arguments⟩, himage, h⟩
    dsimp only at h
    split at h
    · next child hchild =>
      cases h
      exact ⟨child, _, ⟨himage, hchild⟩, rfl⟩
    · cases h
  · rintro ⟨child, q, ⟨himage, hchild⟩, rfl⟩
    refine ⟨_, himage, ?_⟩
    simp only [hchild]
    rfl

theorem startFirst_eq_ok_iff {starter : Starter} {saved : Option Cause} {last : Cause} {paths : List String} :
    startFirst starter p saved last paths = .ok ended ↔ ∃ before path after, paths = before ++ path :: after ∧
      (∀ x ∈ before, ∃ cause, starter x p = .error cause) ∧ starter path p = .ok ended := by
  induction paths generalizing saved last with
  | nil =>
    refine iff_of_false (by simp [startFirst]) ?_
    rintro ⟨before, path, after, h, -⟩
    simp at h
  | cons first rest ih =>
    rw [startFirst]
    cases hfirst : starter first p with
    | ok ended' =>
      constructor
      · intro h
        cases h
        exact ⟨[], first, rest, rfl, by simp, hfirst⟩
      · rintro ⟨before, path, after, hpaths, hbefore, hpath⟩
        cases before with
        | nil =>
          cases hpaths
          exact hfirst.symm.trans hpath
        | cons x before =>
          cases hpaths
          obtain ⟨cause, hcause⟩ := hbefore first List.mem_cons_self
          cases hfirst.symm.trans hcause
    | error cause =>
      dsimp only
      rw [ih]
      constructor
      · rintro ⟨before, path, after, rfl, hbefore, hpath⟩
        exact ⟨first :: before, path, after, rfl, List.forall_mem_cons.2 ⟨⟨cause, hfirst⟩, hbefore⟩, hpath⟩
      · rintro ⟨before, path, after, hpaths, hbefore, hpath⟩
        cases before with
        | nil =>
          cases hpaths
          cases hfirst.symm.trans hpath
        | cons x before =>
          cases hpaths
          exact ⟨before, path, after, rfl, (List.forall_mem_cons.1 hbefore).2, hpath⟩

end Start

namespace Launch

variable {l : Launch} {name : String} {arguments : List String} {input : Octets} {t : FileTree}
  {child : Program} {q : Process} {ended : Ended}

/-- The process that a launch asks for once it is inside its directory. -/
def asked (l : Launch) (name : String) (arguments : List String) (input : Octets) (inside : FileTree) : Process :=
  ⟨name :: arguments, l.environment, input, inside⟩

/-- The program that a launch comes to, and the process that it runs as: nothing is in the way, the directory can
be entered, and of the files that the name can stand for this is the first that can be started. -/
inductive Spawns (l : Launch) (name : String) (arguments : List String) (input : Octets) (t : FileTree) :
    Program → Process → Prop
  | intro {inside : FileTree} {before after : List String} {path : String} {child : Program} {q : Process} :
      l.obstacle? name arguments = none → enter t l.directory = .ok inside →
      candidates l.environment name = before ++ path :: after →
      (∀ x ∈ before, ∃ cause, start l.programs x (l.asked name arguments input inside) = .error cause) →
      Starts l.programs path (l.asked name arguments input inside) child q →
      Spawns l name arguments input t child q

theorem Spawns.input_eq (h : l.Spawns name arguments input t child q) : q.input = input := by
  obtain ⟨-, -, -, -, hstarts⟩ := h
  exact hstarts.input_eq

theorem run_eq_ok_iff : l.run name arguments input t = .ok ended ↔
    ∃ child q, l.Spawns name arguments input t child q ∧
      ended = { child q with tree := { (child q).tree with here := t.here } } := by
  rw [run]
  constructor
  · intro h
    split at h
    · cases h
    · cases h
    · next inside hfree henter =>
      split at h
      · cases h
      · next ended' hstart =>
        cases h
        obtain ⟨before, path, after, hpaths, hbefore, hpath⟩ := startFirst_eq_ok_iff.1 hstart
        obtain ⟨child, q, hstarts, rfl⟩ := start_eq_ok_iff.1 hpath
        exact ⟨child, q, ⟨hfree, henter, hpaths, hbefore, hstarts⟩, rfl⟩
  · rintro ⟨child, q, ⟨hfree, henter, hpaths, hbefore, hstarts⟩, rfl⟩
    have hpath := start_eq_ok_iff.2 ⟨child, q, hstarts, rfl⟩
    have hstart : startFirst (start l.programs) (l.asked name arguments input _) none .noEntry
        (candidates l.environment name) = .ok (child q) :=
      startFirst_eq_ok_iff.2 ⟨_, _, _, hpaths, hbefore, hpath⟩
    rw [asked] at hstart
    simp only [hfree, henter, hstart]

end Launch

end SqlTidy
