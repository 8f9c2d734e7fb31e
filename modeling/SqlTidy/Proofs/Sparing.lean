import SqlTidy.Proofs.Growth

/-!
# Files that stay as they are

A tree spares a file if the file can still be read there with the same content. Making directories adds
to a tree and changes nothing in it (`makeDirectories_extends`), so a search for the formatter spares
every file that its download and its build spare (`Search.Sparing.resolve`).
-/

namespace SqlTidy

namespace FileTree

variable {t t' t'' : FileTree} {p : Position} {e : Entry} {path : String} {content content' : Octets}
  {mode mode' : Nat}

/-! ## Reading and writing -/

theorem read_eq_ok_iff : t.read path = .ok content ↔
    ∃ p mode, t.walk true path = .ok (.taken p (.file content mode)) := by
  rw [read, find]
  rcases t.walk true path with e | ⟨p, content | _ | _⟩ | p <;>
    simp [bind, Except.bind, pure, Except.pure]

/-- A path that leads to a file leads to what came of it in a grown tree. -/
theorem Grows.read_of_at? (h : Grows t t') (hp : t.walk true path = .ok (.taken p (.file content mode)))
    (hfile : t'.at? p = some (.file content' mode')) : t'.read path = .ok content' := by
  obtain ⟨e', hw, hk⟩ := h.walk_taken hp
  obtain ⟨content₁, mode₁, rfl⟩ : ∃ content₁ mode₁, e' = .file content₁ mode₁ := by
    cases hk <;> exact ⟨_, _, rfl⟩
  rw [at?_of_walk_file hw] at hfile
  cases hfile
  exact read_eq_ok_iff.2 ⟨p, _, hw⟩

/-- A dot at the end asks for a directory. -/
theorem Walked.not_file_of_dot {follow : Bool} {links : Nat} {d p : Position} {names : List String} {s : Spot}
    {mode : Nat} (h : Walked t follow links d names s) (hdot : names.getLast? = some ".") :
    s ≠ .taken p (.file content mode) := by
  induction h with
  | done => simp
  | @dot _ _ rest _ hw ih =>
    rcases rest with _ | ⟨first, rest⟩
    · cases hw
      simp
    · exact ih (by simpa [List.getLast?_cons] using hdot)
  | @up _ _ rest _ _ ih =>
    rcases rest with _ | ⟨first, rest⟩
    · simp at hdot
    · exact ih (by simpa [List.getLast?_cons] using hdot)
  | @into _ _ _ rest _ hn _ _ ih =>
    rcases rest with _ | ⟨first, rest⟩
    · exact absurd (by simpa using hdot) hn.ne_dot
    · exact ih (by simpa [List.getLast?_cons] using hdot)
  | file hn _ => exact absurd (by simpa using hdot) hn.ne_dot
  | link | free => simp
  | @through _ _ _ rest _ _ hn _ _ _ _ ih =>
    rcases rest with _ | ⟨first, rest⟩
    · exact absurd (by simpa using hdot) hn.ne_dot
    · exact ih (by simpa [List.getLast?_cons] using hdot)

theorem refusal?_of_walk (h : t.walk true path = .ok (.taken p (.file content mode))) :
    t.refusal? path = t.refusals.lookup p := by
  simp [refusal?, find, h, bind, Except.bind, pure, Except.pure]

/-- A file that is there is written in its place, unless that is refused. -/
theorem write_of_walk (h : t.walk true path = .ok (.taken p (.file content mode))) (content' : Octets) :
    t.write path content' =
      match t.refusal? path with
      | some cause => .error cause
      | none => .ok (t.set p (.file content' mode)) := by
  have hslash : endsInSlash path = false := by
    rcases hs : endsInSlash path
    · rfl
    · have hdot : (stepsOf path).getLast? = some "." := by simp [stepsOf, hs]
      exact absurd rfl ((walk_eq_ok_iff.1 h).2.2.not_file_of_dot hdot)
  rw [refusal?_of_walk h]
  rcases hr : t.refusals.lookup p with _ | cause <;>
    simp [write, target, hslash, h, hr, bind, Except.bind, pure, Except.pure]

/-- A file that can be read can be written exactly if that is not refused. -/
theorem write_cases (h : t.read path = .ok content) (content' : Octets) :
    (∃ cause, t.refusal? path = some cause ∧ t.write path content' = .error cause) ∨
      ∃ t', t.refusal? path = none ∧ t.write path content' = .ok t' := by
  obtain ⟨p, mode, hp⟩ := read_eq_ok_iff.1 h
  rw [write_of_walk hp]
  rcases t.refusal? path with _ | cause
  · exact .inr ⟨_, rfl, rfl⟩
  · exact .inl ⟨cause, rfl, rfl⟩

/-- A file that was written has the content that it was given, and can be written again. -/
theorem read_write (h : t.read path = .ok content) (hw : t.write path content' = .ok t') :
    t'.read path = .ok content' ∧ t'.refusal? path = none := by
  obtain ⟨p, mode, hp⟩ := read_eq_ok_iff.1 h
  have hgrows := write_grows hw
  rw [write_of_walk hp] at hw
  rcases hr : t.refusal? path with _ | cause <;> rw [hr] at hw <;> cases hw
  have hread : (t.set p (.file content' mode)).read path = .ok content' :=
    hgrows.read_of_at? hp (at?_set_self (ne_nil_of_file (at?_of_walk_file hp)))
  obtain ⟨e', hw, -⟩ := hgrows.walk_taken hp
  obtain ⟨p', mode', hp'⟩ := read_eq_ok_iff.1 hread
  cases hw.symm.trans hp'
  refine ⟨hread, ?_⟩
  rw [refusal?_of_walk hp', ← hr, refusal?_of_walk hp]
  rfl

/-! ## Extension -/

/-- A tree that has more in it, and everything else as it was. -/
structure Extends (t t' : FileTree) : Prop where
  here : t'.here = t.here
  keeps : ∀ {p e}, t.at? p = some e → t'.at? p = some e

theorem Extends.refl (t : FileTree) : Extends t t := ⟨rfl, id⟩

theorem Extends.trans (h : Extends t t') (h' : Extends t' t'') : Extends t t'' :=
  ⟨h'.here.trans h.here, fun he => h'.keeps (h.keeps he)⟩

theorem Extends.grows (h : Extends t t') : Grows t t' := ⟨h.here, fun he => ⟨_, h.keeps he, .refl _⟩⟩

theorem makeDirectory_extends (h : t.makeDirectory path = .ok t') : Extends t t' := by
  obtain ⟨p, hp, rfl⟩ := makeDirectory_eq_ok h
  refine ⟨rfl, fun {q e} he => ?_⟩
  have hq : q ≠ p := by
    rintro rfl
    rw [hp] at he
    cases he
  rw [at?_set_of_ne hq, he]

/-- Whether or not it comes to an end, making directories only adds to a tree. -/
theorem makeDirectoriesFrom_extends (anchor : Anchor) : ∀ (names : List String) (t : FileTree),
    Extends t ((Act.makeDirectoriesFrom anchor names).outcome t).2
  | [], t => .refl t
  | name :: above, t => by
    have ih := makeDirectoriesFrom_extends anchor above t
    rw [Act.makeDirectoriesFrom, Act.outcome_ofOutcome]
    split
    · next h => exact makeDirectory_extends h
    · split
      · next h =>
        rw [h] at ih
        exact ih
      · next t₁ h =>
        rw [h] at ih
        split
        · next h' => exact ih.trans (makeDirectory_extends h')
        · split <;> exact ih
    · split <;> exact .refl t

theorem makeDirectories_extends (p : Path) (t : FileTree) :
    Extends t ((Act.makeDirectories p).outcome t).2 :=
  makeDirectoriesFrom_extends p.anchor p.parts.reverse t

/-! ## Sparing -/

/-- A file that can be read can still be read, with the same content. -/
def Spares (path : String) (t t' : FileTree) : Prop :=
  ∀ content, t.read path = .ok content → t'.read path = .ok content

theorem Spares.refl (path : String) (t : FileTree) : Spares path t t := fun _ h => h

theorem Spares.trans (h : Spares path t t') (h' : Spares path t' t'') : Spares path t t'' :=
  fun content hc => h' content (h content hc)

theorem Extends.spares (h : Extends t t') (path : String) : Spares path t t' := by
  intro content hc
  obtain ⟨p, mode, hp⟩ := read_eq_ok_iff.1 hc
  exact h.grows.read_of_at? hp (h.keeps (at?_of_walk_file hp))

end FileTree

namespace Search

open FileTree

variable {s : Search} {sup : Suppliers} {t t₁ t₂ : FileTree} {path : String} {r : Resolved}
  {w : List Warning} {c : List SupplyCall} {q : List Request}

/-- The download and the build of a search spare a file, if it comes to them. -/
structure Sparing (s : Search) (sup : Suppliers) (path : String) (t : FileTree) : Prop where
  fetch : ∀ {w t₁}, s.Cleared t w t₁ → s.options.autoDownload = true →
    Spares path t₁ (s.fetched sup t₁).tree
  build : ∀ {w c q t₂ p}, s.Onward sup t w c q t₂ → s.project? = some p →
    t₂.There (p / "Cargo.toml") → Spares path t₂ (sup.build p t₂).2

theorem Cleared.custom_eq_none (h : s.Cleared t w t₁) : s.options.trimmedCustomPath = none := by
  cases h <;> assumption

theorem Onward.custom_eq_none (h : s.Onward sup t w c q t₂) : s.options.trimmedCustomPath = none := by
  cases h with
  | unasked h _ | network h _ _ | archive h _ _ | fruitless h _ _ _ => exact h.custom_eq_none

/-- A search that is told where the formatter is comes to no download and no build. -/
theorem sparing_of_custom {custom : String} (h : s.options.trimmedCustomPath = some custom) :
    s.Sparing sup path t where
  fetch hc _ := by
    rw [hc.custom_eq_none] at h
    cases h
  build ho _ _ := by
    rw [ho.custom_eq_none] at h
    cases h

theorem Cleared.spares (h : s.Cleared t w t₁) (path : String) : Spares path t t₁ := by
  have hext := makeDirectories_extends s.cache t
  cases h with
  | made _ _ _ _ hm =>
    rw [hm] at hext
    exact hext.spares path
  | refused _ _ _ _ hm =>
    rw [hm] at hext
    exact hext.spares path

theorem Sparing.onward (hs : s.Sparing sup path t) (h : s.Onward sup t w c q t₂) : Spares path t t₂ := by
  cases h with
  | unasked h _ => exact h.spares path
  | network h ha _ => exact (h.spares path).trans (hs.fetch h ha)
  | archive h ha _ => exact (h.spares path).trans (hs.fetch h ha)
  | fruitless h ha _ _ => exact (h.spares path).trans (hs.fetch h ha)

theorem Sparing.built (hs : s.Sparing sup path t) (h : s.Onward sup t w c q t₂) (hr : s.Built sup t₂ r) :
    Spares path t₂ r.tree := by
  cases hr with
  | unasked | noSources => exact .refl path t₂
  | failed hp hm hb | fruitless hp hm hb _ | built hp hm hb _ _ _ =>
    have := hs.build h hp hm
    rwa [hb] at this

theorem Sparing.buildStumbled (hs : s.Sparing sup path t) (h : s.Onward sup t w c q t₂)
    (hr : s.BuildStumbled sup t₂ r) : Spares path t₂ r.tree := by
  cases hr with
  | sources => exact .refl path t₂
  | crashed hp hm hb | built hp hm hb _ _ _ =>
    have := hs.build h hp hm
    rwa [hb] at this

/-- A search spares what its download and its build spare. -/
theorem Sparing.resolve (hs : s.Sparing sup path t) : Spares path t (s.resolve sup t).tree := by
  rcases resolve_eq_iff.1 (rfl : s.resolve sup t = _) with h | h
  · generalize s.resolve sup t = r at h
    cases h with
    | custom | bundled | cached => exact .refl path t
    | downloaded h ha _ _ => exact (h.spares path).trans (hs.fetch h ha)
    | onward h hr =>
      have hbuilt := hs.built h hr
      exact (hs.onward h).trans hbuilt
  · generalize s.resolve sup t = r at h
    cases h with
    | bundled | cached | nul => exact .refl path t
    | crashed h ha _ => exact (h.spares path).trans (hs.fetch h ha)
    | downloaded h ha _ _ => exact (h.spares path).trans (hs.fetch h ha)
    | onward h hr =>
      have hstumbled := hs.buildStumbled h hr
      exact (hs.onward h).trans hstumbled

end Search

end SqlTidy
