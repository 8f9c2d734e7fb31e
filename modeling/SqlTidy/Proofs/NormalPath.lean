import SqlTidy.Proofs.Descent

/-!
# Where normal paths lead

A path in which double dots cancel the names before them need not lead where the path leads: double dots behind
a link go up from where the link leads. On a way without links both paths lead to the same directory
(`Reaches.normal`).

A relative path becomes absolute by putting it behind the names of the directory that it starts from. If that
directory is on no link, its normal path leads to the same directory as before (`Grounded.reaches_of_absolute`).
Double dots are left over only at the front of a normal path, and there they climb (`normal_names`).
-/

namespace SqlTidy

namespace Path

variable {p q : Path} {names above : List String}

theorem step_congr (h : p.anchor = q.anchor) : normal.step p = normal.step q := by
  obtain ⟨anchor, parts⟩ := p
  obtain ⟨anchor', parts'⟩ := q
  obtain rfl : anchor = anchor' := h
  rfl

theorem foldl_step_of_no_dots (h : ".." ∉ names) :
    names.foldl (normal.step p) above = names.reverse ++ above := by
  induction names generalizing above with
  | nil => rfl
  | cons name names ih =>
    obtain ⟨hname, hnames⟩ := not_or.1 (mt List.mem_cons.2 h)
    have hstep : normal.step p above name = name :: above := if_pos (Ne.symm hname)
    rw [List.foldl_cons, hstep, ih hnames]
    simp

theorem normal_of_no_dots (h : ".." ∉ p.parts) : p.normal = p := by
  rw [normal, foldl_step_of_no_dots h]
  simp

/-- Names without double dots stay at the end of a normal path. -/
theorem normal_append (p : Path) (h : ".." ∉ names) :
    (Path.mk p.anchor (p.parts ++ names)).normal = ⟨p.anchor, p.normal.parts ++ names⟩ := by
  simp only [normal, List.foldl_append, foldl_step_of_no_dots h, List.reverse_append, List.reverse_reverse]
  rw [step_congr (show (Path.mk p.anchor (p.parts ++ names)).anchor = p.anchor from rfl)]

/-- The normal path of a relative path climbs and then goes down by some names. Seen from the root, the climb
takes as many names off the place that the path starts from. -/
theorem normal_names {relative absolute : Path} {here : Position} (hr : relative.isAbsolute = false)
    (ha : absolute.isAbsolute = true) (hhere : ".." ∉ here) :
    ∀ (parts names : List String) (k : Nat), ".." ∉ names →
      ∃ names' k', parts.foldl (normal.step relative) (names ++ List.replicate k "..") =
          names' ++ List.replicate k' ".." ∧
        parts.foldl (normal.step absolute) (names ++ here.drop k) = names' ++ here.drop k'
  | [], names, k, _ => ⟨names, k, rfl, rfl⟩
  | part :: parts, names, k, hn => by
    by_cases hpart : part = ".."
    · subst hpart
      rcases names with _ | ⟨name, names⟩
      · -- Nothing is left to cancel, so both go up.
        have hrel : normal.step relative ([] ++ List.replicate k "..") ".." =
            [] ++ List.replicate (k + 1) ".." := by
          cases k <;> simp [normal.step, hr, List.replicate_succ]
        have habs : normal.step absolute ([] ++ here.drop k) ".." = [] ++ here.drop (k + 1) := by
          have hdrop : here.drop (k + 1) = (here.drop k).tail := by simp
          rw [hdrop]
          rcases hk : here.drop k with _ | ⟨last, above⟩
          · simp [normal.step, ha]
          · have hlast : last ≠ ".." := by
              rintro rfl
              exact hhere (List.mem_of_mem_drop (hk ▸ List.mem_cons_self))
            simp [normal.step, hlast]
        rw [List.foldl_cons, List.foldl_cons, hrel, habs]
        exact normal_names hr ha hhere parts [] (k + 1) hn
      · obtain ⟨hname, hnames⟩ := not_or.1 (mt List.mem_cons.2 hn)
        have hstep : ∀ (p : Path) above, normal.step p (name :: names ++ above) ".." = names ++ above := by
          intro p above
          simp [normal.step, Ne.symm hname]
        rw [List.foldl_cons, List.foldl_cons, hstep, hstep]
        exact normal_names hr ha hhere parts names k hnames
    · have hstep : ∀ (p : Path) above, normal.step p (names ++ above) part = (part :: names) ++ above := by
        intro p above
        simp [normal.step, hpart]
      rw [List.foldl_cons, List.foldl_cons, hstep, hstep]
      refine normal_names hr ha hhere parts (part :: names) k ?_
      simp [Ne.symm hpart, hn]

end Path

namespace FileTree

variable {t : FileTree} {follow : Bool} {links links' : Nat} {d d' dir : Position} {names rest : List String}
  {s s' : Spot} {path : Path}

/-! ## Ways without links -/

theorem Walked.append (h : Walked t true links d names s) (hs : s = .taken d' .directory)
    (h' : Walked t true links' d' rest s') : Walked t true (links + links') d (names ++ rest) s' := by
  induction h with
  | done =>
    cases hs
    exact h'.mono_links (Nat.le_add_left _ _)
  | dot _ ih => exact .dot (ih hs)
  | up _ ih => exact .up (ih hs)
  | into hn hd _ ih => exact .into hn hd (ih hs)
  | through hn hl _ ht _ ih =>
    have h₁ := ih hs
    rw [List.append_assoc] at h₁
    rw [Nat.succ_add]
    exact .through hn hl (.inr rfl) ht h₁
  | _ => cases hs

/-- A step that leads through no link into a directory leads one name down. -/
theorem Walked.eq_cons {name : String} (h : Walked t true 0 d [name] (.taken d' .directory)) (hdot : name ≠ ".")
    (hdots : name ≠ "..") : d' = name :: d := by
  cases h with
  | dot => exact absurd rfl hdot
  | up => exact absurd rfl hdots
  | into _ _ h =>
    cases h
    rfl

/-- Cancelling double dots one after the other keeps to where the names so far lead. -/
theorem walked_foldl_step {start : Position} (hstart : path.isAbsolute = true → start = []) :
    ∀ (names above : List String) (d : Position), "." ∉ above → "." ∉ names →
      Walked t true 0 start above.reverse (.taken d .directory) →
      Walked t true 0 d names (.taken dir .directory) →
      Walked t true 0 start (names.foldl (Path.normal.step path) above).reverse (.taken dir .directory)
  | [], above, d, _, _, h, h' => by
    cases h'
    exact h
  | name :: names, above, d, habove, hnames, h, h' => by
    obtain ⟨hdot, hrest⟩ := not_or.1 (mt List.mem_cons.2 hnames)
    rw [List.foldl_cons]
    cases h' with
    | dot => exact absurd rfl hdot
    | into hn hd h' =>
      have hstep : Path.normal.step path above name = name :: above := if_pos hn.ne_dots
      rw [hstep]
      refine walked_foldl_step hstart names (name :: above) (name :: d) ?_ hrest ?_ h'
      · simp [hdot, habove]
      · rw [List.reverse_cons]
        have hlast : Walked t true 0 d [name] (.taken (name :: d) .directory) := .into hn hd .done
        exact h.append rfl hlast
    | up h' =>
      rcases above with _ | ⟨last, above⟩
      · cases h
        rcases habs : path.isAbsolute with _ | _
        · have hstep : Path.normal.step path [] ".." = [".."] := by simp [Path.normal.step, habs]
          rw [hstep]
          exact walked_foldl_step hstart names [".."] _ (by decide) hrest (.up .done) h'
        · have hstep : Path.normal.step path [] ".." = [] := by simp [Path.normal.step, habs]
          obtain rfl := hstart habs
          rw [hstep]
          exact walked_foldl_step hstart names [] [] habove hrest .done h'
      obtain ⟨hlastDot, habove⟩ := not_or.1 (mt List.mem_cons.2 habove)
      rw [List.reverse_cons] at h
      by_cases hlast : last = ".."
      · subst hlast
        have hstep : Path.normal.step path (".." :: above) ".." = ".." :: ".." :: above := by
          simp [Path.normal.step]
        rw [hstep]
        refine walked_foldl_step hstart names _ d.tail (by simp [habove]) hrest ?_ h'
        rw [List.reverse_cons, List.reverse_cons]
        have hup : Walked t true 0 d [".."] (.taken d.tail .directory) := .up .done
        exact h.append rfl hup
      · -- The last name led one step down, so going up leads back to where it started from.
        have hstep : Path.normal.step path (last :: above) ".." = above := by simp [Path.normal.step, hlast]
        obtain ⟨d₁, h₁, links', hle, h₂⟩ := Walked.split (List.cons_ne_nil last []) h
        obtain rfl : links' = 0 := Nat.le_zero.1 hle
        obtain rfl := h₂.eq_cons (Ne.symm hlastDot) hlast
        rw [hstep]
        exact walked_foldl_step hstart names above d₁ habove hrest h₁ h'

/-- A path and its normal path lead to the same directory if there is no link on the way. -/
theorem Reaches.normal (h : t.Reaches 0 path dir) (hp : path.Proper) : t.Reaches 0 path.normal dir := by
  have hdot : "." ∉ path.parts := fun hm => (hp "." hm).ne_dot rfl
  exact walked_foldl_step (fun habs => if_pos habs) path.parts [] _ List.not_mem_nil hdot .done h

/-! ## Relative paths -/

/-- Relative paths start from a directory, and so do all paths above it. -/
structure Grounded (t : FileTree) : Prop where
  directory : ∀ d, d <:+ t.here → t.at? d = some .directory
  plain : ∀ name ∈ t.here, Plain name
  names : ∀ name ∈ t.here, IsName name

theorem walked_into_iff {name : String} (hn : Plain name) (hd : t.at? (name :: d) = some .directory) :
    Walked t follow links d (name :: rest) s ↔ Walked t follow links (name :: d) rest s := by
  rw [← walkFrom_eq_ok_iff, ← walkFrom_eq_ok_iff, walkFrom_eq, walkWith_plain hn, hd]

theorem walked_up_iff : ∀ (k : Nat) (d : Position),
    Walked t follow links d (List.replicate k ".." ++ rest) s ↔ Walked t follow links (d.drop k) rest s
  | 0, d => by simp
  | k + 1, d => by
    have hup : Walked t follow links d (".." :: (List.replicate k ".." ++ rest)) s ↔
        Walked t follow links d.tail (List.replicate k ".." ++ rest) s := by
      rw [← walkFrom_eq_ok_iff, ← walkFrom_eq_ok_iff, walkFrom_eq, walkWith, if_neg (by decide), if_pos rfl]
    rw [List.replicate_succ, List.cons_append, hup, walked_up_iff k d.tail, List.drop_tail]

/-- The names of the directory that relative paths start from lead there. -/
theorem Grounded.walked_down_iff (h : t.Grounded) : ∀ {d : Position} {rest : List String}, d <:+ t.here →
    (Walked t follow links [] (d.reverse ++ rest) s ↔ Walked t follow links d rest s)
  | [], rest, _ => Iff.rfl
  | name :: d, rest, hd => by
    have hsuffix : d <:+ t.here := (List.suffix_cons name d).trans hd
    have hname : name ∈ t.here := hd.subset List.mem_cons_self
    rw [List.reverse_cons, List.append_assoc, List.singleton_append, h.walked_down_iff hsuffix,
      walked_into_iff (h.plain name hname) (h.directory _ hd)]

theorem Grounded.reaches_of_absolute (h : t.Grounded)
    (hr : t.Reaches links ((pathOf t.here).join path).normal dir) : t.Reaches links path.normal dir := by
  rcases habs : path.isAbsolute with _ | _
  · have hdots : ".." ∉ t.here := fun hm => (h.plain _ hm).ne_dots rfl
    have hstart : t.start path.normal = t.here := if_neg (by simpa [Path.isAbsolute, Path.normal] using habs)
    obtain ⟨anchor, parts⟩ := path
    have hjoin : (pathOf t.here).join ⟨anchor, parts⟩ = ⟨.root, t.here.reverse ++ parts⟩ := by
      simp [Path.join, habs, pathOf]
    have hroot : (Path.mk .root (t.here.reverse ++ parts)).isAbsolute = true := rfl
    obtain ⟨names, k, hrel, hnames⟩ := Path.normal_names habs hroot hdots parts [] 0 List.not_mem_nil
    rw [List.drop_zero, List.nil_append] at hnames
    have hhere : t.here.reverse.foldl (Path.normal.step ⟨.root, t.here.reverse ++ parts⟩) [] = t.here := by
      rw [Path.foldl_step_of_no_dots (by simpa using hdots)]
      simp
    rw [hjoin, Reaches, Path.normal, List.foldl_append, hhere, hnames, List.reverse_append] at hr
    have hdown := (h.walked_down_iff (List.drop_suffix k t.here)).1 hr
    rw [Reaches, hstart, Path.normal]
    rw [List.replicate_zero, List.nil_append] at hrel
    rw [hrel, List.reverse_append, List.reverse_replicate]
    exact (walked_up_iff k t.here).2 hdown
  · rwa [Path.join, if_pos habs] at hr

end FileTree

end SqlTidy
