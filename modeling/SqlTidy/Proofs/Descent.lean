import SqlTidy.Proofs.Unseen

/-!
# Walks into a directory

A walk along a path that goes on behind a directory comes to that directory first (`Walked.split`). From there
on, where there are no links below the directory and no double dots in the rest of the path, it ends below the
directory (`Walked.ends_below`). Paths as they are read from texts are walked by their parts (`walk_text_iff`).
-/

namespace SqlTidy

/-! ## Paths and their texts -/

/-- A name that can stand between two slashes and says something. -/
structure IsName (name : String) : Prop where
  noSlash : '/' ∉ name.toList
  ne_empty : name ≠ ""
  ne_dot : name ≠ "."

/-- A name that leads one step down. -/
structure LeadsDown (name : String) : Prop extends IsName name where
  ne_dots : name ≠ ".."

/-- A path as it is read from a text. -/
def Path.Proper (p : Path) : Prop := ∀ name ∈ p.parts, IsName name

theorem isName_of_mem_pathNames {name s : String} (h : name ∈ pathNames s) : IsName name := by
  simp only [pathNames, List.mem_filter, List.mem_map, decide_eq_true_eq] at h
  obtain ⟨⟨piece, hpiece, rfl⟩, hne⟩ := h
  refine ⟨?_, hne.1, hne.2⟩
  rw [String.toList_ofList]
  exact not_mem_of_mem_splitSlashes hpiece

theorem Path.proper_ofText (s : String) : (ofText s).Proper := fun _ h => isName_of_mem_pathNames h

theorem Path.Proper.normal {p : Path} (h : p.Proper) : p.normal.Proper := fun _ hn => h _ (mem_parts_normal hn)

theorem Path.div_of_isName (p : Path) {name : String} (h : IsName name) :
    (p / name : Path) = ⟨p.anchor, p.parts ++ [name]⟩ := by
  have hparts : (ofText name).parts = [name] := by
    simp [ofText, pathNames, splitSlashes_of_not_mem h.noSlash, h.ne_empty, h.ne_dot]
  have hanchor : (ofText name).anchor = .here := by
    have hslash := h.noSlash
    rw [ofText]
    dsimp only
    split <;> simp_all
  rw [div_of_relative p (by simp [isAbsolute, hanchor]), hparts]

theorem Path.Proper.div {p : Path} {name : String} (h : p.Proper) (hname : IsName name) :
    (p / name : Path).Proper := by
  rw [div_of_isName p hname]
  intro part hm
  rcases List.mem_append.1 hm with hm | hm
  · exact h part hm
  · exact List.mem_singleton.1 hm ▸ hname

theorem toList_ne_nil {name : String} (h : IsName name) : name.toList ≠ [] := by
  intro hnil
  exact h.ne_empty (String.toList_inj.1 hnil)

/-- Joined names start and end with a name. -/
theorem intercalate_ends : ∀ {names : List String}, (∀ name ∈ names, IsName name) → names ≠ [] →
    (['/'].intercalate (names.map String.toList)) ≠ [] ∧
      (['/'].intercalate (names.map String.toList)).head? ≠ some '/' ∧
      (['/'].intercalate (names.map String.toList)).getLast? ≠ some '/'
  | [], _, h => absurd rfl h
  | [name], h, _ => by
    have hname := h name List.mem_cons_self
    simp only [List.map_cons, List.map_nil, List.intercalate_singleton]
    refine ⟨toList_ne_nil hname, fun hhead => ?_, fun hlast => ?_⟩
    · exact hname.noSlash (List.mem_of_head? hhead)
    · exact hname.noSlash (List.mem_of_getLast? hlast)
  | name :: name' :: names, h, _ => by
    have hname := h name List.mem_cons_self
    obtain ⟨hne, -, hlast⟩ :=
      intercalate_ends (fun n hn => h n (List.mem_cons_of_mem _ hn)) (List.cons_ne_nil name' names)
    rw [List.map_cons] at hne hlast
    rw [List.map_cons, List.map_cons, List.intercalate_cons_cons, List.append_assoc, List.singleton_append]
    refine ⟨by simp, fun hhead => ?_, fun hlast' => hlast ?_⟩
    · obtain ⟨c, cs, hc⟩ := List.exists_cons_of_ne_nil (toList_ne_nil hname)
      rw [hc, List.cons_append, List.head?_cons] at hhead
      cases hhead
      exact hname.noSlash (hc ▸ List.mem_cons_self)
    · rw [List.getLast?_append, List.getLast?_cons] at hlast'
      obtain ⟨c, hc⟩ := Option.ne_none_iff_exists'.1 (mt List.getLast?_eq_none_iff.1 hne)
      rw [hc] at hlast' ⊢
      simpa using hlast'

theorem toList_text (p : Path) (h : p.parts ≠ []) :
    p.text.toList = p.anchor.text.toList ++ ['/'].intercalate (p.parts.map String.toList) := by
  obtain ⟨anchor, parts⟩ := p
  have htext : (Path.mk anchor parts).text = anchor.text ++ String.intercalate "/" parts := by
    rcases anchor with _ | _ | _ <;> rcases parts with _ | ⟨part, parts⟩ <;> first | rfl | exact absurd rfl h
  rw [htext, String.toList_append, String.toList_intercalate]
  rfl

namespace Path.Proper

variable {p : Path}

theorem isRooted_text (h : p.Proper) : isRooted p.text = p.isAbsolute := by
  by_cases hparts : p.parts = []
  · obtain ⟨anchor, parts⟩ := p
    obtain rfl : parts = [] := hparts
    cases anchor <;> rfl
  · obtain ⟨hne, hhead, -⟩ := intercalate_ends h hparts
    rw [isRooted, toList_text p hparts]
    obtain ⟨anchor, parts⟩ := p
    rcases anchor with _ | _ | _
    · simpa [Anchor.text, Path.isAbsolute] using hhead
    · simp [Anchor.text, Path.isAbsolute]
    · simp [Anchor.text, Path.isAbsolute]

theorem endsInSlash_text (h : p.Proper) (hparts : p.parts ≠ []) : endsInSlash p.text = false := by
  obtain ⟨hne, -, hlast⟩ := intercalate_ends h hparts
  rw [endsInSlash, toList_text p hparts, List.getLast?_append]
  obtain ⟨c, hc⟩ := Option.ne_none_iff_exists'.1 (mt List.getLast?_eq_none_iff.1 hne)
  rw [hc] at hlast ⊢
  simpa using hlast

theorem namesOf_text (h : p.Proper) (hparts : p.parts ≠ []) : namesOf p.text = p.parts := by
  rcases SqlTidy.namesOf_text p with hnames | ⟨hnil, -⟩
  · rw [hnames, List.flatMap_def,
      List.map_congr_left fun name hn => namesOf_of_not_mem (h name hn).noSlash (h name hn).ne_empty]
    simp [← List.flatMap_def]
  · exact absurd hnil hparts

/-- A path without parts takes a step on the spot. -/
theorem stepsOf_text (h : p.Proper) : stepsOf p.text = if p.parts = [] then ["."] else p.parts := by
  split
  · next hparts =>
    obtain ⟨anchor, parts⟩ := p
    obtain rfl : parts = [] := hparts
    cases anchor <;> rfl
  · next hparts => simp [stepsOf, h.namesOf_text hparts, h.endsInSlash_text hparts]

theorem text_ne_empty (h : p.Proper) : p.text ≠ "" := by
  intro hempty
  have hsteps := h.stepsOf_text
  rw [hempty] at hsteps
  split at hsteps
  · cases hsteps
  · next hparts => exact hparts hsteps.symm

end Path.Proper

/-- Strictly below a directory. -/
def Below (dir q : Position) : Prop := dir <:+ q ∧ q ≠ dir

theorem below_cons {dir d : Position} (h : dir <:+ d) (name : String) : Below dir (name :: d) := by
  refine ⟨h.trans (List.suffix_cons name d), fun heq => ?_⟩
  have hle := h.length_le
  rw [← heq, List.length_cons] at hle
  omega

namespace FileTree

variable {t t' : FileTree} {follow : Bool} {links : Nat} {d dir p : Position} {names rest : List String}
  {s s' : Spot}

/-! ## Walks -/

theorem Walked.unique (h : Walked t follow links d names s) (h' : Walked t follow links d names s') : s = s' :=
  Except.ok.inj (h.walkFrom_eq_ok.symm.trans h'.walkFrom_eq_ok)

theorem walked_dot_iff : Walked t follow links d ("." :: rest) s ↔ Walked t follow links d rest s := by
  rw [← walkFrom_eq_ok_iff, ← walkFrom_eq_ok_iff, walkFrom_eq, walkWith, if_pos rfl]

/-- Whether a last link is followed does not matter to a walk that ends at a free place. -/
theorem Walked.follow_free (h : Walked t false links d names s) (hs : s = .free p) :
    Walked t true links d names s := by
  induction h with
  | dot _ ih => exact .dot (ih hs)
  | up _ ih => exact .up (ih hs)
  | into hn hd _ ih => exact .into hn hd (ih hs)
  | through hn hl _ ht _ ih => exact .through hn hl (.inr rfl) ht (ih hs)
  | free hn hf hd => exact .free hn hf hd
  | _ => cases hs

/-- A walk comes to a directory before it goes on. -/
theorem Walked.split (hr : rest ≠ []) : ∀ {links : Nat} {d : Position} {names : List String},
    Walked t follow links d (names ++ rest) s →
      ∃ d', Walked t true links d names (.taken d' .directory) ∧
        ∃ links' ≤ links, Walked t follow links' d' rest s
  | links, d, [], h => ⟨d, .done, links, Nat.le_refl _, h⟩
  | links, d, name :: names, h => by
    rw [List.cons_append] at h
    generalize hafter : names ++ rest = after at h
    cases h with
    | dot h =>
      obtain ⟨d', h₁, h₂⟩ := split hr (hafter ▸ h)
      exact ⟨d', .dot h₁, h₂⟩
    | up h =>
      obtain ⟨d', h₁, h₂⟩ := split hr (hafter ▸ h)
      exact ⟨d', .up h₁, h₂⟩
    | into hn hd h =>
      obtain ⟨d', h₁, h₂⟩ := split hr (hafter ▸ h)
      exact ⟨d', .into hn hd h₁, h₂⟩
    | @through links _ _ _ target _ hn hl hf ht h =>
      -- Behind the link the walk takes the link's steps before the rest of the path.
      rw [← hafter, ← List.append_assoc] at h
      obtain ⟨d', h₁, links', hle, h₂⟩ := split hr h
      exact ⟨d', .through hn hl (.inr rfl) ht h₁, links', Nat.le_succ_of_le hle, h₂⟩
    | file | link | free => exact absurd (List.append_eq_nil_iff.1 hafter).2 hr
termination_by links _ names => (links, names.length)

/-- No link stands below a directory. -/
def NoLinkBelow (t : FileTree) (dir : Position) : Prop :=
  ∀ q target, Below dir q → t.at? q ≠ some (.link target)

theorem Walked.ends_below (h : Walked t follow links d names s) (hl : t.NoLinkBelow dir) (hd : dir <:+ d)
    (hn : ∀ name ∈ names, LeadsDown name) (hne : names ≠ []) : Below dir s.position := by
  induction h with
  | done => exact absurd rfl hne
  | dot => exact absurd rfl (hn _ List.mem_cons_self).ne_dot
  | up => exact absurd rfl (hn _ List.mem_cons_self).ne_dots
  | @into links d name after s _ _ hw ih =>
    rcases after with _ | ⟨next, after⟩
    · cases hw
      exact below_cons hd name
    · exact ih (hd.trans (List.suffix_cons name d)) (fun n hm => hn n (List.mem_cons_of_mem _ hm))
        (List.cons_ne_nil next after)
  | file | link | free => exact below_cons hd _
  | through _ hlink => exact absurd hlink (hl _ _ (below_cons hd _))

theorem Walked.position_eq {name : String} (h : Walked t follow links d [name] s) (hname : LeadsDown name)
    (hl : follow = true → ∀ target, t.at? (name :: d) ≠ some (.link target)) : s.position = name :: d := by
  cases h with
  | dot => exact absurd rfl hname.ne_dot
  | up => exact absurd rfl hname.ne_dots
  | into _ _ hdone =>
    cases hdone
    rfl
  | file | link | free => rfl
  | through _ hlink hr => exact absurd hlink (hl (hr.resolve_left (by simp)) _)

theorem Walked.mono_links {more : Nat} (h : Walked t follow links d names s) (hle : links ≤ more) :
    Walked t follow more d names s := by
  induction h generalizing more with
  | done => exact .done
  | dot _ ih => exact .dot (ih hle)
  | up _ ih => exact .up (ih hle)
  | into hn hd _ ih => exact .into hn hd (ih hle)
  | file hn hf => exact .file hn hf
  | link hn hl hf => exact .link hn hl hf
  | through hn hl hf ht _ ih =>
    obtain ⟨more, rfl⟩ : ∃ k, more = k + 1 := ⟨more - 1, by omega⟩
    exact .through hn hl hf ht (ih (Nat.le_of_succ_le_succ hle))
  | free hn hf hd => exact .free hn hf hd

/-- A free place to which a walk leads becomes a directory to which it leads. -/
theorem Grows.walked_made (h : Grows t t') (hw : Walked t false links d names s) (hs : s = .free p)
    (hp : t'.at? p = some .directory) : Walked t' true links d names (.taken p .directory) := by
  induction hw with
  | dot _ ih => exact .dot (ih hs)
  | up _ ih => exact .up (ih hs)
  | into hn hd _ ih => exact .into hn (h.directory hd) (ih hs)
  | through hn hl _ ht _ ih => exact .through hn (h.link hl) (.inr rfl) ht (ih hs)
  | free hn _ _ =>
    cases hs
    exact .into hn hp .done
  | _ => cases hs

/-! ## Paths in a tree -/

variable {path : Path}

/-- The directory that a path starts from. -/
def start (t : FileTree) (path : Path) : Position := if path.isAbsolute then [] else t.here

theorem walk_text_iff (h : path.Proper) : t.walk follow path.text = .ok s ↔
    path.text.utf8ByteSize < pathLimit ∧ Walked t follow linkLimit (t.start path) path.parts s := by
  have hstart : startOf t.here path.text = t.start path := by
    rw [startOf, h.isRooted_text, start]
  have hsteps : Walked t follow linkLimit (t.start path) (stepsOf path.text) s ↔
      Walked t follow linkLimit (t.start path) path.parts s := by
    rw [h.stepsOf_text]
    split
    · next hparts => rw [walked_dot_iff, hparts]
    · exact Iff.rfl
  rw [walk_eq_ok_iff, hstart, hsteps]
  exact and_iff_right h.text_ne_empty

/-- The directory that a path leads to, through at most so many links. -/
def Reaches (t : FileTree) (links : Nat) (path : Path) (dir : Position) : Prop :=
  Walked t true links (t.start path) path.parts (.taken dir .directory)

theorem Reaches.unique {dir' : Position} (h : t.Reaches links path dir) (h' : t.Reaches links path dir') :
    dir' = dir := by
  cases Walked.unique h h'
  rfl

theorem Grows.start_eq (h : Grows t t') (path : Path) : t'.start path = t.start path := by
  rw [start, start, h.here]

theorem Grows.reaches (h : Grows t t') (hr : t.Reaches links path dir) : t'.Reaches links path dir := by
  obtain ⟨e, hw, hk⟩ := h.walked_taken hr rfl
  cases hk
  rwa [Reaches, h.start_eq]

/-- A path to a name in a directory leads to that name there, unless a last link is followed. -/
theorem exists_of_walk_div {name : String} (h : path.Proper) (hname : LeadsDown name)
    (hw : t.walk follow (path / name).text = .ok s)
    (hl : follow = true → ∀ d, t.Reaches linkLimit path d → ∀ target, t.at? (name :: d) ≠ some (.link target)) :
    ∃ d, t.Reaches linkLimit path d ∧ s.position = name :: d := by
  obtain ⟨-, hwalked⟩ := (walk_text_iff (h.div hname.toIsName)).1 hw
  rw [Path.div_of_isName path hname.toIsName] at hwalked
  obtain ⟨d, hd, links, -, hlast⟩ := hwalked.split (List.cons_ne_nil name [])
  exact ⟨d, hd, hlast.position_eq hname fun hf => hl hf d hd⟩

theorem dropSlashes_of_endsInSlash {text : String} (h : endsInSlash text = false) :
    dropSlashes text = text := by
  rw [endsInSlash, beq_eq_false_iff_ne, List.getLast?_eq_head?_reverse] at h
  rw [dropSlashes]
  rcases hcs : text.toList.reverse with _ | ⟨c, cs⟩
  · exact String.toList_inj.1 (by simpa using hcs.symm)
  · rw [hcs, List.head?_cons, ne_eq, Option.some.injEq] at h
    rw [List.dropWhile_cons_of_neg (by simpa using h), ← hcs, List.reverse_reverse, String.ofList_toList]

theorem makeDirectory_text (h : path.Proper) (hm : t.makeDirectory path.text = .ok t') :
    ∃ p, Walked t false linkLimit (t.start path) path.parts (.free p) ∧ t' = t.set p .directory := by
  have hsame : (if (namesOf path.text).isEmpty then path.text else dropSlashes path.text) = path.text := by
    by_cases hparts : path.parts = []
    · obtain ⟨anchor, parts⟩ := path
      obtain rfl : parts = [] := hparts
      cases anchor <;> decide
    · rw [dropSlashes_of_endsInSlash (h.endsInSlash_text hparts), ite_self]
  rw [makeDirectory, hsame] at hm
  rcases hw : t.walk false path.text with e | ⟨p, e⟩ | p <;> rw [hw] at hm <;> cases hm
  exact ⟨p, ((walk_text_iff h).1 hw).2, rfl⟩

theorem reaches_of_makeDirectory (h : path.Proper) (hm : t.makeDirectory path.text = .ok t') :
    ∃ dir, t'.Reaches linkLimit path dir := by
  obtain ⟨p, hw, rfl⟩ := makeDirectory_text h hm
  have hfree : t.at? p = none := hw.at?_free rfl
  exact ⟨p, (grows_set_free hfree).walked_made hw rfl (at?_set_self (ne_nil_of_none hfree))⟩

theorem reaches_of_isDirectory (h : path.Proper) (hd : t.isDirectory path.text = true) :
    ∃ dir, t.Reaches linkLimit path dir := by
  rw [isDirectory, find] at hd
  rcases hw : t.walk true path.text with e | ⟨p, e | _ | _⟩ | p <;> rw [hw] at hd <;> cases hd
  exact ⟨p, ((walk_text_iff h).1 hw).2⟩

/-- A directory that has been made is there. -/
theorem reaches_of_makeDirectories (h : path.Proper)
    (hm : (Act.makeDirectories path).outcome t = (.ok (), t')) : ∃ dir, t'.Reaches linkLimit path dir := by
  have hpath : path = ⟨path.anchor, path.parts.reverse.reverse⟩ := by rw [List.reverse_reverse]
  rw [Act.makeDirectories] at hm
  rcases hnames : path.parts.reverse with _ | ⟨name, above⟩
  · rw [hnames] at hpath
    exact ⟨t'.start path, by rw [Reaches, hpath]; exact .done⟩
  rw [hnames] at hm hpath
  rw [Act.makeDirectoriesFrom, Act.outcome_ofOutcome, ← hpath] at hm
  split at hm
  · next hmade =>
    cases hm
    exact reaches_of_makeDirectory h hmade
  · split at hm
    · cases hm
    · split at hm
      · next hmade =>
        cases hm
        exact reaches_of_makeDirectory h hmade
      · split at hm
        · next hthere =>
          cases hm
          exact reaches_of_isDirectory h hthere.2
        · cases hm
  · split at hm
    · next hthere =>
      cases hm
      exact reaches_of_isDirectory h hthere
    · cases hm

end FileTree

end SqlTidy
