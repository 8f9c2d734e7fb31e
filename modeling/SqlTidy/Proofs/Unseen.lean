import SqlTidy.Proofs.SpokenNames

/-!
# A file that nothing speaks of

A tree that hides a file under a name which neither the tree nor a path speaks of is as good as the tree without
the file: every walk along the path goes the same way (`Hides.walk_eq`), so every call makes of both trees the
same. An action that speaks only of other names is blind to the file (`Act.Blind`): it ends in the same way with
and without it. Unpacking an archive is (`Zip.blind_unpack`).
-/

namespace SqlTidy

/-- The place that a path leads to. -/
def Spot.position : Spot → Position
  | .taken p _ => p
  | .free p => p

namespace FileTree

variable {t t' : FileTree} {n : String} {p q : Position} {e : Entry} {path : String} {follow : Bool}

/-- A tree with one more file, the way to which goes through a name that the tree does not speak of. -/
structure Hides (n : String) (p : Position) (t t' : FileTree) : Prop where
  erase : t'.erase p = t
  mem : n ∈ p
  ne_dot : n ≠ "."
  here : n ∉ t.here
  link : ∀ {q target}, t.at? q = some (.link target) → n ∉ namesOf target

theorem mem_entries_of_at? (hq : q ≠ []) (h : t.at? q = some e) : (q, e) ∈ t.entries := by
  rcases q with _ | ⟨name, q⟩
  · exact absurd rfl hq
  · obtain ⟨before, after, hes, -⟩ := List.lookup_eq_some_iff.1 h
    rw [hes]
    exact List.mem_append_right _ List.mem_cons_self

theorem mem_entries_of_link {target : String} (h : t.at? q = some (.link target)) :
    (q, .link target) ∈ t.entries := by
  refine mem_entries_of_at? ?_ h
  rintro rfl
  cases h

namespace Hides

theorem here_eq (h : Hides n p t t') : t'.here = t.here := by
  rw [← h.erase]
  rfl

theorem at?_eq (h : Hides n p t t') (hq : n ∉ q) : t'.at? q = t.at? q := by
  have hne : q ≠ p := by
    rintro rfl
    exact hq h.mem
  rw [← h.erase, at?_erase_of_ne hne]

theorem not_mem_stepsOf (h : Hides n p t t') (hn : n ∉ namesOf path) : n ∉ stepsOf path := by
  rw [stepsOf, List.mem_append, not_or]
  refine ⟨hn, ?_⟩
  split
  · simpa using h.ne_dot
  · exact List.not_mem_nil

theorem not_mem_startOf (hq : n ∉ q) (path : String) : n ∉ startOf q path := by
  rw [startOf]
  split
  · exact List.not_mem_nil
  · exact hq

/-! ## Walks -/

/-- A step of a walk looks up names that are spoken of, and so does what comes behind a link. -/
theorem walkWith_eq (h : Hides n p t t') {onLink onLink' : Position → List String → Except Cause Spot}
    (hon : ∀ d names, n ∉ d → n ∉ names → onLink' d names = onLink d names) :
    ∀ (names : List String) (d : Position), n ∉ d → n ∉ names →
      walkWith onLink' t' follow d names = walkWith onLink t follow d names
  | [], d, _, _ => by rw [walkWith, walkWith]
  | name :: rest, d, hd, hn => by
    simp only [List.mem_cons, not_or] at hn
    have hdown : n ∉ name :: d := by simp [hn.1, hd]
    -- Both walks look up the same two places, and neither is the hidden one.
    rw [walkWith, walkWith, h.at?_eq hdown, h.at?_eq hd]
    split
    · exact walkWith_eq h hon rest d hd hn.2
    split
    · exact walkWith_eq h hon rest d.tail (fun hm => hd (List.mem_of_mem_tail hm)) hn.2
    split
    · rfl
    split
    · rfl
    · exact walkWith_eq h hon rest (name :: d) hdown hn.2
    · rfl
    · next target hl =>
      have hsteps : n ∉ stepsOf target ++ rest := by
        simp [h.not_mem_stepsOf (h.link hl), hn.2]
      rw [hon _ _ (not_mem_startOf hd target) hsteps]

theorem walkFrom_eq (h : Hides n p t t') : ∀ (links : Nat) (d : Position) (names : List String), n ∉ d →
    n ∉ names → walkFrom t' follow links d names = walkFrom t follow links d names
  | 0, d, names, hd, hn => h.walkWith_eq (fun _ _ _ _ => rfl) names d hd hn
  | links + 1, d, names, hd, hn => h.walkWith_eq (walkFrom_eq h links) names d hd hn

theorem walk_eq (h : Hides n p t t') (hn : n ∉ namesOf path) : t'.walk follow path = t.walk follow path := by
  rw [walk, walk, h.here_eq, h.walkFrom_eq _ _ _ (not_mem_startOf h.here path) (h.not_mem_stepsOf hn)]

/-- A walk does not come to a name that is not spoken of. -/
theorem not_mem_position_of_walked {links : Nat} {d : Position} {names : List String} {s : Spot}
    (h : Hides n p t t') (hw : Walked t follow links d names s) (hd : n ∉ d) (hn : n ∉ names) :
    n ∉ s.position := by
  induction hw with
  | done => exact hd
  | dot _ ih => exact ih hd fun hm => hn (List.mem_cons_of_mem _ hm)
  | up _ ih =>
    exact ih (fun hm => hd (List.mem_of_mem_tail hm)) fun hm => hn (List.mem_cons_of_mem _ hm)
  | into _ _ _ ih =>
    simp only [List.mem_cons, not_or] at hn
    exact ih (by simp [hn.1, hd]) hn.2
  | file | link | free =>
    simp only [List.mem_cons, not_or] at hn
    simp [Spot.position, hn.1, hd]
  | through _ hl _ _ _ ih =>
    simp only [List.mem_cons, not_or] at hn
    exact ih (not_mem_startOf hd _) (by simp [h.not_mem_stepsOf (h.link hl), hn.2])

theorem not_mem_position {s : Spot} (h : Hides n p t t') (hn : n ∉ namesOf path)
    (hw : t.walk follow path = .ok s) : n ∉ s.position :=
  h.not_mem_position_of_walked (walk_eq_ok_iff.1 hw).2.2 (not_mem_startOf h.here path) (h.not_mem_stepsOf hn)

end Hides

/-! ## Calls -/

theorem filter_setEntries_of_ne (h : q ≠ p) : ∀ es : List (Position × Entry),
    (setEntries q e es).filter (fun x => x.1 ≠ p) = setEntries q e (es.filter fun x => x.1 ≠ p)
  | [] => by simp [setEntries, h]
  | (r, f) :: es => by
    have ih := filter_setEntries_of_ne h es
    by_cases hr : r = q
    · subst hr
      simp [setEntries, h]
    · by_cases hp : r = p
      · subst hp
        simpa [setEntries, hr] using ih
      · simpa [setEntries, hr, hp] using ih

theorem erase_set_of_ne (h : q ≠ p) : (t.set q e).erase p = (t.erase p).set q e := by
  simp only [erase, set, filter_setEntries_of_ne h]

/-- Two outcomes of a call on a tree without and with a hidden file. -/
inductive Alike (n : String) (p : Position) : Except Cause FileTree → Except Cause FileTree → Prop
  | ok {t t' : FileTree} : Hides n p t t' → Alike n p (.ok t) (.ok t')
  | error (cause : Cause) : Alike n p (.error cause) (.error cause)

namespace Hides

theorem set (h : Hides n p t t') (hq : n ∉ q) (he : n ∉ e.spokenNames) :
    Hides n p (t.set q e) (t'.set q e) where
  erase := by
    have hne : q ≠ p := by
      rintro rfl
      exact hq h.mem
    rw [erase_set_of_ne hne, h.erase]
  mem := h.mem
  ne_dot := h.ne_dot
  here := h.here
  link {r target} hl := by
    by_cases hr : r = q
    · subst hr
      rcases r with _ | ⟨name, r⟩
      · cases hl
      · rw [at?_set_self (by simp)] at hl
        cases hl
        exact he
    · rw [at?_set_of_ne hr] at hl
      exact h.link hl

theorem find_eq (h : Hides n p t t') (hn : n ∉ namesOf path) : t'.find path = t.find path := by
  rw [find, find, h.walk_eq hn]

theorem leads_eq (h : Hides n p t t') (hn : n ∉ namesOf path) : t'.leads path = t.leads path := by
  rw [leads, leads, h.find_eq hn]

theorem isDirectory_eq (h : Hides n p t t') (hn : n ∉ namesOf path) :
    t'.isDirectory path = t.isDirectory path := by
  rw [isDirectory, isDirectory, h.find_eq hn]

theorem makeDirectory (h : Hides n p t t') (hn : n ∉ namesOf path) :
    Alike n p (t.makeDirectory path) (t'.makeDirectory path) := by
  have hn' : n ∉ namesOf (if (namesOf path).isEmpty then path else dropSlashes path) := by
    split
    · exact hn
    · exact fun hm => hn (mem_namesOf_dropSlashes hm)
  rw [FileTree.makeDirectory, FileTree.makeDirectory, h.walk_eq hn']
  rcases hw : t.walk false (if (namesOf path).isEmpty then path else dropSlashes path) with
    cause | ⟨q, e⟩ | q
  · exact .error cause
  · exact .error .alreadyThere
  · exact .ok (h.set (h.not_mem_position hn' hw) List.not_mem_nil)

theorem refusals_eq (h : Hides n p t t') : t'.refusals = t.refusals := by
  rw [← h.erase]
  rfl

theorem target_eq (h : Hides n p t t') (hn : n ∉ namesOf path) : t'.target path = t.target path := by
  rw [target, target, h.walk_eq hn, h.walk_eq fun hm => hn (mem_namesOf_dropSlashes hm), h.refusals_eq]

theorem write (h : Hides n p t t') (hn : n ∉ namesOf path) (content : Octets) :
    Alike n p (t.write path content) (t'.write path content) := by
  rw [FileTree.write, FileTree.write, h.target_eq hn]
  rcases ht : t.target path with cause | ⟨q, content₀, mode⟩
  · exact .error cause
  · have hq : n ∉ q := by
      rcases target_eq_ok ht with hw | hw <;> exact h.not_mem_position hn hw
    exact .ok (h.set hq List.not_mem_nil)

end Hides

end FileTree

/-! ## Actions -/

namespace Act

open FileTree

variable {ε δ α β : Type} {n : String} {p : Position}

/-- An action that ends in the same way with and without a hidden file. -/
def Blind (n : String) (p : Position) (x : Act ε α) : Prop := ∀ ⦃t t'⦄, Hides n p t t' →
  (x.outcome t').1 = (x.outcome t).1 ∧ Hides n p (x.outcome t).2 (x.outcome t').2

theorem blind_pure (a : α) : Blind n p (pure a : Act ε α) := fun _ _ h => ⟨rfl, h⟩

theorem blind_fail (e : ε) : Blind n p (fail e : Act ε α) := fun _ _ h => ⟨rfl, h⟩

theorem blind_look {f : FileTree → α} (hf : ∀ {t t'}, Hides n p t t' → f t' = f t) :
    Blind n p (look f : Act ε α) := fun _ _ h => ⟨congrArg Except.ok (hf h), h⟩

theorem Blind.exists_outcomes {x : Act ε α} {t t' : FileTree} (hx : x.Blind n p) (h : Hides n p t t') :
    ∃ r t₁ t₁', x.outcome t = (r, t₁) ∧ x.outcome t' = (r, t₁') ∧ Hides n p t₁ t₁' :=
  ⟨(x.outcome t).1, (x.outcome t).2, (x.outcome t').2, rfl, Prod.ext (hx h).1 rfl, (hx h).2⟩

theorem Blind.bind {x : Act ε α} {f : α → Act ε β} (hx : x.Blind n p) (hf : ∀ a, (f a).Blind n p) :
    (x >>= f).Blind n p := by
  intro t t' h
  obtain ⟨r, t₁, t₁', hr, hr', h₁⟩ := hx.exists_outcomes h
  rcases r with e | a
  · rw [outcome_bind_of_error hr, outcome_bind_of_error hr']
    exact ⟨rfl, h₁⟩
  · rw [outcome_bind_of_ok hr, outcome_bind_of_ok hr']
    exact hf a h₁

theorem Blind.mapError {x : Act ε α} (hx : x.Blind n p) (f : ε → δ) : (x.mapError f).Blind n p :=
  fun _ _ h => ⟨congrArg (Except.mapError f) (hx h).1, (hx h).2⟩

theorem blind_call {path : String} {f : FileTree → Except Cause FileTree}
    (hf : ∀ {t t'}, Hides n p t t' → Alike n p (f t) (f t')) : (call path f).Blind n p := by
  intro t t' h
  have ha := hf h
  rw [call, outcome_ofOutcome, outcome_ofOutcome]
  generalize f t = x at ha
  generalize f t' = x' at ha
  cases ha with
  | ok h' => exact ⟨rfl, h'⟩
  | error cause => exact ⟨rfl, h⟩

theorem Blind.forM {f : α → Act ε PUnit} : ∀ {xs : List α}, (∀ x ∈ xs, (f x).Blind n p) →
    (List.forM xs f).Blind n p
  | [], _ => blind_pure _
  | x :: _, hf => (hf x List.mem_cons_self).bind fun _ =>
    Blind.forM fun y hy => hf y (List.mem_cons_of_mem x hy)

end Act

/-! ## Unpacking -/

namespace Zip

open FileTree Act

variable {n : String} {p : Position} {bs : Octets} {destination : Path} {m : Member}

/-- Creates the directories above a name, unless they are there. A directory that has come to be there
meanwhile is no error. -/
def makeUpper (anchor : Anchor) (above : List String) : Act IoError Unit :=
  Act.ofOutcome fun t =>
    if above.isEmpty || t.leads (Path.mk anchor above.reverse).text then (.ok (), t)
    else
      match (makeMissing anchor above).outcome t with
      | (.error e, t) => if e.cause = .alreadyThere then (.ok (), t) else (.error e, t)
      | r => r

theorem makeMissing_cons (anchor : Anchor) (name : String) (above : List String) :
    makeMissing anchor (name :: above) = (makeUpper anchor above >>= fun _ =>
      Act.call (Path.mk anchor (name :: above).reverse).text fun t =>
        t.makeDirectory (Path.mk anchor (name :: above).reverse).text) := by
  refine Act.ext fun t => ?_
  rw [makeMissing, Act.outcome_bind, makeUpper, Act.outcome_ofOutcome, Act.outcome_ofOutcome]
  dsimp only
  generalize (if (above.isEmpty || t.leads _) = true then _ else _) = x
  obtain ⟨e | _, t₁⟩ := x <;> rfl

theorem blind_makeMissing (hd : n ≠ ".") (anchor : Anchor) : ∀ {names : List String},
    (∀ name ∈ names, n ∉ namesOf name) → (makeMissing anchor names).Blind n p
  | [], _ => blind_pure _
  | name :: above, hn => by
    have habove : ∀ name ∈ above, n ∉ namesOf name := fun other hm => hn other (List.mem_cons_of_mem _ hm)
    have havoids : (Path.mk anchor (name :: above).reverse).Avoids n :=
      fun part hp => hn part (List.mem_reverse.1 hp)
    have hupper : (Path.mk anchor above.reverse).Avoids n := fun part hp => habove part (List.mem_reverse.1 hp)
    have ih : (makeMissing anchor above).Blind n p := blind_makeMissing hd anchor habove
    have hblind : (makeUpper anchor above).Blind n p := by
      intro t t' h
      obtain ⟨r, t₁, t₁', hr, hr', h₁⟩ := ih.exists_outcomes h
      rw [makeUpper, Act.outcome_ofOutcome, Act.outcome_ofOutcome, h.leads_eq (hupper.not_mem_text hd), hr, hr']
      split
      · exact ⟨rfl, h⟩
      rcases r with e | _
      · dsimp only
        split <;> exact ⟨rfl, h₁⟩
      · exact ⟨rfl, h₁⟩
    rw [makeMissing_cons]
    exact hblind.bind fun _ => blind_call fun h => h.makeDirectory (havoids.not_mem_text hd)

theorem blind_makeRoom (hd : n ≠ ".") (h : (target destination m).Avoids n) :
    (makeRoom destination m).Blind n p := by
  refine (blind_look fun hh => ?_).bind fun isThere => ?_
  · rw [hh.leads_eq (h.parent.not_mem_text hd)]
  · split
    · exact (blind_makeMissing hd _ fun part hp => h.parent part (List.mem_reverse.1 hp)).mapError _
    · exact blind_pure _

theorem blind_writeMember {path : String} (hn : n ∉ namesOf path) (bs : Octets) (m : Member) :
    (writeMember bs m path).Blind n p := by
  intro t t' h
  rw [writeMember, Act.outcome_ofOutcome, Act.outcome_ofOutcome]
  split
  · exact ⟨rfl, h⟩
  next start decoder hs =>
  have hw := h.write hn []
  generalize t.write path [] = x at hw
  generalize t'.write path [] = x' at hw
  cases hw with
  | error cause => exact ⟨rfl, h⟩
  | @ok t₁ t₁' h₁ =>
    have hw := h₁.write hn (content bs m start decoder).1
    dsimp only
    generalize t₁.write path (content bs m start decoder).1 = y at hw
    generalize t₁'.write path (content bs m start decoder).1 = y' at hw
    cases hw with
    | error cause => exact ⟨rfl, h₁⟩
    | ok h₂ => exact ⟨rfl, h₂⟩

theorem blind_place {path : Path} (hn : n ∉ namesOf path.text) (bs : Octets) (m : Member) :
    (place bs path m).Blind n p := by
  rw [place]
  split
  · exact blind_fail _
  split
  · refine (blind_look fun h => h.isDirectory_eq hn).bind fun isThere => ?_
    split
    · exact (blind_call fun h => h.makeDirectory hn).mapError _
    · exact blind_pure _
  · exact blind_writeMember hn bs m

theorem blind_unpackMember (hd : n ≠ ".") (hdest : destination.Avoids n) (hm : n ∉ namesOf m.name) :
    (unpackMember bs destination m).Blind n p := by
  have h : (target destination m).Avoids n := target_avoids hdest hm
  rw [unpackMember_eq]
  exact (blind_makeRoom hd h).bind fun _ => blind_place (h.not_mem_text hd) bs m

/-- Unpacking does not see a file under a name that neither the archive nor the destination speaks of. -/
theorem blind_unpack (hd : n ≠ ".") (hdest : destination.Avoids n) (hn : n ∉ spokenNames bs) :
    (unpack bs destination).Blind n p := by
  rcases hm : members bs with e | ms
  · intro t t' h
    rw [unpack_of_error hm, unpack_of_error hm]
    exact ⟨rfl, h⟩
  · rw [unpack_of_members hm]
    simp only [spokenNames, hm, List.mem_flatMap, not_exists, not_and] at hn
    exact Blind.forM fun m hmem => blind_unpackMember hd hdest (hn _ (lastNamed_mem hmem))

end Zip

theorem blind_unpackArchive {n : String} {p : Position} {octets : Octets} {destination : Path} (name : String)
    (hd : n ≠ ".") (hdest : destination.Avoids n) (hn : n ∉ Zip.spokenNames octets) :
    (unpackArchive name octets destination).Blind n p := by
  refine Act.Blind.mapError ?_ _
  split
  · exact fun _ _ h => ⟨rfl, h⟩
  · exact Zip.blind_unpack hd hdest hn

/-! ## The temporary file -/

namespace Downloader

open FileTree

variable {d : Downloader} {t : FileTree} {destination : Path} {body : Octets} {p : Position}

theorem Fresh.hides (hf : d.Fresh t destination body) (h : d.TemporaryAt t destination p) (octets : Octets) :
    Hides (d.drawnName t destination) p t (t.holding p octets) where
  erase := h.erase_holding octets
  mem := h.mem
  ne_dot := d.drawnName_ne_dot t destination
  here hm := hf.tree (List.mem_append_left _ hm)
  link hl hm := hf.tree (List.mem_append_right _
    (List.mem_flatMap.2 ⟨_, mem_entries_of_link hl, List.mem_append_right _ hm⟩))

/-- Unpacking a body beside its temporary file, which is removed afterwards, comes to the same as unpacking it
without the file. -/
theorem Fresh.unpackArchive_eq (hf : d.Fresh t destination body) (h : d.TemporaryAt t destination p)
    (name : String) :
    (((unpackArchive name body destination).outcome (t.holding p body)).1,
      ((unpackArchive name body destination).outcome (t.holding p body)).2.erase p) =
      (unpackArchive name body destination).outcome t := by
  obtain ⟨hr, ht⟩ := blind_unpackArchive name (d.drawnName_ne_dot t destination) hf.path hf.archive
    (hf.hides h body)
  exact Prod.ext hr ht.erase

end Downloader

end SqlTidy
