import SqlTidy.Proofs.Outcome
import SqlTidy.Proofs.Trace

/-!
# Growth of a file tree

A tree grows if everything that stands in it keeps its place and its kind: a file may get another
content, a directory and a link stay as they are. All calls but removals let a tree grow. What a path
leads to in a tree, it leads to in every tree that has grown from it (`Grows.walk_taken`), so what is
there stays there. A path that leads to a free place leads to the file that is put there
(`Grows.walk_free`).
-/

namespace SqlTidy

/-- What may come of an entry in a tree that grows. -/
inductive Entry.Keeps : Entry → Entry → Prop
  | refl (e : Entry) : Keeps e e
  | file (content content' : Octets) (mode mode' : Nat) :
      Keeps (.file content mode) (.file content' mode')

theorem Entry.Keeps.trans {e e' e'' : Entry} (h : e.Keeps e') (h' : e'.Keeps e'') : e.Keeps e'' := by
  cases h with
  | refl => exact h'
  | file => cases h' <;> exact .file ..

namespace FileTree

variable {t t' t'' : FileTree} {p q : Position} {e e' : Entry} {follow follow' : Bool} {path : String}

/-! ## Entries -/

theorem lookup_cons_ite (q r : Position) (f : Entry) (es : List (Position × Entry)) :
    ((r, f) :: es).lookup q = if q = r then some f else es.lookup q := by
  by_cases h : q = r
  · simp [h]
  · simp [List.lookup_cons, h, beq_false_of_ne h]

theorem lookup_setEntries (p q : Position) (e : Entry) : ∀ es : List (Position × Entry),
    (setEntries p e es).lookup q = if q = p then some e else es.lookup q
  | [] => lookup_cons_ite q p e []
  | (r, f) :: es => by
    rw [setEntries]
    split
    · next hr =>
      subst hr
      simp only [lookup_cons_ite]
      split <;> rfl
    · next hr =>
      rw [lookup_cons_ite, lookup_cons_ite, lookup_setEntries p q e es]
      by_cases h : q = r
      · rw [if_pos h, if_pos h, if_neg (h ▸ hr)]
      · rw [if_neg h, if_neg h]

theorem lookup_filter_ne (p q : Position) : ∀ es : List (Position × Entry),
    (es.filter fun x => x.1 ≠ p).lookup q = if q = p then none else es.lookup q
  | [] => by simp
  | (r, f) :: es => by
    have ih := lookup_filter_ne p q es
    by_cases hr : r = p
    · rw [List.filter_cons_of_neg (by simp [hr]), ih, lookup_cons_ite, hr]
      by_cases h : q = p
      · rw [if_pos h, if_pos h]
      · rw [if_neg h, if_neg h, if_neg h]
    · rw [List.filter_cons_of_pos (by simp [hr]), lookup_cons_ite, lookup_cons_ite, ih]
      by_cases h : q = r
      · rw [if_pos h, if_pos h, if_neg (h ▸ hr)]
      · rw [if_neg h, if_neg h]

theorem at?_set_self (hp : p ≠ []) : (t.set p e).at? p = some e := by
  cases p with
  | nil => exact absurd rfl hp
  | cons n p => simp [at?, set, lookup_setEntries]

theorem at?_set_of_ne (h : q ≠ p) : (t.set p e).at? q = t.at? q := by
  cases q with
  | nil => rfl
  | cons n q => simp [at?, set, lookup_setEntries, h]

theorem at?_erase_self (hp : p ≠ []) : (t.erase p).at? p = none := by
  cases p with
  | nil => exact absurd rfl hp
  | cons n p =>
    simp only [at?, erase]
    rw [lookup_filter_ne, if_pos rfl]

theorem at?_erase_of_ne (h : q ≠ p) : (t.erase p).at? q = t.at? q := by
  cases q with
  | nil => rfl
  | cons n q =>
    simp only [at?, erase]
    rw [lookup_filter_ne, if_neg h]

theorem ne_nil_of_none (h : t.at? p = none) : p ≠ [] := by
  rintro rfl
  cases h

theorem ne_nil_of_file {content : Octets} {mode : Nat} (h : t.at? p = some (.file content mode)) :
    p ≠ [] := by
  rintro rfl
  cases h

theorem filter_setEntries (p : Position) (e : Entry) : ∀ es : List (Position × Entry),
    es.lookup p = none → (setEntries p e es).filter (fun x => x.1 ≠ p) = es
  | [], _ => by simp [setEntries]
  | (r, f) :: es, h => by
    rw [lookup_cons_ite] at h
    have hr : ¬ r = p := by
      rintro rfl
      simp at h
    rw [if_neg fun hp => hr hp.symm] at h
    rw [setEntries, if_neg hr, List.filter_cons_of_pos (by simp [hr]), filter_setEntries p e es h]

theorem setEntries_setEntries (p : Position) (e e' : Entry) : ∀ es : List (Position × Entry),
    setEntries p e' (setEntries p e es) = setEntries p e' es
  | [] => by simp [setEntries]
  | (r, f) :: es => by
    by_cases hr : r = p
    · simp [setEntries, hr]
    · simp [setEntries, hr, setEntries_setEntries p e e' es]

theorem set_set : (t.set p e).set p e' = t.set p e' := by
  simp only [set, setEntries_setEntries]

/-- Putting something at a place that is free and taking it away again changes nothing. -/
theorem erase_set (h : t.at? p = none) : (t.set p e).erase p = t := by
  cases p with
  | nil => cases h
  | cons n p =>
    simp only [erase, set]
    rw [filter_setEntries _ _ _ h]

/-! ## Growth -/

structure Grows (t t' : FileTree) : Prop where
  here : t'.here = t.here
  keeps : ∀ {p e}, t.at? p = some e → ∃ e', t'.at? p = some e' ∧ e.Keeps e'

theorem Grows.refl (t : FileTree) : Grows t t := ⟨rfl, fun h => ⟨_, h, .refl _⟩⟩

theorem Grows.trans (h : Grows t t') (h' : Grows t' t'') : Grows t t'' where
  here := h'.here.trans h.here
  keeps he := by
    obtain ⟨e', he', hk⟩ := h.keeps he
    obtain ⟨e'', he'', hk'⟩ := h'.keeps he'
    exact ⟨e'', he'', hk.trans hk'⟩

theorem grows_set_free (h : t.at? p = none) : Grows t (t.set p e) where
  here := rfl
  keeps {q e'} he := by
    have hq : q ≠ p := by
      rintro rfl
      rw [h] at he
      cases he
    exact ⟨e', by rw [at?_set_of_ne hq, he], .refl _⟩

theorem grows_set_file {content content' : Octets} {mode mode' : Nat}
    (h : t.at? p = some (.file content mode)) : Grows t (t.set p (.file content' mode')) where
  here := rfl
  keeps {q e'} he := by
    by_cases hq : q = p
    · subst hq
      rw [h] at he
      cases he
      exact ⟨_, at?_set_self (ne_nil_of_file h), .file ..⟩
    · exact ⟨e', by rw [at?_set_of_ne hq, he], .refl _⟩

theorem Grows.directory (h : Grows t t') (hp : t.at? p = some .directory) : t'.at? p = some .directory := by
  obtain ⟨e', he', hk⟩ := h.keeps hp
  cases hk
  exact he'

theorem Grows.link {target : String} (h : Grows t t') (hp : t.at? p = some (.link target)) :
    t'.at? p = some (.link target) := by
  obtain ⟨e', he', hk⟩ := h.keeps hp
  cases hk
  exact he'

theorem Grows.file {content : Octets} {mode : Nat} (h : Grows t t')
    (hp : t.at? p = some (.file content mode)) :
    ∃ content' mode', t'.at? p = some (.file content' mode') := by
  obtain ⟨e', he', hk⟩ := h.keeps hp
  cases hk <;> exact ⟨_, _, he'⟩

theorem Grows.erase (h : Grows t t') (p : Position) : Grows (t.erase p) (t'.erase p) where
  here := h.here
  keeps {q e} he := by
    by_cases hq : q = p
    · subst hq
      cases q with
      | nil => exact ⟨e, he, .refl _⟩
      | cons n q =>
        rw [at?_erase_self (by simp)] at he
        cases he
    · rw [at?_erase_of_ne hq] at he ⊢
      exact h.keeps he

/-! ## Walks

`Walked` has one rule for each step that a walk can take; a walk that ends somewhere is made of such
steps (`walkFrom_eq_ok_iff`). -/

/-- A name that is looked up in a directory. -/
structure Plain (name : String) : Prop where
  ne_dot : name ≠ "."
  ne_dots : name ≠ ".."
  short : name.utf8ByteSize ≤ nameLimit

/-- The walks from a directory through at most so many links, with what they end at. -/
inductive Walked (t : FileTree) (follow : Bool) : Nat → Position → List String → Spot → Prop
  | done {links d} : Walked t follow links d [] (.taken d .directory)
  | dot {links d rest s} : Walked t follow links d rest s → Walked t follow links d ("." :: rest) s
  | up {links d rest s} : Walked t follow links d.tail rest s →
      Walked t follow links d (".." :: rest) s
  | into {links d name rest s} : Plain name → t.at? (name :: d) = some .directory →
      Walked t follow links (name :: d) rest s → Walked t follow links d (name :: rest) s
  | file {links d name content mode} : Plain name → t.at? (name :: d) = some (.file content mode) →
      Walked t follow links d [name] (.taken (name :: d) (.file content mode))
  | link {links d name target} : Plain name → t.at? (name :: d) = some (.link target) →
      follow = false → Walked t follow links d [name] (.taken (name :: d) (.link target))
  | through {links d name rest target s} : Plain name → t.at? (name :: d) = some (.link target) →
      (rest ≠ [] ∨ follow = true) → target ≠ "" →
      Walked t follow links (startOf d target) (stepsOf target ++ rest) s →
      Walked t follow (links + 1) d (name :: rest) s
  | free {links d name} : Plain name → t.at? (name :: d) = none → t.at? d = some .directory →
      Walked t follow links d [name] (.free (name :: d))

/-- What a walk does behind a link. -/
def behindLink (t : FileTree) (follow : Bool) : Nat → Position → List String → Except Cause Spot
  | 0 => fun _ _ => .error .tooManyLinks
  | links + 1 => walkFrom t follow links

theorem walkFrom_eq (t : FileTree) (follow : Bool) (links : Nat) :
    walkFrom t follow links = walkWith (behindLink t follow links) t follow := by
  cases links <;> rfl

theorem walkWith_plain {onLink : Position → List String → Except Cause Spot} {d : Position}
    {name : String} {rest : List String} (hn : Plain name) :
    walkWith onLink t follow d (name :: rest) =
      match t.at? (name :: d) with
      | none => if rest.isEmpty && t.at? d == some .directory then .ok (.free (name :: d)) else .error .noEntry
      | some .directory => walkWith onLink t follow (name :: d) rest
      | some (.file content mode) =>
        if rest.isEmpty then .ok (.taken (name :: d) (.file content mode)) else .error .notDirectory
      | some (.link target) =>
        if rest.isEmpty && !follow then .ok (.taken (name :: d) (.link target))
        else if target = "" then .error .noEntry
        else onLink (startOf d target) (stepsOf target ++ rest) := by
  refine (if_neg hn.ne_dot).trans ?_
  refine (if_neg hn.ne_dots).trans ?_
  exact if_neg (Nat.not_lt.2 hn.short)

theorem Walked.walkFrom_eq_ok {links : Nat} {d : Position} {names : List String} {s : Spot}
    (h : Walked t follow links d names s) : walkFrom t follow links d names = .ok s := by
  induction h with
  | done => simp [walkFrom_eq, walkWith]
  | dot _ ih => rw [← ih, walkFrom_eq, walkWith, if_pos rfl]
  | up _ ih => rw [← ih, walkFrom_eq, walkWith, if_neg (by decide), if_pos rfl]
  | into hn hd _ ih => rw [← ih, walkFrom_eq, walkWith_plain hn, hd]
  | file hn hf => simp [walkFrom_eq, walkWith_plain hn, hf]
  | link hn hl hw => simp [walkFrom_eq, walkWith_plain hn, hl, hw]
  | through hn hl hr ht _ ih =>
    rw [← ih, walkFrom_eq, walkWith_plain hn, hl]
    rcases hr with hr | hr <;> simp [hr, ht, behindLink]
  | free hn hf hd => simp [walkFrom_eq, walkWith_plain hn, hf, hd]

theorem Walked.of_walkFrom {s : Spot} : ∀ {links : Nat} {d : Position} {names : List String},
    walkFrom t follow links d names = .ok s → Walked t follow links d names s
  | links, d, [], h => by
    simp only [walkFrom_eq, walkWith] at h
    cases h
    exact .done
  | links, d, name :: rest, h => by
    rw [walkFrom_eq] at h
    by_cases h1 : name = "."
    · subst h1
      rw [walkWith, if_pos rfl, ← walkFrom_eq] at h
      exact .dot (of_walkFrom h)
    by_cases h2 : name = ".."
    · subst h2
      rw [walkWith, if_neg h1, if_pos rfl, ← walkFrom_eq] at h
      exact .up (of_walkFrom h)
    by_cases h3 : nameLimit < name.utf8ByteSize
    · rw [walkWith, if_neg h1, if_neg h2, if_pos h3] at h
      cases h
    have hn : Plain name := ⟨h1, h2, Nat.not_lt.1 h3⟩
    rw [walkWith_plain hn] at h
    split at h
    · next hf =>
      split at h
      · next hr =>
        simp only [Bool.and_eq_true, List.isEmpty_iff, beq_iff_eq] at hr
        obtain ⟨rfl, hd⟩ := hr
        cases h
        exact .free hn hf hd
      · cases h
    · next hd =>
      rw [← walkFrom_eq] at h
      exact .into hn hd (of_walkFrom h)
    · next hf =>
      split at h
      · next hr =>
        cases h
        obtain rfl := List.isEmpty_iff.1 hr
        exact .file hn hf
      · cases h
    · next hl =>
      split at h
      · next hr =>
        simp only [Bool.and_eq_true, List.isEmpty_iff, Bool.not_eq_true'] at hr
        obtain ⟨rfl, hw⟩ := hr
        cases h
        exact .link hn hl hw
      next hr =>
      split at h
      · cases h
      next ht =>
      have hr' : rest ≠ [] ∨ follow = true := by
        simpa [Classical.or_iff_not_imp_left] using hr
      rcases hk : links with _ | links'
      · rw [hk] at h
        cases h
      · rw [hk] at h
        exact .through hn hl hr' ht (of_walkFrom h)
termination_by links _ names => (links, names.length)

theorem walkFrom_eq_ok_iff {links : Nat} {d : Position} {names : List String} {s : Spot} :
    walkFrom t follow links d names = .ok s ↔ Walked t follow links d names s :=
  ⟨.of_walkFrom, Walked.walkFrom_eq_ok⟩

variable {links : Nat} {d : Position} {names : List String} {s : Spot} {content : Octets} {mode : Nat}

theorem Walked.at?_free (h : Walked t follow links d names s) (hs : s = .free p) : t.at? p = none := by
  induction h with
  | free _ hf _ =>
    cases hs
    exact hf
  | dot _ ih | up _ ih | into _ _ _ ih | through _ _ _ _ _ ih => exact ih hs
  | _ => cases hs

theorem Walked.at?_file (h : Walked t follow links d names s) (hs : s = .taken p (.file content mode)) :
    t.at? p = some (.file content mode) := by
  induction h with
  | file _ hf =>
    cases hs
    exact hf
  | dot _ ih | up _ ih | into _ _ _ ih | through _ _ _ _ _ ih => exact ih hs
  | _ => cases hs

/-- Where a walk ends at an entry, the walk in a grown tree ends at what came of that entry. -/
theorem Grows.walked_taken (h : Grows t t') (hw : Walked t follow links d names s)
    (hs : s = .taken p e) : ∃ e', Walked t' follow links d names (.taken p e') ∧ e.Keeps e' := by
  induction hw with
  | done =>
    cases hs
    exact ⟨_, .done, .refl _⟩
  | dot _ ih =>
    obtain ⟨e', hw', hk⟩ := ih hs
    exact ⟨e', .dot hw', hk⟩
  | up _ ih =>
    obtain ⟨e', hw', hk⟩ := ih hs
    exact ⟨e', .up hw', hk⟩
  | into hn hd _ ih =>
    obtain ⟨e', hw', hk⟩ := ih hs
    exact ⟨e', .into hn (h.directory hd) hw', hk⟩
  | file hn hf =>
    cases hs
    obtain ⟨content', mode', hf'⟩ := h.file hf
    exact ⟨_, .file hn hf', .file ..⟩
  | link hn hl hw =>
    cases hs
    exact ⟨_, .link hn (h.link hl) hw, .refl _⟩
  | through hn hl hr ht _ ih =>
    obtain ⟨e', hw', hk⟩ := ih hs
    exact ⟨e', .through hn (h.link hl) hr ht hw', hk⟩
  | free => cases hs

/-- Where a walk ends at a free place, the walk in a grown tree ends at the file that was put there,
whether or not it follows a last link. -/
theorem Grows.walked_free (h : Grows t t') (hw : Walked t false links d names s) (hs : s = .free p)
    (hp : t'.at? p = some (.file content mode)) (follow' : Bool) :
    Walked t' follow' links d names (.taken p (.file content mode)) := by
  induction hw with
  | dot _ ih => exact .dot (ih hs)
  | up _ ih => exact .up (ih hs)
  | into hn hd _ ih => exact .into hn (h.directory hd) (ih hs)
  | through hn hl hr ht _ ih =>
    exact .through hn (h.link hl) (.inl (hr.resolve_right (by simp))) ht (ih hs)
  | free hn _ _ =>
    cases hs
    exact .file hn hp
  | _ => cases hs

theorem there_iff {path : Path} : t.There path ↔
    hasNul path.text = false ∧ ∃ p e, t.walk true path.text = .ok (.taken p e) := by
  rw [There, contains, probe, find]
  rcases hasNul path.text
  · rcases t.walk true path.text with e | ⟨p, e⟩ | p
    · by_cases he : e ∈ [.noEntry, .notDirectory, .tooManyLinks] <;>
        simp [he, bind, Except.bind, pure, Except.pure]
    · simp [bind, Except.bind, pure, Except.pure]
    · simp [bind, Except.bind, pure, Except.pure]
  · simp [bind, Except.bind, pure, Except.pure]

/-- A walk that does not follow a last link ends at a free place only if its last name is looked up there. -/
theorem Walked.exists_last_of_free (h : Walked t false links d names s) (hs : s = .free p) :
    ∃ name, names.getLast? = some name ∧ p.head? = some name ∧ Plain name := by
  induction h with
  | dot _ ih | up _ ih | into _ _ _ ih =>
    obtain ⟨name, hl, hn⟩ := ih hs
    exact ⟨name, by simp [List.getLast?_cons, hl], hn⟩
  | @through _ _ _ rest _ _ _ _ hr _ _ ih =>
    obtain ⟨name, hl, hn⟩ := ih hs
    refine ⟨name, ?_, hn⟩
    rcases rest with _ | ⟨first, rest⟩
    · simp at hr
    · simpa [List.getLast?_cons] using hl
  | free hn _ _ =>
    cases hs
    exact ⟨_, rfl, rfl, hn⟩
  | _ => cases hs

theorem walk_eq_ok_iff : t.walk follow path = .ok s ↔ path ≠ "" ∧ path.utf8ByteSize < pathLimit ∧
    Walked t follow linkLimit (startOf t.here path) (stepsOf path) s := by
  rw [walk, ← walkFrom_eq_ok_iff]
  by_cases h1 : path = ""
  · simp [h1]
  by_cases h2 : pathLimit ≤ path.utf8ByteSize
  · simp [h1, h2, Nat.not_lt.2 h2]
  · simp [h1, h2, Nat.not_le.1 h2]

theorem at?_of_walk_free (h : t.walk follow path = .ok (.free p)) : t.at? p = none :=
  (walk_eq_ok_iff.1 h).2.2.at?_free rfl

theorem at?_of_walk_file (h : t.walk follow path = .ok (.taken p (.file content mode))) :
    t.at? p = some (.file content mode) :=
  (walk_eq_ok_iff.1 h).2.2.at?_file rfl

theorem Grows.walk_taken (h : Grows t t') (hw : t.walk follow path = .ok (.taken p e)) :
    ∃ e', t'.walk follow path = .ok (.taken p e') ∧ e.Keeps e' := by
  obtain ⟨h1, h2, hw⟩ := walk_eq_ok_iff.1 hw
  obtain ⟨e', hw', hk⟩ := h.walked_taken hw rfl
  exact ⟨e', walk_eq_ok_iff.2 ⟨h1, h2, h.here ▸ hw'⟩, hk⟩

theorem Grows.walk_free (h : Grows t t') (hw : t.walk false path = .ok (.free p))
    (hp : t'.at? p = some (.file content mode)) (follow' : Bool) :
    t'.walk follow' path = .ok (.taken p (.file content mode)) := by
  obtain ⟨h1, h2, hw⟩ := walk_eq_ok_iff.1 hw
  exact walk_eq_ok_iff.2 ⟨h1, h2, h.here ▸ h.walked_free hw rfl hp follow'⟩

/-- What is there stays there. -/
theorem Grows.there {path : Path} (h : Grows t t') (hp : t.There path) : t'.There path := by
  rw [there_iff] at hp ⊢
  obtain ⟨hn, p, e, hf⟩ := hp
  obtain ⟨e', hf', -⟩ := h.walk_taken hf
  exact ⟨hn, p, e', hf'⟩

/-! ## Calls -/

theorem makeDirectory_eq_ok (h : t.makeDirectory path = .ok t') :
    ∃ p, t.at? p = none ∧ t' = t.set p .directory := by
  simp only [makeDirectory] at h
  rcases hw : t.walk false (if (namesOf path).isEmpty then path else dropSlashes path) with
    e | ⟨p, e⟩ | p <;> simp only [hw, bind, Except.bind, pure, Except.pure] at h <;> cases h
  exact ⟨p, at?_of_walk_free hw, rfl⟩

theorem makeDirectory_grows (h : t.makeDirectory path = .ok t') : Grows t t' := by
  obtain ⟨p, hp, rfl⟩ := makeDirectory_eq_ok h
  exact grows_set_free hp

theorem target_eq_ok {content : Octets} (h : t.target path = .ok (p, content, mode)) :
    t.walk true path = .ok (.taken p (.file content mode)) ∨ t.walk true path = .ok (.free p) := by
  rw [target] at h
  split at h
  · split at h
    · rcases hw : t.walk false (dropSlashes path) with _ | _ <;> rw [hw] at h <;> cases h
    · cases h
  · rcases hw : t.walk true path with e | ⟨q, content' | _ | _⟩ | q <;> rw [hw] at h
    · cases h
    · rcases hr : t.refusals.lookup q with _ | cause <;> simp only [hr, bind, Except.bind] at h <;> cases h
      exact .inl rfl
    · cases h
    · cases h
    · cases h
      exact .inr rfl

theorem write_grows (h : t.write path content = .ok t') : Grows t t' := by
  rw [write] at h
  rcases ht : t.target path with e | ⟨p, content₀, mode⟩ <;> rw [ht] at h <;> cases h
  rcases target_eq_ok ht with hw | hw
  · exact grows_set_file (at?_of_walk_file hw)
  · exact grows_set_free (at?_of_walk_free hw)

/-! A file at a place that a path led to when it was still free. -/

theorem create_eq_ok (h : t.create path mode = .ok t') :
    ∃ p, t.walk false path = .ok (.free p) ∧ t' = t.set p (.file [] mode) := by
  rw [create] at h
  rcases hw : t.walk false path with e | ⟨p, e⟩ | p <;> rw [hw] at h <;> cases h
  exact ⟨p, rfl, rfl⟩

theorem not_endsInSlash_of_free (h : t.walk false path = .ok (.free p)) : endsInSlash path = false := by
  obtain ⟨-, -, hw⟩ := walk_eq_ok_iff.1 h
  obtain ⟨name, hl, -, hn⟩ := hw.exists_last_of_free rfl
  rcases hs : endsInSlash path with _ | _
  · rfl
  · simp only [stepsOf, hs, if_true, List.getLast?_concat, Option.some.injEq] at hl
    exact absurd hl.symm hn.ne_dot

theorem append_at_free {octets : Octets} (h : t.walk false path = .ok (.free p)) :
    (t.set p (.file content mode)).append path octets = .ok (t.set p (.file (content ++ octets) mode)) := by
  have hp : t.at? p = none := at?_of_walk_free h
  have hg : Grows t (t.set p (.file content mode)) := grows_set_free hp
  have hw := hg.walk_free h (at?_set_self (ne_nil_of_none hp)) true
  simp [append, find, hw, bind, Except.bind, pure, Except.pure, set_set]

theorem Grows.read_at_free (hg : Grows t t') (h : t.walk false path = .ok (.free p))
    (hp : t'.at? p = some (.file content mode)) : t'.read path = .ok content := by
  simp [read, find, hg.walk_free h hp true, bind, Except.bind, pure, Except.pure]

theorem Grows.remove_at_free (hg : Grows t t') (h : t.walk false path = .ok (.free p))
    (hp : t'.at? p = some (.file content mode)) : t'.remove path = .ok (t'.erase p) := by
  simp [remove, hg.walk_free h hp false, bind, Except.bind, pure, Except.pure]

end FileTree

/-! ## Actions -/

namespace Act

variable {ε δ α β : Type}

/-- Actions with the same outcomes are the same. -/
theorem ext {x y : Act ε α} (h : ∀ t, x.outcome t = y.outcome t) : x = y := funext h

/-- An action that lets every tree grow, whether or not it fails. -/
def Growing (x : Act ε α) : Prop := ∀ t, FileTree.Grows t (x.outcome t).2

theorem growing_look (f : FileTree → α) : Growing (look f : Act ε α) := fun t => .refl t

theorem growing_fail (e : ε) : Growing (fail e : Act ε α) := fun t => .refl t

theorem growing_pure (a : α) : Growing (pure a : Act ε α) := fun t => .refl t

theorem Growing.bind {x : Act ε α} {f : α → Act ε β} (hx : x.Growing) (hf : ∀ a, (f a).Growing) :
    (x >>= f).Growing := by
  intro t
  have ht := hx t
  rcases h : x.outcome t with ⟨e | a, t₁⟩
  · rw [outcome_bind_of_error h]
    rwa [h] at ht
  · rw [outcome_bind_of_ok h]
    rw [h] at ht
    exact ht.trans (hf a t₁)

theorem Growing.mapError {x : Act ε α} (hx : x.Growing) (f : ε → δ) : (x.mapError f).Growing := hx

theorem growing_call {path : String} {f : FileTree → Except Cause FileTree}
    (hf : ∀ {t t'}, f t = .ok t' → FileTree.Grows t t') : (call path f).Growing := by
  intro t
  rw [call, outcome_ofOutcome]
  split
  · next t' h => exact hf h
  · exact .refl t

theorem Growing.forM {f : α → Act ε PUnit} (hf : ∀ a, (f a).Growing) :
    ∀ xs : List α, (List.forM xs f).Growing
  | [] => growing_pure _
  | x :: xs => (hf x).bind fun _ => Growing.forM hf xs

/-- A property that grown trees keep comes to hold in a run over a list at one member: those before it
are done without a failure and leave a tree that does not have the property, and the tree after it has
it. -/
theorem forM_crosses_iff {P : FileTree → Prop} {f : α → Act ε PUnit} (hf : ∀ a, (f a).Growing)
    (hP : ∀ {t t'}, FileTree.Grows t t' → P t → P t') : ∀ {xs : List α} {t : FileTree}, ¬P t →
      (P ((List.forM xs f).outcome t).2 ↔ ∃ before x after t₁, xs = before ++ x :: after ∧
        (List.forM before f).outcome t = (.ok ⟨⟩, t₁) ∧ ¬P t₁ ∧ P ((f x).outcome t₁).2)
  | [], t, ht => by simp [ht]
  | x :: xs, t, ht => by
    rcases hx : (f x).outcome t with ⟨e | _, t₁⟩
    · rw [forM_cons_of_error hx]
      constructor
      · exact fun h => ⟨[], x, xs, t, rfl, rfl, ht, by rwa [hx]⟩
      · rintro ⟨_ | ⟨y, before⟩, z, after, t₂, heq, hb, -, h⟩ <;> cases heq
        · cases hb
          rwa [hx] at h
        · rw [forM_cons_of_error hx] at hb
          cases hb
    · rw [forM_cons_of_ok hx]
      by_cases h₁ : P t₁
      · refine iff_of_true (hP (Growing.forM hf xs t₁) h₁) ⟨[], x, xs, t, rfl, rfl, ht, ?_⟩
        rwa [hx]
      rw [forM_crosses_iff hf hP h₁]
      constructor
      · rintro ⟨before, y, after, t₂, rfl, hb, h⟩
        exact ⟨x :: before, y, after, t₂, rfl, (forM_cons_of_ok hx).trans hb, h⟩
      · rintro ⟨_ | ⟨y, before⟩, z, after, t₂, heq, hb, hn, h⟩ <;> cases heq
        · cases hb
          rw [hx] at h
          exact absurd h h₁
        · rw [forM_cons_of_ok hx] at hb
          exact ⟨before, z, after, t₂, rfl, hb, hn, h⟩

end Act

end SqlTidy
