import SqlTidy.Proofs.Outcome
import SqlTidy.Resolver

/-!
# The trace of a search

`Traced` lists the ways in which a search comes to a location, each with everything that it leaves:
what it says, the calls and requests it makes, the tree. `Stumbled` lists the ways in which it comes
to none. A search goes exactly one of these ways (`resolve_eq_iff`), so whether a search says, calls
or changes anything can be read off the rule that applies.

A search stumbles if it cannot be told whether a path is there, if the directory for downloads has a
name that no directory can have, or if a supplier crashes.
-/

namespace SqlTidy

namespace FileTree

/-- A path leads to something. -/
def There (t : FileTree) (p : Path) : Prop := t.contains p.text = .ok true

/-- A path leads nowhere. -/
def Missing (t : FileTree) (p : Path) : Prop := t.contains p.text = .ok false

/-- It cannot be told whether a path leads anywhere. -/
def Refuses (t : FileTree) (p : Path) (e : IoError) : Prop := t.contains p.text = .error e

instance (t : FileTree) (p : Path) : Decidable (t.There p) := inferInstanceAs (Decidable (_ = _))

instance (t : FileTree) (p : Path) : Decidable (t.Missing p) := inferInstanceAs (Decidable (_ = _))

instance (t : FileTree) (p : Path) (e : IoError) : Decidable (t.Refuses p e) :=
  inferInstanceAs (Decidable (_ = _))

theorem there_or_missing_or_refuses (t : FileTree) (p : Path) :
    t.There p ∨ t.Missing p ∨ ∃ e, t.Refuses p e := by
  unfold There Missing Refuses
  rcases t.contains p.text with e | b
  · exact .inr (.inr ⟨e, rfl⟩)
  · cases b
    · exact .inr (.inl rfl)
    · exact .inl rfl

end FileTree

namespace Resolved

variable {t : FileTree} {p : Path} {e : IoError} {yes no last : Resolved}

theorem ifThere_of_there (h : t.There p) : ifThere t p yes no = yes := by
  rw [FileTree.There] at h
  simp [ifThere, h]

theorem ifThere_of_missing (h : t.Missing p) : ifThere t p yes no = no := by
  rw [FileTree.Missing] at h
  simp [ifThere, h]

theorem ifThere_of_refuses (h : t.Refuses p e) : ifThere t p yes no = .crashed (.io e) t := by
  rw [FileTree.Refuses] at h
  simp [ifThere, h]

/-- Paths that are missing are passed over. -/
theorem firstOf_append {after : List Path} :
    ∀ {before : List Path}, (∀ q ∈ before, t.Missing q) →
      firstOf t last (before ++ after) = firstOf t last after
  | [], _ => rfl
  | q :: before, h => by
    rw [List.cons_append, firstOf, ifThere_of_missing (h q List.mem_cons_self)]
    exact firstOf_append fun q' hq' => h q' (List.mem_cons_of_mem _ hq')

theorem firstOf_of_missing {ps : List Path} (h : ∀ p ∈ ps, t.Missing p) : firstOf t last ps = last := by
  rw [← List.append_nil ps, firstOf_append h]
  rfl

/-- The first of several paths that is not missing, if there is one. -/
theorem exists_first (t : FileTree) :
    ∀ ps : List Path, (∀ p ∈ ps, t.Missing p) ∨ ∃ before p after, ps = before ++ p :: after ∧
      (∀ q ∈ before, t.Missing q) ∧ (t.There p ∨ ∃ e, t.Refuses p e)
  | [] => .inl (by simp)
  | p :: ps => by
    rcases t.there_or_missing_or_refuses p with hp | hp | hp
    · exact .inr ⟨[], p, ps, rfl, by simp, .inl hp⟩
    · rcases exists_first t ps with h | ⟨before, q, after, rfl, hb, hq⟩
      · exact .inl (List.forall_mem_cons.2 ⟨hp, h⟩)
      · exact .inr ⟨p :: before, q, after, rfl, List.forall_mem_cons.2 ⟨hp, hb⟩, hq⟩
    · exact .inr ⟨[], p, ps, rfl, by simp, .inr hp⟩

@[simp]
theorem after_nil (r : Resolved) : r.after [] [] [] = r := rfl

theorem after_after (r : Resolved) (w w' : List Warning) (c c' : List SupplyCall)
    (q q' : List Request) : (r.after w' c' q').after w c q = r.after (w ++ w') (c ++ c') (q ++ q') := by
  simp [after]

@[simp]
theorem location_after (r : Resolved) (w : List Warning) (c : List SupplyCall) (q : List Request) :
    (r.after w c q).location = r.location := rfl

end Resolved

/-- Holds for calls for downloads. -/
def SupplyCall.isDownload : SupplyCall → Bool
  | .download _ _ _ => true
  | .build _ => false

/-- Suppliers that fail in the ways that are expected of them only. -/
structure Suppliers.Orderly (sup : Suppliers) : Prop where
  fetch : ∀ url destination executable t c,
    (sup.fetch url destination executable t).result ≠ .error (.crash c)
  build : ∀ project t c, (sup.build project t).1 ≠ .error (.crash c)

namespace Search

variable (s : Search) (sup : Suppliers) (t : FileTree)

/-- What comes of a download into the cache. -/
def fetched : Downloaded := sup.fetch s.url s.cache s.executable t

def downloadCall : SupplyCall := .download s.url s.cache s.executable

/-! ## The build -/

/-- How the last tiers end with a location, for a search that has come to them with nothing. -/
inductive Built : Resolved → Prop
  | unasked : s.project? = none → Built ⟨.ok s.executable, [], [], [], t⟩
  | noSources {p : Path} : s.project? = some p → t.Missing (p / "Cargo.toml") →
      Built ⟨.ok s.executable, [], [], [], t⟩
  | failed {p : Path} {e : BuildError} {t₁ : FileTree} : s.project? = some p →
      t.There (p / "Cargo.toml") → sup.build p t = (.error (.failed e), t₁) →
      Built ⟨.ok s.executable, [.build e], [.build p], [], t₁⟩
  | fruitless {p : Path} {t₁ : FileTree} : s.project? = some p → t.There (p / "Cargo.toml") →
      sup.build p t = (.ok (), t₁) → (∀ q ∈ s.built p, t₁.Missing q) →
      Built ⟨.ok s.executable, [], [.build p], [], t₁⟩
  | built {p q : Path} {before after : List Path} {t₁ : FileTree} : s.project? = some p →
      t.There (p / "Cargo.toml") → sup.build p t = (.ok (), t₁) → s.built p = before ++ q :: after →
      (∀ q' ∈ before, t₁.Missing q') → t₁.There q → Built ⟨.ok q.text, [], [.build p], [], t₁⟩

/-- How the last tiers end without a location. -/
inductive BuildStumbled : Resolved → Prop
  | sources {p : Path} {e : IoError} : s.project? = some p → t.Refuses (p / "Cargo.toml") e →
      BuildStumbled ⟨.error (.io e), [], [], [], t⟩
  | crashed {p : Path} {c : Crash} {t₁ : FileTree} : s.project? = some p →
      t.There (p / "Cargo.toml") → sup.build p t = (.error (.crash c), t₁) →
      BuildStumbled ⟨.error c, [], [.build p], [], t₁⟩
  | built {p q : Path} {before after : List Path} {e : IoError} {t₁ : FileTree} :
      s.project? = some p → t.There (p / "Cargo.toml") → sup.build p t = (.ok (), t₁) →
      s.built p = before ++ q :: after → (∀ q' ∈ before, t₁.Missing q') → t₁.Refuses q e →
      BuildStumbled ⟨.error (.io e), [], [.build p], [], t₁⟩

variable {s sup t} {r : Resolved}

theorem Built.byBuild_eq (h : s.Built sup t r) : s.byBuild sup t = r := by
  cases h with
  | unasked hp => simp [byBuild, hp, byName, Resolved.found]
  | noSources hp hm =>
    simp only [byBuild, hp]
    rw [Resolved.ifThere_of_missing hm]
    rfl
  | failed hp hm hb =>
    simp only [byBuild, hp, hb]
    rw [Resolved.ifThere_of_there hm]
    rfl
  | fruitless hp hm hb hq =>
    simp only [byBuild, hp, hb]
    rw [Resolved.ifThere_of_there hm, Resolved.firstOf_of_missing hq]
    rfl
  | built hp hm hb hs hq hq' =>
    simp only [byBuild, hp, hb]
    rw [Resolved.ifThere_of_there hm, hs, Resolved.firstOf_append hq, Resolved.firstOf,
      Resolved.ifThere_of_there hq']
    rfl

theorem BuildStumbled.byBuild_eq (h : s.BuildStumbled sup t r) : s.byBuild sup t = r := by
  cases h with
  | sources hp hm =>
    simp only [byBuild, hp]
    rw [Resolved.ifThere_of_refuses hm]
    rfl
  | crashed hp hm hb =>
    simp only [byBuild, hp, hb]
    rw [Resolved.ifThere_of_there hm]
    rfl
  | built hp hm hb hs hq hq' =>
    simp only [byBuild, hp, hb]
    rw [Resolved.ifThere_of_there hm, hs, Resolved.firstOf_append hq, Resolved.firstOf,
      Resolved.ifThere_of_refuses hq']
    rfl

theorem exists_built_or_stumbled (s : Search) (sup : Suppliers) (t : FileTree) :
    ∃ r, s.Built sup t r ∨ s.BuildStumbled sup t r := by
  rcases hp : s.project? with _ | p
  · exact ⟨_, .inl (.unasked hp)⟩
  rcases t.there_or_missing_or_refuses (p / "Cargo.toml") with hm | hm | ⟨e, hm⟩
  · rcases hb : sup.build p t with ⟨(e | c) | _, t₁⟩
    · exact ⟨_, .inl (.failed hp hm hb)⟩
    · exact ⟨_, .inr (.crashed hp hm hb)⟩
    · rcases Resolved.exists_first t₁ (s.built p) with hq | ⟨before, q, after, hs, hq, hq' | ⟨e, hq'⟩⟩
      · exact ⟨_, .inl (.fruitless hp hm hb hq)⟩
      · exact ⟨_, .inl (.built hp hm hb hs hq hq')⟩
      · exact ⟨_, .inr (.built hp hm hb hs hq hq')⟩
  · exact ⟨_, .inl (.noSources hp hm)⟩
  · exact ⟨_, .inr (.sources hp hm)⟩

theorem Built.location_ok (h : s.Built sup t r) : ∃ l, r.location = .ok l := by
  cases h <;> exact ⟨_, rfl⟩

/-! ## The whole search -/

variable (s sup t)

/-- The search has found nothing, and has made room for a download: without a word if that could be
done, and with one warning if not. -/
inductive Cleared : List Warning → FileTree → Prop
  | made {t₁ : FileTree} : s.options.trimmedCustomPath = none → t.Missing s.bundled →
      t.Missing s.cached → hasNul s.cache.text = false →
      (Act.makeDirectories s.cache).outcome t = (.ok (), t₁) → Cleared [] t₁
  | refused {e : IoError} {t₁ : FileTree} : s.options.trimmedCustomPath = none →
      t.Missing s.bundled → t.Missing s.cached → hasNul s.cache.text = false →
      (Act.makeDirectories s.cache).outcome t = (.error e, t₁) →
      Cleared [.cacheDirectory s.cache e] t₁

/-- The search has come to its last tiers, with what was said, called and requested on the way. -/
inductive Onward : List Warning → List SupplyCall → List Request → FileTree → Prop
  | unasked {w : List Warning} {t₁ : FileTree} : s.Cleared t w t₁ →
      s.options.autoDownload = false → Onward w [] [] t₁
  | network {w : List Warning} {t₁ : FileTree} {e : NetworkError} : s.Cleared t w t₁ →
      s.options.autoDownload = true → (s.fetched sup t₁).result = .error (.network e) →
      Onward (w ++ [.network e]) [s.downloadCall] (s.fetched sup t₁).requests (s.fetched sup t₁).tree
  | archive {w : List Warning} {t₁ : FileTree} {e : ArchiveError} : s.Cleared t w t₁ →
      s.options.autoDownload = true → (s.fetched sup t₁).result = .error (.archive e) →
      Onward (w ++ [.archive e]) [s.downloadCall] (s.fetched sup t₁).requests (s.fetched sup t₁).tree
  | fruitless {w : List Warning} {t₁ : FileTree} : s.Cleared t w t₁ →
      s.options.autoDownload = true → (s.fetched sup t₁).result = .ok () →
      (s.fetched sup t₁).tree.Missing s.cached →
      Onward w [s.downloadCall] (s.fetched sup t₁).requests (s.fetched sup t₁).tree

/-- The ways to a location. -/
inductive Traced : Resolved → Prop
  | custom {p : String} : s.options.trimmedCustomPath = some p → Traced ⟨.ok p, [], [], [], t⟩
  | bundled : s.options.trimmedCustomPath = none → t.There s.bundled →
      Traced ⟨.ok s.bundled.text, [], [], [], t⟩
  | cached : s.options.trimmedCustomPath = none → t.Missing s.bundled → t.There s.cached →
      Traced ⟨.ok s.cached.text, [], [], [], t⟩
  | downloaded {w : List Warning} {t₁ : FileTree} : s.Cleared t w t₁ →
      s.options.autoDownload = true → (s.fetched sup t₁).result = .ok () →
      (s.fetched sup t₁).tree.There s.cached →
      Traced ⟨.ok s.cached.text, w, [s.downloadCall], (s.fetched sup t₁).requests,
        (s.fetched sup t₁).tree⟩
  | onward {w : List Warning} {c : List SupplyCall} {q : List Request} {t₂ : FileTree}
      {r : Resolved} : s.Onward sup t w c q t₂ → s.Built sup t₂ r → Traced (r.after w c q)

/-- The ways to no location. -/
inductive Stumbled : Resolved → Prop
  | bundled {e : IoError} : s.options.trimmedCustomPath = none → t.Refuses s.bundled e →
      Stumbled ⟨.error (.io e), [], [], [], t⟩
  | cached {e : IoError} : s.options.trimmedCustomPath = none → t.Missing s.bundled →
      t.Refuses s.cached e → Stumbled ⟨.error (.io e), [], [], [], t⟩
  | nul : s.options.trimmedCustomPath = none → t.Missing s.bundled → t.Missing s.cached →
      hasNul s.cache.text = true → Stumbled ⟨.error .nul, [], [], [], t⟩
  | crashed {w : List Warning} {t₁ : FileTree} {c : Crash} : s.Cleared t w t₁ →
      s.options.autoDownload = true → (s.fetched sup t₁).result = .error (.crash c) →
      Stumbled ⟨.error c, w, [s.downloadCall], (s.fetched sup t₁).requests, (s.fetched sup t₁).tree⟩
  | downloaded {w : List Warning} {t₁ : FileTree} {e : IoError} : s.Cleared t w t₁ →
      s.options.autoDownload = true → (s.fetched sup t₁).result = .ok () →
      (s.fetched sup t₁).tree.Refuses s.cached e →
      Stumbled ⟨.error (.io e), w, [s.downloadCall], (s.fetched sup t₁).requests,
        (s.fetched sup t₁).tree⟩
  | onward {w : List Warning} {c : List SupplyCall} {q : List Request} {t₂ : FileTree}
      {r : Resolved} : s.Onward sup t w c q t₂ → s.BuildStumbled sup t₂ r → Stumbled (r.after w c q)

variable {s sup t} {w : List Warning} {c : List SupplyCall} {q : List Request} {t₁ t₂ : FileTree}

/-! What a rule's premises come to in `resolve`. -/

theorem resolve_of_none (h : s.options.trimmedCustomPath = none) :
    s.resolve sup t = s.byBundle sup t := by
  simp [resolve, h]

theorem resolve_of_missing (h : s.options.trimmedCustomPath = none) (hb : t.Missing s.bundled) :
    s.resolve sup t = s.byCache sup t := by
  rw [resolve_of_none h, byBundle, Resolved.ifThere_of_missing hb]

theorem Cleared.resolve_eq (h : s.Cleared t w t₁) :
    s.resolve sup t = (s.byDownload sup t₁).after w [] [] := by
  cases h with
  | made h hb hc hn hm =>
    rw [resolve_of_missing h hb, byCache, Resolved.ifThere_of_missing hc]
    simp [hn, hm]
  | refused h hb hc hn hm =>
    rw [resolve_of_missing h hb, byCache, Resolved.ifThere_of_missing hc]
    simp [hn, hm]

theorem Onward.resolve_eq (h : s.Onward sup t w c q t₂) :
    s.resolve sup t = (s.byBuild sup t₂).after w c q := by
  cases h with
  | unasked h ha => simp [h.resolve_eq, byDownload, ha]
  | network h ha hf =>
    rw [fetched] at hf
    simp [h.resolve_eq, byDownload, ha, hf, Resolved.after_after, downloadCall, fetched]
  | archive h ha hf =>
    rw [fetched] at hf
    simp [h.resolve_eq, byDownload, ha, hf, Resolved.after_after, downloadCall, fetched]
  | fruitless h ha hf hm =>
    rw [fetched] at hf hm
    simp [h.resolve_eq, byDownload, ha, hf, Resolved.firstOf, Resolved.ifThere_of_missing hm,
      Resolved.after_after, downloadCall, fetched]

theorem Traced.resolve_eq (h : s.Traced sup t r) : s.resolve sup t = r := by
  cases h with
  | custom h => simp [resolve, h, Resolved.found]
  | bundled h hb =>
    rw [resolve_of_none h, byBundle, Resolved.ifThere_of_there hb]
    rfl
  | cached h hb hc =>
    rw [resolve_of_missing h hb, byCache, Resolved.ifThere_of_there hc]
    rfl
  | downloaded h ha hf hc =>
    rw [fetched] at hf hc
    simp [h.resolve_eq, byDownload, ha, hf, Resolved.firstOf, Resolved.ifThere_of_there hc,
      Resolved.after, Resolved.found, downloadCall, fetched]
  | onward h hr => rw [h.resolve_eq, hr.byBuild_eq]

theorem Stumbled.resolve_eq (h : s.Stumbled sup t r) : s.resolve sup t = r := by
  cases h with
  | bundled h hb =>
    rw [resolve_of_none h, byBundle, Resolved.ifThere_of_refuses hb]
    rfl
  | cached h hb hc =>
    rw [resolve_of_missing h hb, byCache, Resolved.ifThere_of_refuses hc]
    rfl
  | nul h hb hc hn =>
    rw [resolve_of_missing h hb, byCache, Resolved.ifThere_of_missing hc, if_pos hn]
    rfl
  | crashed h ha hf =>
    rw [fetched] at hf
    simp [h.resolve_eq, byDownload, ha, hf, Resolved.after, downloadCall, fetched]
  | downloaded h ha hf hc =>
    rw [fetched] at hf hc
    simp [h.resolve_eq, byDownload, ha, hf, Resolved.firstOf, Resolved.ifThere_of_refuses hc,
      Resolved.after, Resolved.crashed, downloadCall, fetched]
  | onward h hr => rw [h.resolve_eq, hr.byBuild_eq]

theorem Onward.exists_end (h : s.Onward sup t w c q t₂) :
    ∃ r, s.Traced sup t r ∨ s.Stumbled sup t r := by
  obtain ⟨r, hr | hr⟩ := exists_built_or_stumbled s sup t₂
  · exact ⟨_, .inl (.onward h hr)⟩
  · exact ⟨_, .inr (.onward h hr)⟩

/-- A download that was asked for settles the search or leaves it to the last tiers; it is the one
download in both cases. -/
theorem Cleared.exists_fetch_end (sup : Suppliers) (h : s.Cleared t w t₁) (ha : s.options.autoDownload = true) :
    (∃ r, (s.Traced sup t r ∨ s.Stumbled sup t r) ∧ r.calls = [s.downloadCall]) ∨
      ∃ w' t₂, s.Onward sup t w' [s.downloadCall] (s.fetched sup t₁).requests t₂ := by
  rcases hf : (s.fetched sup t₁).result with (e | e | c) | _
  · exact .inr ⟨_, _, .network h ha hf⟩
  · exact .inr ⟨_, _, .archive h ha hf⟩
  · exact .inl ⟨_, .inr (.crashed h ha hf), rfl⟩
  · rcases (s.fetched sup t₁).tree.there_or_missing_or_refuses s.cached with hc | hc | ⟨e, hc⟩
    · exact .inl ⟨_, .inl (.downloaded h ha hf hc), rfl⟩
    · exact .inr ⟨_, _, .fruitless h ha hf hc⟩
    · exact .inl ⟨_, .inr (.downloaded h ha hf hc), rfl⟩

theorem Cleared.exists_end (h : s.Cleared t w t₁) :
    ∃ r, s.Traced sup t r ∨ s.Stumbled sup t r := by
  rcases ha : s.options.autoDownload
  · exact (Onward.unasked h ha).exists_end
  rcases h.exists_fetch_end sup ha with ⟨r, hr, -⟩ | ⟨w', t₂, hn⟩
  · exact ⟨r, hr⟩
  · exact hn.exists_end

/-- Every search goes one of the ways. -/
theorem exists_end (s : Search) (sup : Suppliers) (t : FileTree) :
    ∃ r, s.Traced sup t r ∨ s.Stumbled sup t r := by
  rcases h : s.options.trimmedCustomPath with _ | p
  · rcases t.there_or_missing_or_refuses s.bundled with hb | hb | ⟨e, hb⟩
    · exact ⟨_, .inl (.bundled h hb)⟩
    · rcases t.there_or_missing_or_refuses s.cached with hc | hc | ⟨e, hc⟩
      · exact ⟨_, .inl (.cached h hb hc)⟩
      · rcases hn : hasNul s.cache.text
        · rcases hm : (Act.makeDirectories s.cache).outcome t with ⟨e | _, t₁⟩
          · exact (Cleared.refused h hb hc hn hm).exists_end
          · exact (Cleared.made h hb hc hn hm).exists_end
        · exact ⟨_, .inr (.nul h hb hc hn)⟩
      · exact ⟨_, .inr (.cached h hb hc)⟩
    · exact ⟨_, .inr (.bundled h hb)⟩
  · exact ⟨_, .inl (.custom h)⟩

theorem resolve_eq_iff : s.resolve sup t = r ↔ s.Traced sup t r ∨ s.Stumbled sup t r := by
  constructor
  · rintro rfl
    obtain ⟨r, h⟩ := exists_end s sup t
    have hr : s.resolve sup t = r := h.elim Traced.resolve_eq Stumbled.resolve_eq
    rwa [hr]
  · rintro (h | h)
    · exact h.resolve_eq
    · exact h.resolve_eq

theorem Traced.location_ok (h : s.Traced sup t r) : ∃ l, r.location = .ok l := by
  cases h with
  | onward _ hr => exact hr.location_ok
  | _ => exact ⟨_, rfl⟩

theorem byBuild_downloads (s : Search) (sup : Suppliers) (t : FileTree) :
    (s.byBuild sup t).calls.filter SupplyCall.isDownload = [] := by
  obtain ⟨r, h | h⟩ := exists_built_or_stumbled s sup t
  · rw [h.byBuild_eq]
    cases h <;> rfl
  · rw [h.byBuild_eq]
    cases h <;> rfl

/-- A search that has made room downloads once if it is allowed to, and else not at all. -/
theorem Cleared.downloads (h : s.Cleared t w t₁) :
    (s.resolve sup t).calls.filter SupplyCall.isDownload =
      if s.options.autoDownload then [s.downloadCall] else [] := by
  rcases ha : s.options.autoDownload
  · have := byBuild_downloads s sup t₁
    simp [(Onward.unasked h ha).resolve_eq, Resolved.after, this]
  · have hd : s.downloadCall.isDownload = true := rfl
    rcases h.exists_fetch_end sup ha with ⟨r, hr, hc⟩ | ⟨w', t₂, hn⟩
    · simp [resolve_eq_iff.2 hr, hc, hd]
    · have := byBuild_downloads s sup t₂
      simp [hn.resolve_eq, Resolved.after, this, hd]

/-- With orderly suppliers a search stumbles over a path of which it cannot be told whether it is
there, or over a directory name with a NUL. -/
theorem Stumbled.location_of_orderly (hs : sup.Orderly) (h : s.Stumbled sup t r) :
    (∃ e, r.location = .error (.io e)) ∨ r.location = .error .nul ∧ hasNul s.cache.text = true := by
  cases h with
  | nul _ _ _ hn => exact .inr ⟨rfl, hn⟩
  | crashed _ _ hf => exact absurd hf (hs.fetch _ _ _ _ _)
  | onward _ hr =>
    cases hr with
    | crashed _ _ hb => exact absurd (congrArg Prod.fst hb) (hs.build _ _ _)
    | _ => exact .inl ⟨_, rfl⟩
  | _ => exact .inl ⟨_, rfl⟩

/-- A search comes to a location by the rules of `Traced`, or stumbles by those of `Stumbled`. -/
theorem resolve_trace (s : Search) (sup : Suppliers) (hs : sup.Orderly) (t : FileTree) (r : Resolved) :
    (s.resolve sup t = r ↔ s.Traced sup t r ∨ s.Stumbled sup t r) ∧
      (s.Traced sup t r → ∃ l, r.location = .ok l) ∧
      (s.Stumbled sup t r → (∃ e, r.location = .error (.io e)) ∨
        r.location = .error .nul ∧ hasNul s.cache.text = true) ∧
      ∀ w t₁, s.Cleared t w t₁ → (s.resolve sup t).calls.filter SupplyCall.isDownload =
        if s.options.autoDownload then [s.downloadCall] else [] :=
  ⟨resolve_eq_iff, Traced.location_ok, Stumbled.location_of_orderly hs, fun _ _ h => h.downloads⟩

/-- A search that may download, with a given name for the directory that holds downloads. -/
def loneSearch (storage : String) : Search where
  platform := ⟨"linux", "x64"⟩
  base := "http://releases"
  roots := ⟨⟨.root, ["ext"]⟩, ⟨.root, [storage]⟩, none⟩
  options := ⟨none, false, true, defaultVersion⟩

/-- Suppliers without a network and without a compiler. -/
def offline : Suppliers where
  fetch url _ _ t := ⟨.error (.network ⟨url, .request "offline"⟩), [], false, t⟩
  build _ t := (.error (.failed (.reported "no cargo")), t)

theorem offline_orderly : offline.Orderly := ⟨by simp [offline], by simp [offline]⟩

/-- In an empty tree a name with a NUL makes a search stumble. -/
theorem resolve_trace_nul :
    (loneSearch "st\x00ore").resolve offline ⟨[], [], []⟩ = ⟨.error .nul, [], [], [], ⟨[], [], []⟩⟩ :=
  (resolve_trace (loneSearch "st\x00ore") offline offline_orderly ⟨[], [], []⟩ _).1.2
    (.inr (.nul (by decide +kernel) (by decide +kernel) (by decide +kernel) (by decide +kernel)))

end Search

end SqlTidy
