import SqlTidy.Proofs.Sparing

/-!
# Searches one after another

Searches for one platform with the same roots may be made one after another, each in the tree that the
one before it leaves (`turns`). Downloads and builds on the way may do what they like to the tree.

As soon as one of them has come to the formatter that ships with the integration or to the downloaded
one, the search is settled: every later search takes the same one, at once and without a word
(`turns_settled`). What could unsettle it is a formatter that turns up where the integration has its own,
since that place is looked at first. Neither the download nor the build may put one there, nor may the
search itself: the directories that it makes for downloads can pass through that very place
(`turns_unsettled_nested`).
-/

namespace SqlTidy

/-! ## Bare names -/

theorem slash_mem_text {p : Path} (h : p.anchor ≠ .here ∨ 2 ≤ p.parts.length) : '/' ∈ p.text.toList := by
  obtain ⟨anchor, _ | ⟨a, _ | ⟨b, parts⟩⟩⟩ := p
  · rcases h with h | h
    · cases anchor <;> simp_all [Path.text, Anchor.text]
    · simp at h
  · rcases h with h | h
    · cases anchor <;> simp_all [Path.text, Anchor.text]
    · simp at h
  · simp [Path.text, String.toList_intercalate]

theorem ofText_executableName (p : Platform) :
    Path.ofText p.executableName = ⟨.here, [p.executableName]⟩ := by
  rw [Platform.executableName]
  split <;> decide +kernel

/-- A formatter in a directory for binaries has more to its path than its name. -/
theorem slash_mem_binary (root : Path) (p : Platform) :
    '/' ∈ (root / "bin" / p.text / p.executableName : Path).text.toList := by
  have hname : (Path.ofText p.executableName).isAbsolute = false := by
    rw [ofText_executableName]
    rfl
  apply slash_mem_text
  rw [Path.div_of_relative _ hname, ofText_executableName]
  cases htext : (Path.ofText p.text).isAbsolute with
  | true =>
    -- The name of the platform leads away from the root.
    left
    rw [Path.div_of_absolute _ htext]
    simpa [Path.isAbsolute] using htext
  | false =>
    right
    have hbin : (root / "bin" : Path) = ⟨root.anchor, root.parts ++ ["bin"]⟩ :=
      Path.div_of_relative root (by decide)
    rw [Path.div_of_relative _ htext, hbin]
    simp only [List.length_append, List.length_cons, List.length_nil]
    omega

theorem executableName_ne_binary (root : Path) (p : Platform) :
    p.executableName ≠ (root / "bin" / p.text / p.executableName : Path).text := by
  intro h
  have hslash := slash_mem_binary root p
  rw [← h, Platform.executableName] at hslash
  revert hslash
  split <;> decide +kernel

/-! ## One search -/

theorem FileTree.Missing.not_there {t : FileTree} {p : Path} (h : t.Missing p) : ¬t.There p := by
  intro ht
  rw [There, h] at ht
  cases ht

theorem FileTree.Missing.not_refuses {t : FileTree} {p : Path} {e : IoError} (h : t.Missing p) :
    ¬t.Refuses p e := by
  intro he
  rw [Refuses, h] at he
  cases he

namespace Roots

/-- Where the downloaded formatter lies. -/
def cached (r : Roots) (p : Platform) : Path := r.cache p / p.executableName

/-- The formatter lies at a place where a search takes it without further ado. -/
inductive Settled (r : Roots) (p : Platform) (t : FileTree) : String → Prop
  | bundled : t.There (r.bundled p) → Settled r p t (r.bundled p).text
  | cached : t.Missing (r.bundled p) → t.There (r.cached p) → Settled r p t (r.cached p).text

end Roots

namespace Search

open FileTree

variable {s : Search} {sup : Suppliers} {t t₁ t₂ : FileTree} {r : Resolved} {l : String}
  {w : List Warning} {c : List SupplyCall} {q : List Request}

/-- Nothing that a search does puts a formatter where the integration has its own: not the making of the
directory for downloads, not the download, not the build. -/
structure Aloof (s : Search) (sup : Suppliers) (t : FileTree) : Prop where
  room : ∀ {w t₁}, s.Cleared t w t₁ → ¬t₁.There s.bundled
  fetch : ∀ {w t₁}, s.Cleared t w t₁ → s.options.autoDownload = true →
    (s.fetched sup t₁).tree.There s.bundled → t₁.There s.bundled
  build : ∀ {w c q t₂ p}, s.Onward sup t w c q t₂ → s.project? = some p →
    t₂.There (p / "Cargo.toml") → (sup.build p t₂).2.There s.bundled → t₂.There s.bundled

theorem Stumbled.location_error (h : s.Stumbled sup t r) : ∃ crash, r.location = .error crash := by
  cases h with
  | onward _ hr => cases hr <;> exact ⟨_, rfl⟩
  | _ => exact ⟨_, rfl⟩

theorem traced_of_location (h : (s.resolve sup t).location = .ok l) :
    s.Traced sup t (s.resolve sup t) := by
  rcases resolve_eq_iff.1 (rfl : s.resolve sup t = _) with hr | hr
  · exact hr
  · obtain ⟨crash, hcrash⟩ := hr.location_error
    rw [h] at hcrash
    cases hcrash

theorem Aloof.onward (ha : s.Aloof sup t) (h : s.Onward sup t w c q t₂) : ¬t₂.There s.bundled := by
  cases h with
  | unasked h _ => exact ha.room h
  | network h hd _ | archive h hd _ | fruitless h hd _ _ => exact fun ht => ha.room h (ha.fetch h hd ht)

theorem Aloof.built (ha : s.Aloof sup t) (h : s.Onward sup t w c q t₂) (hr : s.Built sup t₂ r) :
    ¬r.tree.There s.bundled := by
  cases hr with
  | unasked | noSources => exact ha.onward h
  | failed hp hm hb | fruitless hp hm hb _ | built hp hm hb _ _ _ =>
    intro ht
    have := ha.build h hp hm
    rw [hb] at this
    exact ha.onward h (this ht)

/-- What a search takes is there. -/
theorem Traced.there (h : s.Traced sup t r) (hc : s.options.trimmedCustomPath = none)
    (hl : r.location = .ok l) (hname : l ≠ s.executable) : r.tree.contains l = .ok true := by
  cases h with
  | custom hp =>
    rw [hc] at hp
    cases hp
  | bundled _ ht | cached _ _ ht | downloaded _ _ _ ht =>
    cases hl
    exact ht
  | onward _ hr =>
    cases hr with
    | built _ _ _ _ _ ht =>
      cases hl
      exact ht
    | _ =>
      cases hl
      exact absurd rfl hname

/-- A search that comes to the integration's own formatter or to the downloaded one leaves a tree in which
it is settled. -/
theorem Traced.settled (h : s.Traced sup t r) (ha : s.Aloof sup t)
    (hc : s.options.trimmedCustomPath = none) (hl : r.location = .ok l)
    (hplace : l = s.bundled.text ∨ l = s.cached.text) (htell : ∀ e, ¬r.tree.Refuses s.bundled e) :
    s.roots.Settled s.platform r.tree l := by
  have hthere : r.tree.contains l = .ok true := by
    refine h.there hc hl ?_
    rcases hplace with rfl | rfl
    · exact (executableName_ne_binary s.roots.extension s.platform).symm
    · exact (executableName_ne_binary s.roots.storage s.platform).symm
  rcases hplace with rfl | rfl
  · exact .bundled hthere
  -- The downloaded formatter counts only while the integration has none of its own.
  suffices hnot : s.cached.text = s.bundled.text ∨ ¬r.tree.There s.bundled by
    rcases hnot with heq | hnot
    · rw [heq] at hthere ⊢
      exact .bundled hthere
    · rcases r.tree.there_or_missing_or_refuses s.bundled with hb | hb | ⟨e, hb⟩
      · exact absurd hb hnot
      · exact .cached hb hthere
      · exact absurd hb (htell e)
  cases h with
  | custom hp =>
    rw [hc] at hp
    cases hp
  | bundled _ _ => exact .inl (Except.ok.inj hl).symm
  | cached _ hb _ => exact .inr hb.not_there
  | downloaded hd hask _ _ => exact .inr fun ht => ha.room hd (ha.fetch hd hask ht)
  | onward ho hr =>
    have hbuilt := ha.built ho hr
    exact .inr hbuilt

end Search

/-- A search in a tree in which it is settled takes the caller's own formatter or the one that is there, and
does nothing else. -/
theorem Roots.Settled.resolve_eq {s : Search} {t : FileTree} {l : String}
    (h : s.roots.Settled s.platform t l) (sup : Suppliers) :
    s.resolve sup t = ⟨.ok (s.options.trimmedCustomPath.getD l), [], [], [], t⟩ := by
  cases hc : s.options.trimmedCustomPath with
  | some custom => exact (Search.Traced.custom hc).resolve_eq
  | none =>
    cases h with
    | bundled hb => exact (Search.Traced.bundled hc hb).resolve_eq
    | cached hb ht => exact (Search.Traced.cached hc hb ht).resolve_eq

/-! ## Many searches -/

/-- One of several searches: what differs from one to the next. -/
structure Turn where
  base : String
  options : ResolutionOptions
  suppliers : Suppliers

section Turns

variable (p : Platform) (r : Roots)

namespace Turn

def search (turn : Turn) : Search := ⟨p, turn.base, r, turn.options⟩

def outcome (turn : Turn) (t : FileTree) : Resolved := (turn.search p r).resolve turn.suppliers t

end Turn

/-- What comes of each of several searches. -/
def turns : FileTree → List Turn → List Resolved
  | _, [] => []
  | t, turn :: later => turn.outcome p r t :: turns (turn.outcome p r t).tree later

/-- The tree that several searches leave. -/
def treeAfter : FileTree → List Turn → FileTree
  | t, [] => t
  | t, turn :: later => treeAfter (turn.outcome p r t).tree later

variable {p r} {t : FileTree} {l : String}

theorem turns_append (later : List Turn) : ∀ (before : List Turn) (t : FileTree),
    turns p r t (before ++ later) = turns p r t before ++ turns p r (treeAfter p r t before) later
  | [], _ => rfl
  | turn :: before, t => by
    rw [List.cons_append, turns, turns, treeAfter, turns_append later before, List.cons_append]

/-- Searches that are settled stay so. -/
theorem Roots.Settled.turns_eq (h : r.Settled p t l) : ∀ later : List Turn,
    turns p r t later =
      later.map fun turn => ⟨.ok (turn.options.trimmedCustomPath.getD l), [], [], [], t⟩
  | [] => rfl
  | turn :: later => by
    have hturn : turn.outcome p r t = ⟨.ok (turn.options.trimmedCustomPath.getD l), [], [], [], t⟩ :=
      Roots.Settled.resolve_eq (s := turn.search p r) h turn.suppliers
    rw [turns, hturn, h.turns_eq later, List.map_cons]

/-- Once a search has come to the integration's own formatter or to the downloaded one, every later search
does, unless the caller has one of their own: without a word, a call or a change to the tree. -/
theorem turns_settled {before later : List Turn} {turn : Turn} {done : Resolved}
    (hdone : turn.outcome p r (treeAfter p r t before) = done)
    (hcustom : turn.options.trimmedCustomPath = none) (hl : done.location = .ok l)
    (hplace : l = (r.bundled p).text ∨ l = (r.cached p).text)
    (haloof : (turn.search p r).Aloof turn.suppliers (treeAfter p r t before))
    (htell : ∀ e, ¬done.tree.Refuses (r.bundled p) e) :
    turns p r t (before ++ turn :: later) = turns p r t before ++ done ::
      later.map fun turn => ⟨.ok (turn.options.trimmedCustomPath.getD l), [], [], [], done.tree⟩ := by
  subst hdone
  have htraced := Search.traced_of_location hl
  have hsettled : r.Settled p (turn.outcome p r (treeAfter p r t before)).tree l :=
    htraced.settled haloof hcustom hl hplace htell
  rw [turns_append, turns, hsettled.turns_eq]

end Turns

/-! ## Roots apart and roots within one another -/

/-- Suppliers that put an empty formatter where it is asked for, and build nothing. -/
def delivering : Suppliers where
  fetch _ destination executable t :=
    ⟨.ok (), [], true, (t.write (destination / executable).text []).toOption.getD t⟩
  build _ t := (.error (.failed (.reported "no cargo")), t)

def turnBy (custom : Option String) (mayDownload : Bool) : Turn where
  base := "http://releases"
  options := ⟨custom, false, mayDownload, defaultVersion⟩
  suppliers := delivering

def linux : Platform := ⟨"linux", "x64"⟩

def apartRoots : Roots := ⟨⟨.root, ["ext"]⟩, ⟨.root, ["store"]⟩, none⟩

/-- Downloads are kept below the place where the integration has its own formatter. -/
def nestedRoots : Roots := ⟨⟨.root, ["ext"]⟩, ⟨.root, ["ext", "bin", "linux-x64", toolName]⟩, none⟩

/-- What the first search of a tree that has nothing in it leaves to the second. -/
def afterFirst : FileTree := treeAfter linux apartRoots ⟨[], [], []⟩ [turnBy none false]

theorem Search.Cleared.tree_eq {s : Search} {t t₁ : FileTree} {w : List Warning} (h : s.Cleared t w t₁) :
    t₁ = ((Act.makeDirectories s.cache).outcome t).2 := by
  cases h with
  | made _ _ _ _ hm | refused _ _ _ _ hm => rw [hm]

theorem aloof_apart : ((turnBy none true).search linux apartRoots).Aloof delivering afterFirst where
  room h := by
    rw [h.tree_eq]
    decide +kernel
  fetch h _ := by
    rw [h.tree_eq]
    decide +kernel
  build _ hp := by cases hp

/-- The second search downloads the formatter; a caller with a formatter of their own and one without come
after it. -/
theorem turns_settled_apart :
    ((turnBy none true).outcome linux apartRoots afterFirst).location = .ok (apartRoots.cached linux).text ∧
    turns linux apartRoots ⟨[], [], []⟩
        ([turnBy none false] ++ turnBy none true :: [turnBy (some " /own ") true, turnBy none true]) =
      turns linux apartRoots ⟨[], [], []⟩ [turnBy none false] ++
        (turnBy none true).outcome linux apartRoots afterFirst ::
          [⟨.ok "/own", [], [], [], ((turnBy none true).outcome linux apartRoots afterFirst).tree⟩,
            ⟨.ok (apartRoots.cached linux).text, [], [], [],
              ((turnBy none true).outcome linux apartRoots afterFirst).tree⟩] := by
  have hl : ((turnBy none true).outcome linux apartRoots afterFirst).location =
      .ok (apartRoots.cached linux).text := by decide +kernel
  have hmissing : ((turnBy none true).outcome linux apartRoots afterFirst).tree.Missing
      (apartRoots.bundled linux) := by decide +kernel
  have hown : (turnBy (some " /own ") true).options.trimmedCustomPath = some "/own" := by decide +kernel
  refine ⟨hl, (turns_settled rfl rfl hl (.inr rfl) aloof_apart fun e => hmissing.not_refuses).trans ?_⟩
  simp only [List.map_cons, List.map_nil, hown]
  rfl

/-- Here the directory for downloads passes through the place of the integration's own formatter. The first
search downloads the formatter and takes it. The second takes the directory that the first has made for it. -/
theorem turns_unsettled_nested :
    (∀ w t₁, ((turnBy none true).search linux nestedRoots).Cleared ⟨[], [], []⟩ w t₁ →
      ((((turnBy none true).search linux nestedRoots).fetched delivering t₁).tree.There
        (nestedRoots.bundled linux) ↔ t₁.There (nestedRoots.bundled linux))) ∧
    (∀ project t, (delivering.build project t).2 = t) ∧
    (turns linux nestedRoots ⟨[], [], []⟩ [turnBy none true, turnBy none false]).map (·.location) =
      [.ok (nestedRoots.cached linux).text, .ok (nestedRoots.bundled linux).text] ∧
    (nestedRoots.cached linux).text ≠ (nestedRoots.bundled linux).text := by
  refine ⟨fun w t₁ h => ?_, fun _ _ => rfl, by decide +kernel, by decide +kernel⟩
  rw [h.tree_eq]
  decide +kernel

end SqlTidy
