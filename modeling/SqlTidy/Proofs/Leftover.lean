import SqlTidy.Proofs.Abort

/-!
# What a failed download leaves behind

An archive is unpacked straight into the directory that the formatter is later looked for in, member by
member, and nothing is taken away again when a member fails. So a download that fails may leave a
formatter behind, and a later search takes it: `fetch_there_iff` says when. The members up to the one
that fails are all that counts (`Zip.Brings`); a download that fails before it has a whole body leaves
nothing but the directory itself.
-/

namespace SqlTidy

/-- One of the members that are unpacked brings a path into being; what stands at `p` does not count. -/
def Zip.Brings (bs : Octets) (destination : Path) (t : FileTree) (p : Position) (path : Path) : Prop :=
  ∃ before m after t₁, members bs = .ok (before ++ m :: after) ∧
    (unpackAll bs destination (before ++ m :: after) before).outcome t = (.ok (), t₁) ∧
    ¬(t₁.erase p).There path ∧
    (((unpackMember bs destination (lastNamed (before ++ m :: after) m)).outcome t₁).2.erase p).There path

theorem Zip.unpack_there_iff {bs : Octets} {destination path : Path} {t : FileTree} {p : Position}
    (ht : ¬(t.erase p).There path) :
    (((unpack bs destination).outcome t).2.erase p).There path ↔ Brings bs destination t p path := by
  rcases hm : members bs with e | ms
  · rw [unpack_of_error hm]
    refine iff_of_false ht ?_
    rintro ⟨before, m, after, t₁, hm', -⟩
    rw [hm] at hm'
    cases hm'
  · rw [unpack_of_members hm, unpackAll]
    refine (Act.forM_crosses_iff (P := fun t => (t.erase p).There path)
      (fun m => growing_unpackMember _ _ _) (fun hg h => (hg.erase p).there h) ht).trans ?_
    constructor
    · rintro ⟨before, m, after, t₁, rfl, h⟩
      exact ⟨before, m, after, t₁, hm, h⟩
    · rintro ⟨before, m, after, t₁, hm', h⟩
      rw [hm] at hm'
      cases hm'
      exact ⟨before, m, after, t₁, rfl, h⟩

namespace Downloader

variable {d : Downloader} {url : String} {destination path : Path} {executable : Option String}
  {t t₁ t₂ : FileTree} {octets : Octets} {stop : Option Chunk} {p : Position}

/-- The server leaves the tree alone. -/
def Passive (d : Downloader) : Prop := ∀ url t, (d.server url t).2 = t

theorem Passive.tree_eq {x : Except String Response} (hs : d.Passive) (h : d.server url t = (x, t₁)) :
    t₁ = t := by
  have htree := hs url t
  rwa [h] at htree

theorem Answered.tree_eq {response : Response} (hs : d.Passive)
    (h : d.Answered url destination t response t₁) :
    t₁ = ((Act.makeDirectories destination).outcome t).2 := by
  obtain ⟨_, hm, ha, _⟩ := h
  rw [hm, hs.tree_eq ha]

theorem Answered.unique {response response' : Response} {t₁' : FileTree}
    (h : d.Answered url destination t response t₁) (h' : d.Answered url destination t response' t₁') :
    response = response' ∧ t₁ = t₁' := by
  obtain ⟨_, hm, ha, _⟩ := h
  obtain ⟨_, hm', ha', _⟩ := h'
  rw [hm] at hm'
  cases hm'
  rw [ha] at ha'
  cases ha'
  exact ⟨rfl, rfl⟩

/-- There is one body, and one place for it. -/
theorem Held.unique {octets' : Octets} {stop' : Option Chunk} {t₁' : FileTree} {p' : Position}
    (h : d.Held url destination t octets stop t₁ p) (h' : d.Held url destination t octets' stop' t₁' p') :
    octets = octets' ∧ stop = stop' ∧ t₁ = t₁' ∧ p = p' := by
  obtain ⟨ha, ht, hc⟩ := h
  obtain ⟨ha', ht', hc'⟩ := h'
  obtain ⟨rfl, rfl⟩ := ha.unique ha'
  rw [hc] at hc'
  cases hc'
  rw [TemporaryAt, ht] at ht'
  cases ht'
  exact ⟨rfl, rfl, rfl, rfl⟩

theorem Held.noNul (h : d.Held url destination t octets stop t₁ p) :
    hasNul destination.text = false := by
  obtain ⟨⟨hn, -, -, -⟩, -, -⟩ := h
  exact hn

theorem Held.tree_eq (hs : d.Passive) (h : d.Held url destination t octets stop t₁ p) :
    t₁ = ((Act.makeDirectories destination).outcome t).2 := by
  obtain ⟨ha, -, -⟩ := h
  exact ha.tree_eq hs

/-- The ways in which a path is there after a download that failed: it came with the destination, it is
the temporary file of a body that broke off, or a member brought it. -/
inductive Leaves (d : Downloader) (url : String) (destination : Path) (t : FileTree) (path : Path) : Prop
  | made : hasNul destination.text = false →
      ((Act.makeDirectories destination).outcome t).2.There path → Leaves d url destination t path
  | broken {octets : Octets} {crash : Crash} {t₁ : FileTree} {p : Position} :
      d.Held url destination t octets (some (.broken crash)) t₁ p →
      (t₁.holding p octets).There path → Leaves d url destination t path
  | brought {octets : Octets} {t₁ : FileTree} {p : Position} :
      d.Held url destination t octets none t₁ p →
      Zip.Brings octets destination (t₁.holding p octets) p path → Leaves d url destination t path

theorem mark_tree_of_error {e : DownloadError}
    (h : ((d.mark destination executable).outcome t).1 = .error e) :
    ((d.mark destination executable).outcome t).2 = t := by
  obtain ⟨⟨hm, name, rfl, hn⟩, -⟩ := mark_eq_error_iff.1 h
  simp [mark, hm, hn]

/-- A path is there after unpacking if it was there before, or if a member brought it. -/
theorem Held.there_iff {x : Except DownloadError Unit} (hs : d.Passive)
    (hz : isTarName (archiveNameOf url) = false) (h : d.Held url destination t octets none t₁ p)
    (hu : (unpackArchive (archiveNameOf url) octets destination).outcome (t₁.holding p octets) =
      (x, t₂)) :
    (t₂.erase p).There path ↔ d.Leaves url destination t path := by
  have ht : d.TemporaryAt t₁ destination p := by
    obtain ⟨-, ht, -⟩ := h
    exact ht
  have htree : t₂ = ((Zip.unpack octets destination).outcome (t₁.holding p octets)).2 := by
    rw [unpackArchive_of_zip hz, Act.outcome_mapError] at hu
    exact (congrArg Prod.snd hu).symm
  by_cases h₁ : t₁.There path
  · have hg := growing_unpackArchive (archiveNameOf url) octets destination (t₁.holding p octets)
    have hg' := hg.erase p
    rw [hu, ht.erase_holding] at hg'
    exact iff_of_true (hg'.there h₁) (.made h.noNul (h.tree_eq hs ▸ h₁))
  · have h₀ : ¬((t₁.holding p octets).erase p).There path := by rwa [ht.erase_holding]
    rw [htree, Zip.unpack_there_iff h₀]
    constructor
    · exact fun hb => .brought h hb
    · intro hl
      cases hl with
      | made _ hp => exact absurd (h.tree_eq hs ▸ hp) h₁
      | broken hh _ =>
        obtain ⟨-, hstop, -, -⟩ := h.unique hh
        cases hstop
      | brought hh hb =>
        obtain ⟨rfl, -, rfl, rfl⟩ := h.unique hh
        exact hb

/-- With no body, the destination is all that counts. -/
theorem leaves_iff_of_not_held (hn : hasNul destination.text = false)
    (hh : ∀ octets stop t₁ p, ¬d.Held url destination t octets stop t₁ p) :
    ((Act.makeDirectories destination).outcome t).2.There path ↔ d.Leaves url destination t path := by
  constructor
  · exact fun h => .made hn h
  · intro h
    cases h with
    | made _ hp => exact hp
    | broken hb _ => exact absurd hb (hh _ _ _ _)
    | brought hb _ => exact absurd hb (hh _ _ _ _)

/-- The same holds of a body that was interrupted or refused. -/
theorem Held.leaves_iff (hs : d.Passive) (h : d.Held url destination t octets stop t₁ p)
    (hnone : stop ≠ none) (hbroken : ∀ c, stop ≠ some (.broken c)) :
    t₁.There path ↔ d.Leaves url destination t path := by
  rw [h.tree_eq hs]
  constructor
  · exact fun hp => .made h.noNul hp
  · intro hl
    cases hl with
    | made _ hp => exact hp
    | broken hb _ => exact absurd (h.unique hb).2.1 (hbroken _)
    | brought hb _ => exact absurd (h.unique hb).2.1 hnone

theorem Held.broken_iff {crash : Crash} (hs : d.Passive)
    (h : d.Held url destination t octets (some (.broken crash)) t₁ p) :
    (t₁.holding p octets).There path ↔ d.Leaves url destination t path := by
  refine ⟨fun hp => .broken h hp, fun hl => ?_⟩
  cases hl with
  | made _ hp =>
    rw [← h.tree_eq hs] at hp
    obtain ⟨-, ht, -⟩ := h
    exact (ht.grows octets).there hp
  | broken hb hp =>
    obtain ⟨rfl, -, rfl, rfl⟩ := h.unique hb
    exact hp
  | brought hb _ => cases (h.unique hb).2.1

/-- What is there after a download that failed and was not there before. -/
theorem fetch_there_iff {e : DownloadError} (hs : d.Passive)
    (hz : isTarName (archiveNameOf url) = false) (ht : ¬t.There path)
    (he : (d.fetch url destination executable t).result = .error e) :
    (d.fetch url destination executable t).tree.There path ↔ d.Leaves url destination t path := by
  obtain ⟨r, hr⟩ := exists_fetches d url destination executable t
  rw [hr.fetch_eq] at he ⊢
  cases hr with
  | nul hn =>
    refine iff_of_false ht fun hl => ?_
    have hn' : hasNul destination.text = false := by
      cases hl with
      | made hn' _ => exact hn'
      | broken hh _ => exact hh.noNul
      | brought hh _ => exact hh.noNul
    simp [hn] at hn'
  | noDestination hn hm =>
    refine Iff.trans ?_ (leaves_iff_of_not_held hn ?_)
    · rw [hm]
    · rintro octets stop t₁ p ⟨⟨_, hm', _, _⟩, _, _⟩
      rw [hm] at hm'
      cases hm'
  | noAnswer hn hm ha =>
    obtain rfl := hs.tree_eq ha
    refine Iff.trans ?_ (leaves_iff_of_not_held hn ?_)
    · rw [hm]
    · rintro octets stop t₁ p ⟨⟨_, hm', ha', _⟩, _, _⟩
      rw [hm] at hm'
      cases hm'
      rw [ha] at ha'
      cases ha'
  | refused hn hm ha hst =>
    obtain rfl := hs.tree_eq ha
    refine Iff.trans ?_ (leaves_iff_of_not_held hn ?_)
    · rw [hm]
    · rintro octets stop t₁ p ⟨⟨_, hm', ha', hst'⟩, _, _⟩
      rw [hm] at hm'
      cases hm'
      rw [ha] at ha'
      cases ha'
      omega
  | noTemporary ha hcreate =>
    have hn : hasNul destination.text = false := by
      obtain ⟨hn, -, -, -⟩ := ha
      exact hn
    refine Iff.trans ?_ (leaves_iff_of_not_held hn ?_)
    · rw [← ha.tree_eq hs]
    · rintro octets stop t₁ p ⟨ha', ht', hc'⟩
      obtain ⟨rfl, rfl⟩ := ha.unique ha'
      rw [ht'.create_eq] at hcreate
      cases hcreate
  | interrupted hh => exact hh.leaves_iff hs (by simp) (by simp)
  | unwritten hh => exact hh.leaves_iff hs (by simp) (by simp)
  | broken hh => exact hh.broken_iff hs
  | failed hh hu => exact hh.there_iff hs hz hu
  | unpacked hh hu =>
    rw [mark_tree_of_error he]
    exact hh.there_iff hs hz hu

end Downloader

namespace Search

/-- When a failed download leaves a formatter behind, and that a later search takes it. -/
theorem failed_download_leaves_iff (s : Search) (d : Downloader) (hs : d.Passive) (t : FileTree)
    (e : DownloadError) (r : Downloaded) (ht : ¬t.There s.cached)
    (hr : d.fetch s.url s.cache (some s.executable) t = r) (he : r.result = .error e) :
    (r.tree.There s.cached ↔ d.Leaves s.url s.cache t s.cached) ∧
      ∀ (s' : Search) (sup : Suppliers), s'.cached = s.cached →
        s'.options.trimmedCustomPath = none → r.tree.Missing s'.bundled → r.tree.There s.cached →
        s'.resolve sup r.tree = ⟨.ok s.cached.text, [], [], [], r.tree⟩ := by
  subst hr
  refine ⟨Downloader.fetch_there_iff hs s.isTarName_url ht he, ?_⟩
  intro s' sup hcached hcustom hbundled hthere
  rw [← hcached] at hthere ⊢
  exact (Traced.cached hcustom hbundled hthere).resolve_eq

/-- An archive with one empty file, whose checksum is wrong. -/
def damagedArchive (name : Octets) : Octets :=
  let size := UInt8.ofNat name.length
  Zip.headerMagic ++ List.replicate 22 0 ++ [size, 0, 0, 0] ++ name ++
    Zip.memberMagic ++ List.replicate 12 0 ++ [1, 0, 0, 0] ++ List.replicate 8 0 ++ [size, 0] ++
    List.replicate 16 0 ++ name ++
    Zip.endMagic ++ List.replicate 8 0 ++ [46 + size, 0, 0, 0] ++ [30 + size, 0, 0, 0] ++ [0, 0]

/-- The archive of a formatter, damaged. -/
def damagedFormatter : Octets := damagedArchive (toolName.toList.map fun c => UInt8.ofNat c.toNat)

theorem answering_passive (octets : Octets) : (answering octets).Passive := fun _ _ => rfl

/-- What a download of it comes to in an empty tree. -/
def damagedDownload : Downloaded :=
  (answering damagedFormatter).fetch (loneSearch "store").url (loneSearch "store").cache
    (some (loneSearch "store").executable) ⟨[], [], []⟩

/-- The damaged formatter stays behind, and the next search takes it. -/
theorem failed_download_leaves_damaged :
    damagedDownload.result = .error (.archive (.damaged (archiveNameOf (loneSearch "store").url)
        (.checksum toolName))) ∧
      (answering damagedFormatter).Leaves (loneSearch "store").url (loneSearch "store").cache ⟨[], [], []⟩
        (loneSearch "store").cached ∧
      (loneSearch "store").resolve offline damagedDownload.tree =
        ⟨.ok (loneSearch "store").cached.text, [], [], [], damagedDownload.tree⟩ := by
  have hd : damagedDownload.result = .error (.archive (.damaged
        (archiveNameOf (loneSearch "store").url) (.checksum toolName))) ∧
      damagedDownload.tree.There (loneSearch "store").cached ∧
      damagedDownload.tree.Missing (loneSearch "store").bundled := by
    decide +kernel
  obtain ⟨he, hthere, hbundled⟩ := hd
  have h := failed_download_leaves_iff (loneSearch "store") (answering damagedFormatter)
    (answering_passive _) ⟨[], [], []⟩ _ damagedDownload (by decide +kernel) rfl he
  exact ⟨he, h.1.1 hthere, h.2 (loneSearch "store") offline rfl rfl hbundled hthere⟩

end Search

end SqlTidy
