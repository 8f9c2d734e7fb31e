import SqlTidy.Proofs.Fetching

/-!
# Downloads that end a search

A search goes on after a failed download, but not after one that crashes. With a server whose bodies
end, are interrupted or are refused, a download crashes over a directory name with a NUL, and over an
archive at which unpacking crashes (`Downloader.crash_iff`). A search that has come to its download
crashes for the second reason only (`Cleared.fetched_crash_iff`).
-/

namespace SqlTidy

/-! ## Names with a NUL -/

theorem contains_intercalate_slash : ∀ parts : List (List Char),
    (['/'].intercalate parts).contains '\x00' = parts.any (·.contains '\x00')
  | [] => rfl
  | [part] => by simp
  | part :: part' :: parts => by
    rw [List.intercalate_cons_cons, List.any_cons, ← contains_intercalate_slash (part' :: parts)]
    simp

/-- A path has a NUL where one of its names has one. -/
theorem hasNul_text (p : Path) : hasNul p.text = p.parts.any hasNul := by
  have h : (['/'].intercalate (p.parts.map String.toList)).contains '\x00' = p.parts.any hasNul := by
    rw [contains_intercalate_slash, List.any_map]
    rfl
  obtain ⟨_ | _ | _, _ | ⟨part, parts⟩⟩ := p
  all_goals first
    | decide
    | (rw [← h]; simp [Path.text, hasNul, Anchor.text, String.toList_intercalate])

theorem hasNul_div (p : Path) {name : String} (hr : (Path.ofText name).isAbsolute = false)
    (hn : (Path.ofText name).parts.any hasNul = false) : hasNul (p / name).text = hasNul p.text := by
  rw [Path.div_of_relative p hr, hasNul_text, hasNul_text, List.any_append, hn, Bool.or_false]

/-- The name of the formatter adds no NUL. -/
theorem Search.hasNul_cached (s : Search) : hasNul s.cached.text = hasNul s.cache.text := by
  rw [cached, executable, Platform.executableName]
  split
  · exact hasNul_div _ (by decide) (by decide)
  · exact hasNul_div _ (by decide) (by decide)

/-! ## The kind of a release archive -/

theorem toList_archiveNameOf_of_zip {url : String} {front : List Char} (h : url.toList = front ++ ".zip".toList) :
    (archiveNameOf url).toList = (front.reverse.takeWhile (· != '/')).reverse ++ ".zip".toList := by
  have hr : url.toList.reverse = 'p' :: 'i' :: 'z' :: '.' :: front.reverse := by simp [h]
  simp [archiveNameOf, afterLastSlash, dropFinalSlashes, hr]

theorem isTarName_of_zip {url : String} {front : List Char} (h : url.toList = front ++ ".zip".toList) :
    isTarName (archiveNameOf url) = false := by
  simp [isTarName, List.isSuffixOf, toList_archiveNameOf_of_zip h, List.isPrefixOf]

theorem exists_toList_releaseUrl (base version : String) (platform : Platform) :
    ∃ front, (releaseUrl base version platform).toList = front ++ ".zip".toList := by
  refine ⟨(dropFinalSlashes base ++ "/v" ++ version ++ "/" ++ toolName ++ "-" ++ version ++ "-" ++
    platform.text).toList, ?_⟩
  simp [releaseUrl, archiveName]

theorem Search.isTarName_url (s : Search) : isTarName (archiveNameOf s.url) = false := by
  obtain ⟨front, h⟩ := exists_toList_releaseUrl s.base s.options.version s.platform
  exact isTarName_of_zip h

/-! ## Crashes of a download -/

namespace Downloader

variable {d : Downloader} {url : String} {destination : Path} {executable : Option String}
  {t t₁ t₂ : FileTree} {octets : Octets} {p : Position} {c : Crash}

/-- The server may fail, refuse and interrupt, but it breaks off in no other way. -/
def Orderly (d : Downloader) : Prop :=
  ∀ url t response t₁, d.server url t = (.ok response, t₁) → ∀ n c, .broken c ∉ response.body n

theorem Orderly.not_broken (hd : d.Orderly) : ¬d.Held url destination t octets (some (.broken c)) t₁ p := by
  rintro ⟨⟨_, _, hs, _⟩, _, hc⟩
  exact hd _ _ _ _ hs _ _ (collect_stop _ (congrArg Prod.snd hc)).1

/-- What was unpacked has a name that the system does not take. -/
def MarksNul (d : Downloader) (destination : Path) (executable : Option String) : Prop :=
  d.marksExecutable = true ∧ ∃ name, executable = some name ∧ hasNul (destination / name).text = true

theorem mark_eq_error_iff {e : DownloadError} :
    ((d.mark destination executable).outcome t).1 = .error e ↔
      d.MarksNul destination executable ∧ e = .crash .nul := by
  rcases executable with _ | name
  · simp [mark, MarksNul]
  rcases hm : d.marksExecutable
  · simp [mark, MarksNul, hm]
  rcases hn : hasNul (destination / name).text
  · simp [mark, MarksNul, hm, hn]
  · constructor
    · intro h
      simp only [mark, hm, hn, if_true, Act.outcome_fail, Except.error.injEq] at h
      exact ⟨⟨hm, name, rfl, hn⟩, h.symm⟩
    · rintro ⟨-, rfl⟩
      simp [mark, hm, hn]

theorem unpackArchive_of_zip {name : String} (h : isTarName name = false) :
    unpackArchive name octets destination =
      (Zip.unpack octets destination).mapError (unpackFailure name destination) := by
  simp [unpackArchive, h]

theorem unpackFailure_eq_crash {name : String} {e : UnpackError} :
    unpackFailure name destination e = .crash c ↔ e = .crash c := by
  cases e <;> simp [unpackFailure]

theorem unpackArchive_crash_iff {name : String} (h : isTarName name = false) :
    ((unpackArchive name octets destination).outcome t).1 = .error (.crash c) ↔
      Zip.Crashes octets destination t c := by
  rw [unpackArchive_of_zip h, Act.outcome_mapError, ← Zip.unpack_crash_iff]
  rcases ((Zip.unpack octets destination).outcome t).1 with e | _
  · simp [unpackFailure_eq_crash]
  · simp

theorem unpackArchive_ok_iff {name : String} (h : isTarName name = false) :
    (unpackArchive name octets destination).outcome t = (.ok (), t₁) ↔
      (Zip.unpack octets destination).outcome t = (.ok (), t₁) := by
  rw [unpackArchive_of_zip h, Act.outcome_mapError]
  rcases (Zip.unpack octets destination).outcome t with ⟨e | _, t₂⟩
  · simp
  · simp

/-- A download of a zip archive crashes over a NUL in a name, or where unpacking crashes. -/
theorem crash_iff (hd : d.Orderly) (hz : isTarName (archiveNameOf url) = false) :
    (d.fetch url destination executable t).result = .error (.crash c) ↔
      hasNul destination.text = true ∧ c = .nul ∨
        ∃ octets t₁ p, d.Held url destination t octets none t₁ p ∧
          (Zip.Crashes octets destination (t₁.holding p octets) c ∨
            (∃ t₂, (Zip.unpack octets destination).outcome (t₁.holding p octets) = (.ok (), t₂)) ∧
              d.MarksNul destination executable ∧ c = .nul) := by
  constructor
  · obtain ⟨r, hr⟩ := exists_fetches d url destination executable t
    rw [hr.fetch_eq]
    intro h
    cases hr with
    | nul hn =>
      cases h
      exact .inl ⟨hn, rfl⟩
    | broken hh => exact absurd hh hd.not_broken
    | failed hh hu =>
      cases h
      exact .inr ⟨_, _, _, hh, .inl ((unpackArchive_crash_iff hz).1 (congrArg Prod.fst hu))⟩
    | unpacked hh hu =>
      obtain ⟨hm, hc⟩ := mark_eq_error_iff.1 h
      cases hc
      exact .inr ⟨_, _, _, hh, .inr ⟨⟨_, (unpackArchive_ok_iff hz).1 hu⟩, hm, rfl⟩⟩
    | _ => cases h
  · rintro (⟨hn, rfl⟩ | ⟨octets, t₁, p, hh, hc | ⟨⟨t₂, hu⟩, hm, rfl⟩⟩)
    · rw [(Fetches.nul hn).fetch_eq]
    · obtain ⟨t₂, hu⟩ := Act.exists_outcome ((unpackArchive_crash_iff hz).2 hc)
      rw [(Fetches.failed hh hu).fetch_eq]
    · rw [(Fetches.unpacked hh ((unpackArchive_ok_iff hz).2 hu)).fetch_eq]
      exact mark_eq_error_iff.2 ⟨hm, rfl⟩

end Downloader

/-! ## Crashes of a search -/

/-- Downloads for real, and builds in some way. -/
def Downloader.supplying (d : Downloader) (build : Path → FileTree → Except BuildFailure Unit × FileTree) :
    Suppliers where
  fetch url destination executable := d.fetch url destination (some executable)
  build := build

namespace Search

variable {s : Search} {d : Downloader} {t t₁ : FileTree} {w : List Warning} {c : Crash}
  {build : Path → FileTree → Except BuildFailure Unit × FileTree}

theorem Cleared.noNul (h : s.Cleared t w t₁) : hasNul s.cache.text = false := by
  cases h with
  | made _ _ _ hn _ => exact hn
  | refused _ _ _ hn _ => exact hn

/-- A search that has come to its download crashes with the archive. -/
theorem Cleared.fetched_crash_iff (h : s.Cleared t w t₁) (hd : d.Orderly) :
    (s.fetched (d.supplying build) t₁).result = .error (.crash c) ↔
      ∃ octets t₂ p, d.Held s.url s.cache t₁ octets none t₂ p ∧
        Zip.Crashes octets s.cache (t₂.holding p octets) c := by
  have hmark : ¬d.MarksNul s.cache (some s.executable) := by
    rintro ⟨-, name, hname, hn⟩
    cases hname
    have hc := s.hasNul_cached
    rw [cached, hn, h.noNul] at hc
    cases hc
  change (d.fetch s.url s.cache (some s.executable) t₁).result = _ ↔ _
  rw [Downloader.crash_iff hd s.isTarName_url]
  constructor
  · rintro (⟨hn, -⟩ | ⟨octets, t₂, p, hh, hc | ⟨-, hm, -⟩⟩)
    · rw [h.noNul] at hn
      cases hn
    · exact ⟨octets, t₂, p, hh, hc⟩
    · exact absurd hm hmark
  · rintro ⟨octets, t₂, p, hh, hc⟩
    exact .inr ⟨octets, t₂, p, hh, .inl hc⟩

/-- The ways a search ends that are neither a location nor a path of which it cannot be told whether
it is there. -/
theorem Stumbled.cases_of_orderly {r : Resolved} (hb : ∀ p t c, (build p t).1 ≠ .error (.crash c))
    (hr : s.Stumbled (d.supplying build) t r) (hl : r.location = .error c) (hc : ∀ e, c ≠ .io e) :
    (s.options.trimmedCustomPath = none ∧ t.Missing s.bundled ∧ t.Missing s.cached ∧
        hasNul s.cache.text = true ∧ c = .nul) ∨
      ∃ w t₁, s.Cleared t w t₁ ∧ s.options.autoDownload = true ∧
        (s.fetched (d.supplying build) t₁).result = .error (.crash c) := by
  cases hr with
  | nul h hbundled hcached hn =>
    cases hl
    exact .inl ⟨h, hbundled, hcached, hn, rfl⟩
  | crashed h ha hf =>
    cases hl
    exact .inr ⟨_, _, h, ha, hf⟩
  | onward _ hr =>
    cases hr with
    | crashed _ _ hcrash => exact absurd (congrArg Prod.fst hcrash) (hb _ _ _)
    | _ =>
      cases hl
      exact absurd rfl (hc _)
  | _ =>
    cases hl
    exact absurd rfl (hc _)

/-- When a search with real downloads ends without a location. -/
theorem resolve_aborts_iff (s : Search) (d : Downloader) (hd : d.Orderly)
    (build : Path → FileTree → Except BuildFailure Unit × FileTree)
    (hb : ∀ p t c, (build p t).1 ≠ .error (.crash c)) (t : FileTree) (c : Crash)
    (hc : ∀ e, c ≠ .io e) :
    ((s.resolve (d.supplying build) t).location = .error c ↔
      (s.options.trimmedCustomPath = none ∧ t.Missing s.bundled ∧ t.Missing s.cached ∧
          hasNul s.cache.text = true ∧ c = .nul) ∨
        ∃ w t₁ octets t₂ p, s.Cleared t w t₁ ∧ s.options.autoDownload = true ∧
          d.Held s.url s.cache t₁ octets none t₂ p ∧
          Zip.Crashes octets s.cache (t₂.holding p octets) c) ∧
    (∀ url destination executable, isTarName (archiveNameOf url) = false →
      ((d.fetch url destination executable t).result = .error (.crash c) ↔
        hasNul destination.text = true ∧ c = .nul ∨
          ∃ octets t₁ p, d.Held url destination t octets none t₁ p ∧
            (Zip.Crashes octets destination (t₁.holding p octets) c ∨
              (∃ t₂, (Zip.unpack octets destination).outcome (t₁.holding p octets) = (.ok (), t₂)) ∧
                d.MarksNul destination executable ∧ c = .nul))) ∧
    ∀ octets destination t₁, Zip.Crashes octets destination t₁ c →
      ∃ ms m, Zip.members octets = .ok ms ∧ m ∈ ms ∧
        (m.name = "" ∧ c = .namelessMember ∨ m.name ≠ "" ∧ Zip.Fault m.method c) := by
  refine ⟨⟨fun hl => ?_, ?_⟩, fun _ _ _ hz => Downloader.crash_iff hd hz,
    fun _ _ _ h => h.exists_member⟩
  · rcases resolve_eq_iff.1 (rfl : s.resolve (d.supplying build) t = _) with hr | hr
    · obtain ⟨l, hl'⟩ := hr.location_ok
      rw [hl] at hl'
      cases hl'
    · refine (hr.cases_of_orderly hb hl hc).imp id ?_
      rintro ⟨w, t₁, h, ha, hf⟩
      obtain ⟨octets, t₂, p, hh, hz⟩ := (h.fetched_crash_iff hd).1 hf
      exact ⟨w, t₁, octets, t₂, p, h, ha, hh, hz⟩
  · rintro (⟨h, hbundled, hcached, hn, rfl⟩ | ⟨w, t₁, octets, t₂, p, h, ha, hh, hz⟩)
    · rw [(Stumbled.nul h hbundled hcached hn).resolve_eq]
    · have hf : (s.fetched (d.supplying build) t₁).result = .error (.crash c) :=
        (h.fetched_crash_iff hd).2 ⟨octets, t₂, p, hh, hz⟩
      rw [(Stumbled.crashed h ha hf).resolve_eq]

/-- Downloads that always bring the same octets. -/
def answering (octets : Octets) : Downloader where
  server _ t := (.ok ⟨200, fun _ => [.octets octets]⟩, t)

theorem answering_orderly (octets : Octets) : (answering octets).Orderly := by
  intro url t response t₁ h n c
  cases h
  simp

/-- An archive with one member, which has no name. -/
def namelessArchive : Octets :=
  Zip.memberMagic ++ List.replicate 42 0 ++ Zip.endMagic ++ List.replicate 8 0 ++ [46, 0, 0, 0] ++
    List.replicate 6 0

/-- The nameless member ends a search in an empty tree. -/
theorem resolve_aborts_nameless :
    ((loneSearch "store").resolve ((answering namelessArchive).supplying offline.build)
        ⟨[], [], []⟩).location = .error .namelessMember ∧
      ∃ w t₁ octets t₂ p, (loneSearch "store").Cleared ⟨[], [], []⟩ w t₁ ∧
        (loneSearch "store").options.autoDownload = true ∧
        (answering namelessArchive).Held (loneSearch "store").url (loneSearch "store").cache t₁ octets
          none t₂ p ∧
        Zip.Crashes octets (loneSearch "store").cache (t₂.holding p octets) .namelessMember := by
  have hl : ((loneSearch "store").resolve ((answering namelessArchive).supplying offline.build)
      ⟨[], [], []⟩).location = .error .namelessMember := by
    decide +kernel
  refine ⟨hl, ?_⟩
  rcases (resolve_aborts_iff (loneSearch "store") (answering namelessArchive) (answering_orderly _)
    offline.build (by simp [offline]) ⟨[], [], []⟩ .namelessMember (by simp)).1.1 hl with
    ⟨-, -, -, -, h⟩ | h
  · cases h
  · exact h

end Search

end SqlTidy
