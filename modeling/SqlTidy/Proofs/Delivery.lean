import SqlTidy.Proofs.Redrawn
import SqlTidy.Proofs.Residue

/-!
# Bodies in pieces

The pieces in which a body is delivered make no difference to a download: all that counts is the octets behind
one another (`fetch_eq_of_delivers`). Nor does the name that is drawn for the temporary file, as long as it is
fresh; only the complaint that the file cannot be made mentions it (`unmade`). A download that succeeds leaves the
tree with the destination made and the archive unpacked in it, as if there had been no temporary file, and with
the executable marked (`Marked`).
-/

namespace SqlTidy

theorem collect_pieces : ∀ pieces : List Octets, collect (pieces.map .octets) = (pieces.flatten, none)
  | [] => rfl
  | piece :: pieces => by
    have ih := collect_pieces pieces
    rw [List.map_cons, collect, ih]
    rfl

/-! ## Archives of plain files -/

namespace Zip

/-- A number in so many octets, the least first. -/
def numberOctets : Nat → Nat → Octets
  | 0, _ => []
  | size + 1, n => UInt8.ofNat n :: numberOctets size (n / 256)

/-- A file as it stands in an archive, not compressed. -/
def storedFile (name content : Octets) : Octets :=
  headerMagic ++ List.replicate 22 0 ++ numberOctets 2 name.length ++ [0, 0] ++ name ++ content

/-- What the directory of an archive says about a file. -/
def storedMember (start : Nat) (name content : Octets) : Octets :=
  memberMagic ++ List.replicate 12 0 ++ numberOctets 4 (crc32 content).toNat ++ numberOctets 4 content.length ++
    numberOctets 4 content.length ++ numberOctets 2 name.length ++ List.replicate 12 0 ++ numberOctets 4 start ++
    name

/-- An archive of files, given by their names and contents. -/
def stored (files : List (Octets × Octets)) : Octets :=
  let (data, directory) := files.foldl (fun (data, directory) (name, content) =>
    (data ++ storedFile name content, directory ++ storedMember data.length name content)) ([], [])
  data ++ directory ++ endMagic ++ List.replicate 8 0 ++ numberOctets 4 directory.length ++
    numberOctets 4 data.length ++ [0, 0]

end Zip

namespace FileTree

variable {t : FileTree} {p : Position} {path : String} {content : Octets} {mode : Nat}

/-- A walk that ends at a file ends there whether or not it follows a last link. -/
theorem Walked.follow {links : Nat} {d : Position} {names : List String} {s : Spot}
    (h : Walked t false links d names s) (hs : s = .taken p (.file content mode)) :
    Walked t true links d names s := by
  induction h with
  | done => exact .done
  | dot _ ih => exact .dot (ih hs)
  | up _ ih => exact .up (ih hs)
  | into hn hd _ ih => exact .into hn hd (ih hs)
  | file hn hf => exact .file hn hf
  | link => cases hs
  | through hn hl _ ht _ ih => exact .through hn hl (.inr rfl) ht (ih hs)
  | free => cases hs

theorem walk_follow (h : t.walk false path = .ok (.taken p (.file content mode))) :
    t.walk true path = .ok (.taken p (.file content mode)) := by
  obtain ⟨h1, h2, hw⟩ := walk_eq_ok_iff.1 h
  exact walk_eq_ok_iff.2 ⟨h1, h2, hw.follow rfl⟩

/-- The permission to execute is three bits, and no other. -/
theorem testBit_executeBits (mode i : Nat) :
    (mode ||| executeBits).testBit i = (mode.testBit i || decide (i ∈ [0, 3, 6])) := by
  rw [Nat.testBit_or]
  congr 1
  rcases Nat.lt_or_ge i 7 with hi | hi
  · have hsmall : ∀ i < 7, executeBits.testBit i = decide (i ∈ [0, 3, 6]) := by decide
    exact hsmall i hi
  · have hlarge : executeBits < 2 ^ i :=
      Nat.lt_of_lt_of_le (by decide : executeBits < 2 ^ 7) (Nat.pow_le_pow_right (by decide) hi)
    rw [Nat.testBit_lt_two_pow hlarge]
    simp
    omega

end FileTree

namespace Downloader

open FileTree

variable {d d' : Downloader} {url : String} {destination : Path} {executable : Option String}
  {t t₁ t₂ : FileTree} {status : Nat} {octets : Octets} {response : Response} {r : Downloaded}

/-- The server answers with some octets, in pieces of whatever size, and leaves the tree alone. -/
def Delivers (d : Downloader) (url : String) (status : Nat) (octets : Octets) : Prop :=
  ∀ t, ∃ (response : Response) (pieces : List Octets), d.server url t = (.ok response, t) ∧
    response.status = status ∧ response.body d.chunkSize = pieces.map .octets ∧ pieces.flatten = octets

namespace Delivers

theorem exists_response (h : d.Delivers url status octets) (t : FileTree) :
    ∃ response, d.server url t = (.ok response, t) ∧ response.status = status ∧
      collect (response.body d.chunkSize) = (octets, none) := by
  obtain ⟨response, pieces, hs, hst, hb, rfl⟩ := h t
  exact ⟨response, hs, hst, by rw [hb, collect_pieces]⟩

theorem of_response (h : d.Delivers url status octets) (hs : d.server url t = (.ok response, t₁)) :
    t₁ = t ∧ response.status = status ∧ collect (response.body d.chunkSize) = (octets, none) := by
  obtain ⟨response', hs', hst, hc⟩ := h.exists_response t
  cases hs.symm.trans hs'
  exact ⟨rfl, hst, hc⟩

theorem of_answered (h : d.Delivers url status octets) (ha : d.Answered url destination t response t₁) :
    Asks destination t t₁ ∧ status < 400 ∧ collect (response.body d.chunkSize) = (octets, none) := by
  obtain ⟨hn, hm, hs, hlt⟩ := ha
  obtain ⟨rfl, hst, hc⟩ := h.of_response hs
  exact ⟨⟨hn, hm⟩, hst ▸ hlt, hc⟩

theorem exists_answered (h : d.Delivers url status octets) (hask : Asks destination t t₁) (hlt : status < 400) :
    ∃ response, d.Answered url destination t response t₁ ∧
      collect (response.body d.chunkSize) = (octets, none) := by
  obtain ⟨response, hs, hst, hc⟩ := h.exists_response t₁
  exact ⟨response, ⟨hask.noNul, hask.made, hs, hst ▸ hlt⟩, hc⟩

/-- All that is held of a body is its octets. -/
theorem of_held {octets' : Octets} {stop : Option Chunk} {p : Position} (h : d.Delivers url status octets)
    (hh : d.Held url destination t octets' stop t₁ p) : Asks destination t t₁ ∧ status < 400 ∧
      d.TemporaryAt t₁ destination p ∧ octets' = octets ∧ stop = none := by
  obtain ⟨ha, ht, hc⟩ := hh
  obtain ⟨hask, hlt, hc'⟩ := h.of_answered ha
  cases hc.symm.trans hc'
  exact ⟨hask, hlt, ht, rfl, rfl⟩

theorem held {p : Position} (h : d.Delivers url status octets) (hask : Asks destination t t₁)
    (hlt : status < 400) (ht : d.TemporaryAt t₁ destination p) :
    d.Held url destination t octets none t₁ p := by
  obtain ⟨response, ha, hc⟩ := h.exists_answered hask hlt
  exact ⟨ha, ht, hc⟩

end Delivers

/-! ## Names that are drawn -/

/-- The complaint that the temporary file cannot be made. It names the file. -/
def unmade (d : Downloader) (destination : Path) (t₀ : FileTree) (cause : Cause) : DownloadError :=
  .archive (.createTemporary destination ⟨cause, some (d.temporary t₀ destination).text⟩)

instance : Decidable (d.Fresh t destination octets) :=
  decidable_of_iff (d.drawnName t destination ∉ t.spokenNames ∧
    (∀ part ∈ destination.parts, d.drawnName t destination ∉ namesOf part) ∧
    d.drawnName t destination ∉ Zip.spokenNames octets)
    ⟨fun h => ⟨h.1, h.2.1, h.2.2⟩, fun h => ⟨h.tree, h.path, h.archive⟩⟩

/-- The name for the temporary file is fresh when it is drawn, which is once the destination has been made. -/
def DrawsFresh (d : Downloader) (destination : Path) (t : FileTree) (octets : Octets) : Prop :=
  ∀ t₀, Asks destination t t₀ → d.Fresh t₀ destination octets

theorem Fresh.drawsFresh (h : d.Fresh ((Act.makeDirectories destination).outcome t).2 destination octets) :
    d.DrawsFresh destination t octets := by
  intro t₀ hask
  rwa [hask.made] at h

theorem mark_congr (hm : d'.marksExecutable = d.marksExecutable) :
    d'.mark destination executable = d.mark destination executable := by
  unfold mark
  rw [hm]

/-- However a download ends, one that gets the same octets in other pieces and under another name ends in the same
way. -/
theorem Fetches.exists_of_delivers (hr : d.Fetches url destination executable t r)
    (hm : d'.marksExecutable = d.marksExecutable) (h : d.Delivers url status octets)
    (h' : d'.Delivers url status octets)
    (hi : ∀ t₀, Asks destination t t₀ → d.Interchangeable d' t₀ destination (archiveNameOf url) octets) :
    ∃ r', d'.Fetches url destination executable t r' ∧ r'.tree = r.tree ∧
      (r'.result = r.result ∨ ∃ t₀ cause, Asks destination t t₀ ∧
        r.result = .error (d.unmade destination t₀ cause) ∧
        r'.result = .error (d'.unmade destination t₀ cause)) := by
  cases hr with
  | nul hn => exact ⟨_, .nul hn, rfl, .inl rfl⟩
  | noDestination hn hd => exact ⟨_, .noDestination hn hd, rfl, .inl rfl⟩
  | @noAnswer _ t₀ _ _ _ hs =>
    obtain ⟨response, hs', -⟩ := h.exists_response t₀
    cases hs.symm.trans hs'
  | refused hn hd hs hst =>
    obtain ⟨rfl, rfl, -⟩ := h.of_response hs
    obtain ⟨response', hs', hst', -⟩ := h'.exists_response _
    exact ⟨_, .refused hn hd hs' (hst' ▸ hst), rfl, .inl (by rw [hst'])⟩
  | @noTemporary cause _ t₁ ha ht =>
    obtain ⟨hask, hlt, -⟩ := h.of_answered ha
    obtain ⟨response', ha', -⟩ := h'.exists_answered hask hlt
    exact ⟨_, .noTemporary ha' ((hi t₁ hask).refused ht), rfl, .inr ⟨t₁, cause, hask, rfl, rfl⟩⟩
  | interrupted hh | unwritten hh | broken hh => cases (h.of_held hh).2.2.2.2
  | failed hh hu =>
    obtain ⟨hask, hlt, ht, rfl, -⟩ := h.of_held hh
    obtain ⟨p', t₂', ht', hu', htree⟩ := (hi _ hask).unpacked ht hu
    exact ⟨_, .failed (h'.held hask hlt ht') hu', htree, .inl rfl⟩
  | unpacked hh hu =>
    obtain ⟨hask, hlt, ht, rfl, -⟩ := h.of_held hh
    obtain ⟨p', t₂', ht', hu', htree⟩ := (hi _ hask).unpacked ht hu
    refine ⟨_, .unpacked (h'.held hask hlt ht') hu', ?_, .inl ?_⟩ <;> rw [mark_congr hm, htree]

/-! ## What a download leaves that succeeds -/

/-- A tree in which the executable has been marked, if it is there and can be. -/
structure Marked (d : Downloader) (destination : Path) (executable : Option String) (t t' : FileTree) :
    Prop where
  file : ∀ {name follow q content mode}, executable = some name → d.marksExecutable = true →
    t.walk follow (destination / name).text = .ok (.taken q (.file content mode)) →
    t'.at? q = some (.file content (mode ||| executeBits)) ∧
      (∀ i, (mode ||| executeBits).testBit i = (mode.testBit i || decide (i ∈ [0, 3, 6]))) ∧
      ∀ p, p ≠ q → t'.at? p = t.at? p
  other : (∀ name q content mode, executable = some name → d.marksExecutable = true →
    t.walk true (destination / name).text ≠ .ok (.taken q (.file content mode))) → t' = t

theorem mark_of_ok {name : String} (hm : d.marksExecutable = true)
    (h : ((d.mark destination (some name)).outcome t).1 = .ok ()) :
    ((d.mark destination (some name)).outcome t).2 =
      (t.permit (destination / name).text executeBits).toOption.getD t := by
  rcases hn : hasNul (destination / name).text
  · simp [mark, hm, hn]
  · simp [mark, hm, hn] at h

theorem marked_of_mark (h : ((d.mark destination executable).outcome t).1 = .ok ()) :
    d.Marked destination executable t ((d.mark destination executable).outcome t).2 where
  file {name follow q content mode} hx hm hw := by
    subst hx
    have hw' : t.walk true (destination / name).text = .ok (.taken q (.file content mode)) := by
      cases follow
      · exact walk_follow hw
      · exact hw
    rw [mark_of_ok hm h, permit_of_file hw']
    exact ⟨at?_set_self (ne_nil_of_file (at?_of_walk_file hw')), testBit_executeBits mode,
      fun p hp => at?_set_of_ne hp⟩
  other hno := by
    rcases executable with _ | name
    · rfl
    rcases hm : d.marksExecutable
    · simp [mark, hm]
    · rw [mark_of_ok hm h, permit_of_no_file fun q content mode => hno name q content mode rfl hm]

/-- A download that succeeds comes to making the destination, unpacking the octets there and marking the
executable. -/
theorem Fetches.of_delivers (hr : d.Fetches url destination executable t r) (h : d.Delivers url status octets)
    (hf : d.DrawsFresh destination t octets) (hok : r.result = .ok ()) :
    ∃ t₀ t₂, (Act.makeDirectories destination).outcome t = (.ok (), t₀) ∧ Paved destination t t₀ ∧
      (unpackArchive (archiveNameOf url) octets destination).outcome t₀ = (.ok (), t₂) ∧
      d.Marked destination executable t₂ r.tree := by
  cases hr with
  | @unpacked _ t₁ t₂ p hh hu =>
    obtain ⟨hask, -, ht, rfl, -⟩ := h.of_held hh
    have hunpack := (hf t₁ hask).unpackArchive_eq ht (archiveNameOf url)
    rw [hu] at hunpack
    exact ⟨t₁, t₂.erase p, hask.made, hask.paved, hunpack.symm, marked_of_mark hok⟩
  | _ => cases hok

/-- A download succeeds if the octets can be unpacked. -/
theorem Delivers.result_eq_ok {p : Position} (h : d.Delivers url status octets)
    (hf : d.DrawsFresh destination t octets) (hlt : status < 400) (hask : Asks destination t t₁)
    (ht : d.TemporaryAt t₁ destination p)
    (hu : (unpackArchive (archiveNameOf url) octets destination).outcome t₁ = (.ok (), t₂))
    (hn : ¬d.MarksNul destination executable) :
    (d.fetch url destination executable t).result = .ok () := by
  have hunpack := (hf t₁ hask).unpackArchive_eq ht (archiveNameOf url)
  rw [hu] at hunpack
  rcases hbeside : (unpackArchive (archiveNameOf url) octets destination).outcome (t₁.holding p octets) with
    ⟨result, t₃⟩
  rw [hbeside] at hunpack
  cases hunpack
  rw [(Fetches.unpacked (h.held hask hlt ht) hbeside).fetch_eq]
  dsimp only
  rcases hm : ((d.mark destination executable).outcome _).1 with e | _
  · exact absurd (mark_eq_error_iff.1 hm).1 hn
  · rfl

/-- Bodies come octet by octet, with an empty piece behind each, and temporary files always get the same name. -/
def trickling (octets : Octets) : Downloader where
  server _ t := (.ok ⟨200, fun _ => (octets.flatMap fun b => [[b], []]).map .octets⟩, t)
  draw _ _ := 5

theorem answering_delivers (octets : Octets) : (Search.answering octets).Delivers "host/a.zip" 200 octets :=
  fun _ => ⟨_, [octets], rfl, rfl, rfl, List.append_nil octets⟩

theorem trickling_delivers (octets : Octets) : (trickling octets).Delivers "host/a.zip" 200 octets := by
  refine fun _ => ⟨_, octets.flatMap fun b => [[b], []], rfl, rfl, rfl, ?_⟩
  induction octets with
  | nil => rfl
  | cons b octets ih => simpa using ih

end Downloader

end SqlTidy
