import SqlTidy.Proofs.Unpacking

/-!
# How a download ends

`Fetches` lists the ways in which a download ends, each with everything that it leaves. Once a body has
come (`Held`), it stands in a temporary file at a place that was free. The file is taken away again
unless the server breaks off in a way that is not expected, so that a download which fails before
unpacking leaves the tree as the server left it, and one which fails while unpacking leaves what had
been unpacked so far.
-/

namespace SqlTidy

variable {t t' : FileTree} {url : String} {destination : Path}

/-- The octets of a body up to its end or to what came instead. -/
def collect : List Chunk → Octets × Option Chunk
  | [] => ([], none)
  | .octets bs :: rest =>
    let (more, stop) := collect rest
    (bs ++ more, stop)
  | stop :: _ => ([], some stop)

/-- What stops a body is one of its chunks, and no octets. -/
theorem collect_stop {stop : Chunk} : ∀ chunks : List Chunk, (collect chunks).2 = some stop →
    stop ∈ chunks ∧ ∀ bs, stop ≠ .octets bs
  | [], h => by simp [collect] at h
  | .octets bs :: rest, h => by
    obtain ⟨hm, hne⟩ := collect_stop rest h
    exact ⟨List.mem_cons_of_mem _ hm, hne⟩
  | .interrupted _ :: _, h | .refused _ :: _, h | .broken _ :: _, h => by
    simp only [collect, Option.some.injEq] at h
    simp [← h]

theorem growing_unpackArchive (name : String) (octets : Octets) (destination : Path) :
    (unpackArchive name octets destination).Growing := by
  refine Act.Growing.mapError ?_ _
  split
  · exact fun t => .refl t
  · rcases h : Zip.members octets with e | ms
    · intro t
      rw [Zip.unpack_of_error h]
      exact .refl t
    · rw [Zip.unpack_of_members h]
      exact Zip.growing_unpackAll _ _ _ _

/-- The tree with a body in its temporary file. -/
def FileTree.holding (t : FileTree) (p : Position) (octets : Octets) : FileTree :=
  t.set p (.file octets temporaryMode)

namespace Downloader

variable {d : Downloader}

/-- The place of the temporary file, if it can be made. -/
def TemporaryAt (d : Downloader) (t : FileTree) (destination : Path) (p : Position) : Prop :=
  t.walk false (d.temporary t destination).text = .ok (.free p)

namespace TemporaryAt

variable {p : Position} {octets : Octets}

theorem grows (h : d.TemporaryAt t destination p) (octets : Octets) : t.Grows (t.holding p octets) :=
  FileTree.grows_set_free (FileTree.at?_of_walk_free h)

theorem at?_holding (h : d.TemporaryAt t destination p) (octets : Octets) :
    (t.holding p octets).at? p = some (.file octets temporaryMode) :=
  FileTree.at?_set_self (FileTree.ne_nil_of_none (FileTree.at?_of_walk_free h))

theorem erase_holding (h : d.TemporaryAt t destination p) (octets : Octets) :
    (t.holding p octets).erase p = t :=
  FileTree.erase_set (FileTree.at?_of_walk_free h)

theorem create_eq (h : d.TemporaryAt t destination p) :
    t.create (d.temporary t destination).text temporaryMode = .ok (t.holding p []) := by
  rw [TemporaryAt] at h
  simp [FileTree.create, h, bind, Except.bind, pure, Except.pure, FileTree.holding]

theorem read_eq (h : d.TemporaryAt t destination p) (octets : Octets) :
    (t.holding p octets).read (d.temporary t destination).text = .ok octets :=
  (h.grows octets).read_at_free h (h.at?_holding octets)

/-- Whatever is unpacked, the temporary file can be removed afterwards. -/
theorem discard_eq {ε : Type} (h : d.TemporaryAt t destination p) (hg : (t.holding p octets).Grows t') :
    (discard (d.temporary t destination) : Act ε Unit).outcome t' = (.ok (), t'.erase p) := by
  obtain ⟨content, mode, hp⟩ := hg.file (h.at?_holding octets)
  rw [discard, Act.outcome_attempt, ((h.grows octets).trans hg).remove_at_free h hp]
  rfl

/-- One chunk is added to what the temporary file holds already. -/
theorem append_eq {ε : Type} (h : d.TemporaryAt t destination p) (octets bs : Octets) :
    (Act.attempt fun t' => t'.append (d.temporary t destination).text bs : Act ε Unit).outcome
      (t.holding p octets) = (.ok (), t.holding p (octets ++ bs)) := by
  rw [Act.outcome_attempt, FileTree.holding, FileTree.append_at_free h]
  rfl

/-- The temporary file holds the chunks that have come, one behind the other. -/
theorem pour_eq (h : d.TemporaryAt t destination p) : ∀ (chunks : List Chunk) (octets : Octets),
    (pour (d.temporary t destination) chunks).outcome (t.holding p octets) =
      (.ok (collect chunks).2, t.holding p (octets ++ (collect chunks).1))
  | [], octets => by simp [pour, collect]
  | .octets bs :: rest, octets => by
    have ih := pour_eq h rest (octets ++ bs)
    rw [List.append_assoc] at ih
    by_cases hbs : bs = []
    · subst hbs
      simpa [pour, collect] using ih
    · rw [pour, if_pos hbs, Act.outcome_bind_of_ok (h.append_eq octets bs)]
      exact ih
  | .interrupted _ :: _, octets | .refused _ :: _, octets | .broken _ :: _, octets => by
    simp [pour, collect]

end TemporaryAt

theorem exists_temporary (d : Downloader) (t : FileTree) (destination : Path) :
    (∃ p, d.TemporaryAt t destination p) ∨
      ∃ cause, t.create (d.temporary t destination).text temporaryMode = .error cause := by
  rcases h : t.create (d.temporary t destination).text temporaryMode with cause | t₁
  · exact .inr ⟨cause, rfl⟩
  · obtain ⟨p, hp, -⟩ := FileTree.create_eq_ok h
    exact .inl ⟨p, hp⟩

theorem receive_of_error {cause : Cause}
    (h : t.create (d.temporary t destination).text temporaryMode = .error cause) (chunks : List Chunk) :
    (d.receive url destination chunks).outcome t =
      (.error (.archive (.createTemporary destination ⟨cause, some (d.temporary t destination).text⟩)), t) := by
  rw [receive, Act.outcome_bind_of_ok (Act.outcome_look _)]
  refine Act.outcome_bind_of_error ?_ _
  simp [Act.call, h]

/-- What becomes of a body that stands in its temporary file: a file whose body did not come to its
end is removed again, unless the failure is not expected. -/
theorem receive_of_temporary {p : Position} {chunks : List Chunk} {body : Octets}
    {stop : Option Chunk} (hc : collect chunks = (body, stop)) (h : d.TemporaryAt t destination p) :
    (d.receive url destination chunks).outcome t =
      match stop with
      | some (.interrupted text) => (.error (.network ⟨url, .interrupted text⟩), t)
      | some (.refused error) => (.error (.archive (.write (d.temporary t destination) error)), t)
      | some (.broken crash) => (.error (.crash crash), t.holding p body)
      | _ => (.ok (d.temporary t destination), t.holding p body) := by
  have hcreate : (Act.mapError (fun e => DownloadError.archive (.createTemporary destination e))
      (Act.call (d.temporary t destination).text fun t' =>
        t'.create (d.temporary t destination).text temporaryMode)).outcome t =
      (.ok (), t.holding p []) := by
    simp [Act.call, h.create_eq]
  have hpour := h.pour_eq chunks []
  rw [hc, List.nil_append] at hpour
  have hdiscard : (discard (d.temporary t destination) : Act DownloadError Unit).outcome
      (t.holding p body) = (.ok (), t) := by
    rw [h.discard_eq (.refl _), h.erase_holding]
  rw [receive, Act.outcome_bind_of_ok (Act.outcome_look _), Act.outcome_bind_of_ok hcreate,
    Act.outcome_bind_of_ok hpour]
  rcases stop with _ | _ | _ | _ | _
  · rfl
  · rfl
  · exact Act.outcome_bind_of_ok hdiscard _
  · exact Act.outcome_bind_of_ok hdiscard _
  · rfl

end Downloader

/-! ## The ways a download ends -/

/-- Marks what was unpacked as executable. -/
def Downloader.mark (d : Downloader) (destination : Path) (executable : Option String) :
    Act DownloadError Unit := do
  match executable with
  | some name =>
    if d.marksExecutable then
      if hasNul (destination / name).text then Act.fail (.crash .nul)
      else Act.attempt fun t => t.permit (destination / name).text FileTree.executeBits
  | none => pure ()

theorem install_eq (d : Downloader) (url : String) (destination : Path) (executable : Option String)
    (path : Path) : install d url destination executable path = (do
      let octets ← Act.look fun t => (t.read path.text).toOption.getD []
      thenAlways (unpackArchive (archiveNameOf url) octets destination) (discard path)
      d.mark destination executable) := rfl

namespace Downloader

section Rules

variable (d : Downloader) (url : String) (destination : Path) (executable : Option String) (t : FileTree)

def request : Request := ⟨url, d.timeout⟩

/-- The destination has been made, and the server has answered with something to be read. -/
inductive Answered : Response → FileTree → Prop
  | intro {t₀ t₁ : FileTree} {response : Response} : hasNul destination.text = false →
      (Act.makeDirectories destination).outcome t = (.ok (), t₀) →
      d.server url t₀ = (.ok response, t₁) → response.status < 400 → Answered response t₁

/-- A body has come, up to its end or to what stopped it, and stands in a temporary file. -/
inductive Held : Octets → Option Chunk → FileTree → Position → Prop
  | intro {octets : Octets} {stop : Option Chunk} {t₁ : FileTree} {p : Position} {response : Response} :
      d.Answered url destination t response t₁ → d.TemporaryAt t₁ destination p →
      collect (response.body d.chunkSize) = (octets, stop) → Held octets stop t₁ p

/-- The ways a download ends. -/
inductive Fetches : Downloaded → Prop
  | nul : hasNul destination.text = true → Fetches ⟨.error (.crash .nul), [], false, t⟩
  | noDestination {e : IoError} {t₀ : FileTree} : hasNul destination.text = false →
      (Act.makeDirectories destination).outcome t = (.error e, t₀) →
      Fetches ⟨.error (.archive (.createDestination destination e)), [], false, t₀⟩
  | noAnswer {text : String} {t₀ t₁ : FileTree} : hasNul destination.text = false →
      (Act.makeDirectories destination).outcome t = (.ok (), t₀) → d.server url t₀ = (.error text, t₁) →
      Fetches ⟨.error (.network ⟨url, .request text⟩), [d.request url], false, t₁⟩
  | refused {response : Response} {t₀ t₁ : FileTree} : hasNul destination.text = false →
      (Act.makeDirectories destination).outcome t = (.ok (), t₀) →
      d.server url t₀ = (.ok response, t₁) → 400 ≤ response.status →
      Fetches ⟨.error (.network ⟨url, .status response.status⟩), [d.request url], true, t₁⟩
  | noTemporary {cause : Cause} {response : Response} {t₁ : FileTree} :
      d.Answered url destination t response t₁ →
      t₁.create (d.temporary t₁ destination).text temporaryMode = .error cause →
      Fetches ⟨.error (.archive (.createTemporary destination
        ⟨cause, some (d.temporary t₁ destination).text⟩)), [d.request url], true, t₁⟩
  | interrupted {text : String} {octets : Octets} {t₁ : FileTree} {p : Position} :
      d.Held url destination t octets (some (.interrupted text)) t₁ p →
      Fetches ⟨.error (.network ⟨url, .interrupted text⟩), [d.request url], true, t₁⟩
  | unwritten {error : IoError} {octets : Octets} {t₁ : FileTree} {p : Position} :
      d.Held url destination t octets (some (.refused error)) t₁ p →
      Fetches ⟨.error (.archive (.write (d.temporary t₁ destination) error)), [d.request url], true, t₁⟩
  | broken {crash : Crash} {octets : Octets} {t₁ : FileTree} {p : Position} :
      d.Held url destination t octets (some (.broken crash)) t₁ p →
      Fetches ⟨.error (.crash crash), [d.request url], true, t₁.holding p octets⟩
  | failed {e : DownloadError} {octets : Octets} {t₁ t₂ : FileTree} {p : Position} :
      d.Held url destination t octets none t₁ p →
      (unpackArchive (archiveNameOf url) octets destination).outcome (t₁.holding p octets) =
        (.error e, t₂) →
      Fetches ⟨.error e, [d.request url], true, t₂.erase p⟩
  | unpacked {octets : Octets} {t₁ t₂ : FileTree} {p : Position} :
      d.Held url destination t octets none t₁ p →
      (unpackArchive (archiveNameOf url) octets destination).outcome (t₁.holding p octets) =
        (.ok (), t₂) →
      Fetches ⟨((d.mark destination executable).outcome (t₂.erase p)).1, [d.request url], true,
        ((d.mark destination executable).outcome (t₂.erase p)).2⟩

end Rules

variable {d : Downloader} {executable : Option String} {response : Response} {r : Downloaded}
  {octets : Octets} {t₁ t₂ : FileTree} {p : Position}

theorem transfer_of_response {t₀ : FileTree} (hs : d.server url t₀ = (.ok response, t₁)) :
    d.transfer url destination t₀ = ⟨((d.accept url destination response).outcome t₁).1, [d.request url], 1,
      ((d.accept url destination response).outcome t₁).2⟩ := by
  rw [transfer, hs]
  dsimp only
  rw [Handling.run_thenAlways_close, request]

theorem accept_of_status (hst : response.status < 400) :
    d.accept url destination response = d.receive url destination (response.body d.chunkSize) :=
  if_neg (Nat.not_le.2 hst)

theorem Answered.fetch_of_error {e : DownloadError} (h : d.Answered url destination t response t₁)
    (hx : (d.receive url destination (response.body d.chunkSize)).outcome t₁ = (.error e, t₂)) :
    d.fetch url destination executable t = ⟨.error e, [d.request url], true, t₂⟩ := by
  obtain ⟨hn, hm, hs, hst⟩ := h
  simp [fetch, hn, hm, transfer_of_response hs, accept_of_status hst, hx]

theorem Answered.fetch_of_ok {path : Path} (h : d.Answered url destination t response t₁)
    (hx : (d.receive url destination (response.body d.chunkSize)).outcome t₁ = (.ok path, t₂)) :
    d.fetch url destination executable t =
      ⟨((install d url destination executable path).outcome t₂).1, [d.request url], true,
        ((install d url destination executable path).outcome t₂).2⟩ := by
  obtain ⟨hn, hm, hs, hst⟩ := h
  simp [fetch, hn, hm, transfer_of_response hs, accept_of_status hst, hx]

theorem install_of_temporary (ht : d.TemporaryAt t₁ destination p) :
    (install d url destination executable (d.temporary t₁ destination)).outcome (t₁.holding p octets) =
      Act.outcome (thenAlways (unpackArchive (archiveNameOf url) octets destination)
        (discard (d.temporary t₁ destination)) >>= fun _ => d.mark destination executable)
        (t₁.holding p octets) := by
  rw [install_eq, Act.outcome_bind_of_ok (Act.outcome_look _), ht.read_eq]
  rfl

theorem thenDiscard_eq {x : Except DownloadError Unit} (ht : d.TemporaryAt t₁ destination p)
    (hu : (unpackArchive (archiveNameOf url) octets destination).outcome (t₁.holding p octets) =
      (x, t₂)) :
    Act.outcome (thenAlways (unpackArchive (archiveNameOf url) octets destination)
      (discard (d.temporary t₁ destination))) (t₁.holding p octets) = (x, t₂.erase p) := by
  have hg := growing_unpackArchive (archiveNameOf url) octets destination (t₁.holding p octets)
  rw [Act.outcome_thenAlways, ht.discard_eq hg, hu]

theorem Fetches.fetch_eq (h : d.Fetches url destination executable t r) :
    d.fetch url destination executable t = r := by
  cases h with
  | nul hn => simp [fetch, hn]
  | noDestination hn hm => simp [fetch, hn, hm]
  | noAnswer hn hm hs => simp [fetch, hn, hm, transfer, hs, request]
  | refused hn hm hs hst => simp [fetch, hn, hm, transfer_of_response hs, accept, hst]
  | noTemporary ha ht => rw [ha.fetch_of_error (receive_of_error ht _)]
  | interrupted hh | unwritten hh | broken hh =>
    obtain ⟨ha, ht, hc⟩ := hh
    rw [ha.fetch_of_error (receive_of_temporary hc ht)]
  | failed hh hu =>
    obtain ⟨ha, ht, hc⟩ := hh
    rw [ha.fetch_of_ok (receive_of_temporary hc ht), install_of_temporary ht,
      Act.outcome_bind_of_error (thenDiscard_eq ht hu)]
  | unpacked hh hu =>
    obtain ⟨ha, ht, hc⟩ := hh
    rw [ha.fetch_of_ok (receive_of_temporary hc ht), install_of_temporary ht,
      Act.outcome_bind_of_ok (thenDiscard_eq ht hu)]

theorem Answered.exists_fetches (h : d.Answered url destination t response t₁) :
    ∃ r, d.Fetches url destination executable t r := by
  rcases hc : collect (response.body d.chunkSize) with ⟨octets, stop⟩
  rcases d.exists_temporary t₁ destination with ⟨p, ht⟩ | ⟨cause, ht⟩
  · rcases stop with _ | bs | text | e | crash
    · rcases hu : (unpackArchive (archiveNameOf url) octets destination).outcome
        (t₁.holding p octets) with ⟨e | _, t₂⟩
      · exact ⟨_, .failed ⟨h, ht, hc⟩ hu⟩
      · exact ⟨_, .unpacked ⟨h, ht, hc⟩ hu⟩
    · exact absurd rfl ((collect_stop _ (congrArg Prod.snd hc)).2 bs)
    · exact ⟨_, .interrupted ⟨h, ht, hc⟩⟩
    · exact ⟨_, .unwritten ⟨h, ht, hc⟩⟩
    · exact ⟨_, .broken ⟨h, ht, hc⟩⟩
  · exact ⟨_, .noTemporary h ht⟩

/-- Every download ends in one of the ways. -/
theorem exists_fetches (d : Downloader) (url : String) (destination : Path) (executable : Option String)
    (t : FileTree) : ∃ r, d.Fetches url destination executable t r := by
  rcases hn : hasNul destination.text
  · rcases hm : (Act.makeDirectories destination).outcome t with ⟨e | _, t₀⟩
    · exact ⟨_, .noDestination hn hm⟩
    rcases hs : d.server url t₀ with ⟨text | response, t₁⟩
    · exact ⟨_, .noAnswer hn hm hs⟩
    rcases Nat.lt_or_ge response.status 400 with hst | hst
    · exact Answered.exists_fetches ⟨hn, hm, hs, hst⟩
    · exact ⟨_, .refused hn hm hs hst⟩
  · exact ⟨_, .nul hn⟩

end Downloader

end SqlTidy
