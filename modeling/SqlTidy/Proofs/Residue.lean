import SqlTidy.Proofs.Leftover
import SqlTidy.Proofs.Sparing

/-!
# What a download takes away again

A download leaves nothing of its own behind. Its temporary file is gone at the end, unless the body broke off
in a way that is not expected, and a response is closed once (`fetch_leaves_no_residue`). Before it unpacks
anything, all that it has done to the tree is to make directories on the way to its destination (`Paved`).
-/

namespace SqlTidy

namespace FileTree

variable {t t' : FileTree} {destination : Path} {p : Position} {path : String} {content : Octets} {mode : Nat}

/-- A tree in which some directories on the way to a path have been made, and nothing else. -/
inductive Paved (destination : Path) (t : FileTree) : FileTree → Prop
  | start : Paved destination t t
  | make {t₁ t₂ : FileTree} {names : List String} : Paved destination t t₁ → names <+: destination.parts →
      t₁.makeDirectory (Path.mk destination.anchor names).text = .ok t₂ → Paved destination t t₂

/-- Every place is as it was, or was free and is a directory. -/
theorem Paved.at?_eq (h : Paved destination t t') (p : Position) :
    t'.at? p = t.at? p ∨ t.at? p = none ∧ t'.at? p = some .directory := by
  induction h with
  | start => exact .inl rfl
  | make _ _ hm ih =>
    obtain ⟨q, hq, rfl⟩ := makeDirectory_eq_ok hm
    by_cases hp : p = q
    · subst hp
      rw [at?_set_self (ne_nil_of_none hq)]
      rw [hq] at ih
      exact .inr ⟨ih.elim Eq.symm And.left, rfl⟩
    · rwa [at?_set_of_ne hp]

/-- Making directories, whether or not it comes to an end, does nothing else. -/
theorem makeDirectoriesFrom_paved : ∀ (names : List String) (t : FileTree),
    names.reverse <+: destination.parts →
      Paved destination t ((Act.makeDirectoriesFrom destination.anchor names).outcome t).2
  | [], t, _ => .start
  | name :: above, t, hn => by
    have habove : above.reverse <+: destination.parts := by
      rw [List.reverse_cons] at hn
      exact (List.prefix_append _ _).trans hn
    have ih := makeDirectoriesFrom_paved above t habove
    rw [Act.makeDirectoriesFrom, Act.outcome_ofOutcome]
    split
    · next h => exact .make .start hn h
    · split
      · next h =>
        rw [h] at ih
        exact ih
      · next t₁ h =>
        rw [h] at ih
        split
        · next h' => exact .make ih hn h'
        · split <;> exact ih
    · split <;> exact .start

theorem makeDirectories_paved (destination : Path) (t : FileTree) :
    Paved destination t ((Act.makeDirectories destination).outcome t).2 :=
  makeDirectoriesFrom_paved _ _ (by simp)

theorem permit_of_file {bits : Nat} (h : t.walk true path = .ok (.taken p (.file content mode))) :
    t.permit path bits = .ok (t.set p (.file content (mode ||| bits))) := by
  simp [permit, find, h, bind, Except.bind, pure, Except.pure]

/-- Permissions are given to files alone. -/
theorem permit_of_no_file {bits : Nat}
    (h : ∀ p content mode, t.walk true path ≠ .ok (.taken p (.file content mode))) :
    (t.permit path bits).toOption.getD t = t := by
  rcases hw : t.walk true path with e | ⟨p, content | _ | _⟩ | p
  · simp [permit, find, hw, bind, Except.bind, Except.toOption]
  · exact absurd hw (h _ _ _)
  all_goals simp [permit, find, hw, bind, Except.bind, pure, Except.pure, Except.toOption]

end FileTree

namespace Downloader

open FileTree

variable {d : Downloader} {url : String} {destination : Path} {executable : Option String}
  {t t₀ t₁ : FileTree} {octets : Octets} {stop : Option Chunk} {p : Position} {response : Response}

/-- The server is asked, once the destination has been made. -/
structure Asks (destination : Path) (t t₀ : FileTree) : Prop where
  noNul : hasNul destination.text = false
  made : (Act.makeDirectories destination).outcome t = (.ok (), t₀)

/-- The body comes to an end and stands in a temporary file. -/
def Completes (d : Downloader) (url : String) (destination : Path) (t : FileTree) : Prop :=
  ∃ octets t₁ p, d.Held url destination t octets none t₁ p

/-- The body breaks off in a way that is not expected. -/
def Breaks (d : Downloader) (url : String) (destination : Path) (t : FileTree) : Prop :=
  ∃ octets crash t₁ p, d.Held url destination t octets (some (.broken crash)) t₁ p

/-! ## The temporary file -/

theorem mark_tree_eq (d : Downloader) (destination : Path) (executable : Option String) (t : FileTree) :
    ((d.mark destination executable).outcome t).2 = t ∨
      ∃ name, executable = some name ∧ ((d.mark destination executable).outcome t).2 =
        (t.permit (destination / name).text executeBits).toOption.getD t := by
  rcases executable with _ | name
  · exact .inl rfl
  rcases hm : d.marksExecutable
  · simp [mark, hm]
  rcases hn : hasNul (destination / name).text
  · exact .inr ⟨name, rfl, by simp [mark, hm, hn]⟩
  · simp [mark, hm, hn]

/-- Marking puts nothing where nothing is. -/
theorem mark_at?_none (h : t.at? p = none) : ((d.mark destination executable).outcome t).2.at? p = none := by
  rcases d.mark_tree_eq destination executable t with htree | ⟨name, -, htree⟩
  · rwa [htree]
  rw [htree]
  by_cases hfile : ∃ q content mode,
      t.walk true (destination / name).text = .ok (.taken q (.file content mode))
  · obtain ⟨q, content, mode, hw⟩ := hfile
    have hne : p ≠ q := by
      rintro rfl
      rw [at?_of_walk_file hw] at h
      cases h
    rw [permit_of_file hw]
    exact (at?_set_of_ne hne).trans h
  · rwa [permit_of_no_file fun q content mode hw => hfile ⟨q, content, mode, hw⟩]

theorem Held.not_breaks (h : d.Held url destination t octets stop t₁ p)
    (hs : ∀ crash, stop ≠ some (.broken crash)) : ¬d.Breaks url destination t := by
  rintro ⟨_, crash, _, _, h'⟩
  exact hs crash (h.unique h').2.1

/-- The temporary file is there in the end exactly if the body breaks off. -/
theorem Held.at?_eq_none_iff (h : d.Held url destination t octets stop t₁ p) :
    (d.fetch url destination executable t).tree.at? p = none ↔ ¬d.Breaks url destination t := by
  have hfree : t₁.at? p = none := by
    obtain ⟨-, ht, -⟩ := h
    exact at?_of_walk_free ht
  have hne : p ≠ [] := ne_nil_of_none hfree
  -- By what stopped the body: only a break leaves the file, and octets stop nothing.
  rcases stop with _ | bs | text | error | crash
  · refine iff_of_true ?_ (h.not_breaks (by simp))
    rcases hu : (unpackArchive (archiveNameOf url) octets destination).outcome
      (t₁.holding p octets) with ⟨e | _, t₂⟩
    · rw [(Fetches.failed h hu).fetch_eq]
      exact at?_erase_self hne
    · rw [(Fetches.unpacked h hu).fetch_eq]
      exact mark_at?_none (at?_erase_self hne)
  · obtain ⟨-, -, hc⟩ := h
    exact absurd rfl ((collect_stop _ (congrArg Prod.snd hc)).2 bs)
  · rw [(Fetches.interrupted h).fetch_eq]
    exact iff_of_true hfree (h.not_breaks (by simp))
  · rw [(Fetches.unwritten h).fetch_eq]
    exact iff_of_true hfree (h.not_breaks (by simp))
  · rw [(Fetches.broken h).fetch_eq]
    refine iff_of_false ?_ fun hn => hn ⟨_, _, _, _, h⟩
    simp [holding, at?_set_self hne]

/-! ## The response -/

/-- A response is closed once, whatever came of it. -/
theorem closings_transfer (d : Downloader) (url : String) (destination : Path) (t₀ : FileTree) :
    (d.transfer url destination t₀).closings = if (d.server url t₀).1.isOk then 1 else 0 := by
  rw [transfer]
  rcases d.server url t₀ with ⟨text | response, t₁⟩ <;> rfl

theorem closed_fetch (h : Asks destination t t₀) :
    (d.fetch url destination executable t).closed = ((d.transfer url destination t₀).closings != 0) := by
  rw [fetch, if_neg (by simp [h.noNul]), h.made]
  dsimp only
  split <;> rfl

theorem closed_iff : (d.fetch url destination executable t).closed = true ↔
    ∃ t₀, Asks destination t t₀ ∧ (d.server url t₀).1.isOk = true := by
  by_cases hasks : ∃ t₀, Asks destination t t₀
  · obtain ⟨t₀, hask⟩ := hasks
    rw [closed_fetch hask, closings_transfer]
    constructor
    · intro h
      exact ⟨t₀, hask, by simpa using h⟩
    · rintro ⟨t₀', hask', h⟩
      cases hask.made.symm.trans hask'.made
      simp [h]
  · refine iff_of_false ?_ fun ⟨t₀, hask, _⟩ => hasks ⟨t₀, hask⟩
    rw [fetch]
    split
    · simp
    · next hn =>
      split
      · simp
      · next hm => exact absurd ⟨_, by simpa using hn, hm⟩ hasks

/-! ## Failures before unpacking -/

theorem Answered.asks (h : d.Answered url destination t response t₁) :
    ∃ t₀, Asks destination t t₀ ∧ d.server url t₀ = (.ok response, t₁) := by
  obtain ⟨hn, hm, hs, -⟩ := h
  exact ⟨_, ⟨hn, hm⟩, hs⟩

theorem Asks.paved (h : Asks destination t t₀) : Paved destination t t₀ := by
  have hp := makeDirectories_paved destination t
  rwa [h.made] at hp

/-- The tree as the server has left it, with directories made before. -/
def Reached (d : Downloader) (url : String) (destination : Path) (t t' : FileTree) : Prop :=
  ∃ t₀, Paved destination t t₀ ∧ (t' = t₀ ∨ t' = (d.server url t₀).2)

theorem Answered.reached (h : d.Answered url destination t response t₁) :
    d.Reached url destination t t₁ := by
  obtain ⟨t₀, hask, hs⟩ := h.asks
  exact ⟨t₀, hask.paved, .inr (by rw [hs])⟩

theorem Held.reached (h : d.Held url destination t octets stop t₁ p) : d.Reached url destination t t₁ := by
  obtain ⟨ha, -, -⟩ := h
  exact ha.reached

/-- A download whose body does not come to its end fails, and leaves the tree as the server left it. -/
theorem fetch_of_not_completes (hc : ¬d.Completes url destination t) (hb : ¬d.Breaks url destination t) :
    ∃ e, (d.fetch url destination executable t).result = .error e ∧
      d.Reached url destination t (d.fetch url destination executable t).tree := by
  obtain ⟨r, hr⟩ := exists_fetches d url destination executable t
  rw [hr.fetch_eq]
  cases hr with
  | nul hn => exact ⟨_, rfl, t, .start, .inl rfl⟩
  | noDestination hn hm =>
    have hp := makeDirectories_paved destination t
    rw [hm] at hp
    exact ⟨_, rfl, _, hp, .inl rfl⟩
  | noAnswer hn hm hs => exact ⟨_, rfl, _, Asks.paved ⟨hn, hm⟩, .inr (by rw [hs])⟩
  | refused hn hm hs hst => exact ⟨_, rfl, _, Asks.paved ⟨hn, hm⟩, .inr (by rw [hs])⟩
  | noTemporary ha _ => exact ⟨_, rfl, ha.reached⟩
  | interrupted hh => exact ⟨_, rfl, hh.reached⟩
  | unwritten hh => exact ⟨_, rfl, hh.reached⟩
  | broken hh => exact absurd ⟨_, _, _, _, hh⟩ hb
  | failed hh _ => exact absurd ⟨_, _, _, hh⟩ hc
  | unpacked hh _ => exact absurd ⟨_, _, _, hh⟩ hc

theorem fetch_of_no_answer {text : String} (hask : Asks destination t t₀)
    (hs : (d.server url t₀).1 = .error text) :
    (d.fetch url destination executable t).result = .error (.network ⟨url, .request text⟩) := by
  rw [(Fetches.noAnswer hask.noNul hask.made (Prod.ext hs rfl)).fetch_eq]

theorem fetch_of_status (hask : Asks destination t t₀) (hs : (d.server url t₀).1 = .ok response)
    (hst : 400 ≤ response.status) :
    (d.fetch url destination executable t).result = .error (.network ⟨url, .status response.status⟩) := by
  rw [(Fetches.refused hask.noNul hask.made (Prod.ext hs rfl) hst).fetch_eq]

/-- What is left of a download. Its temporary file is gone unless the body breaks off, a response is closed
once, and a download that fails before it unpacks leaves nothing but directories on the way to its destination
(besides what the server does to the tree itself). An answer that is none, or that is an error, is reported with
its address and its status. -/
theorem fetch_leaves_no_residue (d : Downloader) (url : String) (destination : Path)
    (executable : Option String) (t : FileTree) :
    (∀ octets stop t₁ p, d.Held url destination t octets stop t₁ p →
      ((d.fetch url destination executable t).tree.at? p = none ↔ ¬d.Breaks url destination t)) ∧
    (∀ t₀, Asks destination t t₀ →
      (d.transfer url destination t₀).closings = if (d.server url t₀).1.isOk then 1 else 0) ∧
    ((d.fetch url destination executable t).closed = true ↔
      ∃ t₀, Asks destination t t₀ ∧ (d.server url t₀).1.isOk = true) ∧
    (¬d.Completes url destination t → ¬d.Breaks url destination t →
      ∃ e t₀, (d.fetch url destination executable t).result = .error e ∧ Paved destination t t₀ ∧
        (∀ p, t₀.at? p = t.at? p ∨ t.at? p = none ∧ t₀.at? p = some .directory) ∧
        ((d.fetch url destination executable t).tree = t₀ ∨
          (d.fetch url destination executable t).tree = (d.server url t₀).2)) ∧
    (∀ t₀ text, Asks destination t t₀ → (d.server url t₀).1 = .error text →
      ∃ e, (d.fetch url destination executable t).result = .error (.network e) ∧ e.url = url ∧
        e.status = none) ∧
    (∀ t₀ response, Asks destination t t₀ → (d.server url t₀).1 = .ok response → 400 ≤ response.status →
      ∃ e, (d.fetch url destination executable t).result = .error (.network e) ∧ e.url = url ∧
        e.status = some response.status) := by
  refine ⟨fun _ _ _ _ h => h.at?_eq_none_iff, fun t₀ _ => closings_transfer d url destination t₀, closed_iff,
    fun hc hb => ?_, fun _ _ hask hs => ⟨_, fetch_of_no_answer hask hs, rfl, rfl⟩,
    fun _ _ hask hs hst => ⟨_, fetch_of_status hask hs hst, rfl, rfl⟩⟩
  obtain ⟨e, he, t₀, hp, htree⟩ := fetch_of_not_completes hc hb
  exact ⟨e, t₀, he, hp, hp.at?_eq, htree⟩

/-- Bodies are cut off behind their first octet. -/
def interrupting : Downloader where
  server _ t := (.ok ⟨200, fun _ => [.octets [80], .octets [], .interrupted "reset"]⟩, t)

/-- A body that is cut off leaves two empty directories. -/
theorem fetch_leaves_no_residue_interrupted :
    ∃ e t₀, (interrupting.fetch "host/a.zip" (Path.ofText "/store/bin") none ⟨[], [], []⟩).result = .error e ∧
      Paved (Path.ofText "/store/bin") ⟨[], [], []⟩ t₀ ∧
      (interrupting.fetch "host/a.zip" (Path.ofText "/store/bin") none ⟨[], [], []⟩).tree = t₀ ∧
      t₀.entries = [(["store"], .directory), (["bin", "store"], .directory)] := by
  have hstop : ∀ octets stop t₁ p, interrupting.Held "host/a.zip" (Path.ofText "/store/bin") ⟨[], [], []⟩ octets
      stop t₁ p → stop = some (.interrupted "reset") := by
    rintro octets stop t₁ p ⟨⟨_, _, hs, _⟩, _, hc⟩
    cases hs
    exact (congrArg Prod.snd hc).symm
  have h := fetch_leaves_no_residue interrupting "host/a.zip" (Path.ofText "/store/bin") none ⟨[], [], []⟩
  obtain ⟨e, t₀, he, hp, -, htree⟩ := h.2.2.2.1
    (by rintro ⟨_, _, _, hh⟩; cases hstop _ _ _ _ hh) (by rintro ⟨_, _, _, _, hh⟩; cases hstop _ _ _ _ hh)
  have ht : (interrupting.fetch "host/a.zip" (Path.ofText "/store/bin") none ⟨[], [], []⟩).tree = t₀ :=
    htree.elim id id
  refine ⟨e, t₀, he, hp, ht, ?_⟩
  rw [← ht]
  decide +kernel

end Downloader

end SqlTidy
