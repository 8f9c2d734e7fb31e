import SqlTidy.Proofs.Delivery
import SqlTidy.Proofs.NormalPath

/-!
# What a download can touch

Unpacking works by the normal path of the destination. Whatever the members of an archive are called, it touches
nothing but what is below the directory that this path leads to (`Zip.confined_unpack`), and the temporary file
stands there too (`Downloader.TemporaryAt.exists_below`). The destination is made, and the executable marked,
where the destination itself leads. So a download is confined to its destination if both paths lead to one
directory, and they do unless double dots come behind a link (`Downloader.fetch_confined`).
-/

namespace SqlTidy

namespace FileTree

variable {t t' t'' : FileTree} {root : Path} {dir p : Position} {parts names : List String} {e : Entry}
  {s : Spot} {content : Octets}

/-! ## Changes below a directory -/

/-- Below a directory something may have been added or changed, but no link, and elsewhere nothing has. -/
structure Within (dir : Position) (t t' : FileTree) : Prop where
  grows : Grows t t'
  at?_eq : ∀ q, ¬Below dir q → t'.at? q = t.at? q
  link : ∀ q target, t'.at? q = some (.link target) → t.at? q = some (.link target)

namespace Within

theorem refl (dir : Position) (t : FileTree) : Within dir t t := ⟨.refl t, fun _ _ => rfl, fun _ _ h => h⟩

theorem trans (h : Within dir t t') (h' : Within dir t' t'') : Within dir t t'' where
  grows := h.grows.trans h'.grows
  at?_eq q hq := (h'.at?_eq q hq).trans (h.at?_eq q hq)
  link q target hl := h.link q target (h'.link q target hl)

theorem noLinkBelow (h : Within dir t t') {d : Position} (hl : t.NoLinkBelow d) : t'.NoLinkBelow d :=
  fun q target hq hlink => hl q target hq (h.link q target hlink)

end Within

theorem within_set (hg : Grows t (t.set p e)) (hp : Below dir p) (he : ∀ target, e ≠ .link target) :
    Within dir t (t.set p e) := by
  refine ⟨hg, fun q hq => at?_set_of_ne ?_, fun q target hl => ?_⟩
  · rintro rfl
    exact hq hp
  · by_cases hq : q = p
    · subst hq
      have hne : q ≠ [] := by
        rintro rfl
        exact hp.2 (List.suffix_nil.1 hp.1).symm
      rw [at?_set_self hne, Option.some.injEq] at hl
      exact absurd hl (he target)
    · rwa [at?_set_of_ne hq] at hl

/-- What was put in a free place and taken away again in the end leaves the changes around it within bounds. -/
theorem Within.erase_set (h : Within dir (t.set p e) t') (hfree : t.at? p = none) (hp : Below dir p) :
    Within dir t (t'.erase p) where
  grows := by
    have hgrows := h.grows.erase p
    rwa [FileTree.erase_set hfree] at hgrows
  at?_eq q hq := by
    have hne : q ≠ p := by
      rintro rfl
      exact hq hp
    rw [at?_erase_of_ne hne, h.at?_eq q hq, at?_set_of_ne hne]
  link q target hl := by
    by_cases hq : q = p
    · subst hq
      rw [at?_erase_self (ne_nil_of_none hfree)] at hl
      cases hl
    · rw [at?_erase_of_ne hq] at hl
      have hlink := h.link q target hl
      rwa [at?_set_of_ne hq] at hlink

/-- A path leads to a directory, and there are no links below it. -/
structure Open (t : FileTree) (root : Path) (dir : Position) : Prop where
  reaches : t.Reaches linkLimit root dir
  noLink : t.NoLinkBelow dir

namespace Open

theorem within (h : t.Open root dir) (hw : Within dir t t') : t'.Open root dir :=
  ⟨hw.grows.reaches h.reaches, hw.noLinkBelow h.noLink⟩

/-- A walk along the path, and on by names below it, ends at a directory on the way or below the last one. -/
theorem ends_below (h : t.Open root dir) (hnames : ∀ name ∈ names, LeadsDown name)
    (hparts : parts <+: root.parts ++ names) (hw : Walked t true linkLimit (t.start root) parts s)
    (hs : ∀ d, s ≠ .taken d .directory) : Below dir s.position := by
  rcases List.prefix_or_prefix_of_prefix hparts (List.prefix_append root.parts names) with
    ⟨rest, hrest⟩ | ⟨rest, rfl⟩
  · have hreaches := h.reaches
    rw [Reaches, ← hrest] at hreaches
    by_cases hnil : rest = []
    · subst hnil
      rw [List.append_nil] at hreaches
      exact absurd (hw.unique hreaches) (hs dir)
    · obtain ⟨d, hd, -⟩ := hreaches.split hnil
      exact absurd (hw.unique hd) (hs d)
  · by_cases hnil : rest = []
    · subst hnil
      rw [List.append_nil] at hw
      exact absurd (hw.unique h.reaches) (hs dir)
    · obtain ⟨d, hd, links, -, hrest⟩ := hw.split hnil
      obtain rfl : d = dir := Reaches.unique h.reaches hd
      have hsub : rest ⊆ names := ((List.prefix_append_right_inj root.parts).1 hparts).subset
      exact hrest.ends_below h.noLink List.suffix_rfl (fun name hm => hnames name (hsub hm)) hnil

variable (h : t.Open root dir) (hproper : root.Proper) (hnames : ∀ name ∈ names, LeadsDown name)
  (hparts : parts <+: root.parts ++ names)

include hproper hnames hparts in
theorem proper_along : (Path.mk root.anchor parts).Proper := by
  intro name hm
  rcases List.mem_append.1 (hparts.subset hm) with hm | hm
  · exact hproper name hm
  · exact (hnames name hm).toIsName

include h hproper hnames hparts

theorem makeDirectory (hm : t.makeDirectory (Path.mk root.anchor parts).text = .ok t') : Within dir t t' := by
  obtain ⟨p, hw, rfl⟩ := makeDirectory_text (proper_along hproper hnames hparts) hm
  have hbelow : Below dir p := h.ends_below hnames hparts (hw.follow_free rfl) (by simp)
  exact within_set (grows_set_free (hw.at?_free rfl)) hbelow (by simp)

theorem write (hw : t.write (Path.mk root.anchor parts).text content = .ok t') : Within dir t t' := by
  have hgrows := write_grows hw
  rw [FileTree.write] at hw
  rcases ht : t.target (Path.mk root.anchor parts).text with cause | ⟨p, content₀, mode⟩ <;>
    rw [ht] at hw <;> cases hw
  have hbelow : ∀ s, t.walk true (Path.mk root.anchor parts).text = .ok s → (∀ d, s ≠ .taken d .directory) →
      Below dir s.position := by
    intro s hwalk
    exact h.ends_below hnames hparts ((walk_text_iff (proper_along hproper hnames hparts)).1 hwalk).2
  refine within_set hgrows ?_ (by simp)
  rcases target_eq_ok ht with hwalk | hwalk
  · exact hbelow _ hwalk (by simp)
  · exact hbelow _ hwalk (by simp)

end Open

end FileTree

/-! ## Actions -/

namespace Act

open FileTree

variable {ε δ α β : Type} {root : Path} {dir : Position}

/-- An action that touches nothing but what is below the directory that a path leads to. -/
def Confined (root : Path) (dir : Position) (x : Act ε α) : Prop :=
  ∀ t, t.Open root dir → Within dir t (x.outcome t).2

theorem confined_pure (a : α) : Confined root dir (pure a : Act ε α) := fun t _ => .refl dir t

theorem confined_fail (e : ε) : Confined root dir (fail e : Act ε α) := fun t _ => .refl dir t

theorem confined_look (f : FileTree → α) : Confined root dir (look f : Act ε α) := fun t _ => .refl dir t

theorem Confined.bind {x : Act ε α} {f : α → Act ε β} (hx : x.Confined root dir)
    (hf : ∀ a, (f a).Confined root dir) : (x >>= f).Confined root dir := by
  intro t ho
  have ht := hx t ho
  rcases h : x.outcome t with ⟨e | a, t₁⟩ <;> rw [h] at ht
  · rwa [outcome_bind_of_error h]
  · rw [outcome_bind_of_ok h]
    exact ht.trans (hf a t₁ (ho.within ht))

theorem Confined.mapError {x : Act ε α} (hx : x.Confined root dir) (f : ε → δ) :
    (x.mapError f).Confined root dir := hx

theorem confined_call {path : String} {f : FileTree → Except Cause FileTree}
    (hf : ∀ {t t'}, t.Open root dir → f t = .ok t' → Within dir t t') : (call path f).Confined root dir := by
  intro t ho
  rw [call, outcome_ofOutcome]
  split
  · next t' h => exact hf ho h
  · exact .refl dir t

theorem Confined.forM {f : α → Act ε PUnit} (hf : ∀ a, (f a).Confined root dir) :
    ∀ xs : List α, (List.forM xs f).Confined root dir
  | [] => confined_pure _
  | x :: xs => (hf x).bind fun _ => Confined.forM hf xs

end Act

/-! ## Unpacking -/

namespace Zip

open FileTree Act

variable {root destination : Path} {dir : Position} {names : List String} {bs : Octets} {m : Member}

theorem leadsDown_of_mem_memberNames {name : String} (h : name ∈ memberNames m) : LeadsDown name := by
  rw [memberNames, List.mem_filter] at h
  exact ⟨isName_of_mem_pathNames h.1, by simpa using h.2⟩

/-- A member goes below the normal path of the destination. -/
theorem target_eq (destination : Path) (m : Member) :
    target destination m = ⟨destination.anchor, destination.normal.parts ++ memberNames m⟩ :=
  Path.normal_append destination fun hm => (leadsDown_of_mem_memberNames hm).ne_dots rfl

theorem confined_makeMissing (hproper : root.Proper) (hnames : ∀ name ∈ names, LeadsDown name) :
    ∀ {above : List String}, above.reverse <+: root.parts ++ names →
      (makeMissing root.anchor above).Confined root dir
  | [], _ => confined_pure _
  | name :: above, hparts => by
    have habove : above.reverse <+: root.parts ++ names := by
      rw [List.reverse_cons] at hparts
      exact (List.prefix_append _ _).trans hparts
    have hupper : (makeUpper root.anchor above).Confined root dir := by
      intro t ho
      have ih := confined_makeMissing hproper hnames habove t ho
      rw [makeUpper, outcome_ofOutcome]
      split
      · exact .refl dir t
      rcases hr : (makeMissing root.anchor above).outcome t with ⟨e | _, t₁⟩ <;> rw [hr] at ih
      · dsimp only
        split <;> exact ih
      · exact ih
    rw [makeMissing_cons]
    exact hupper.bind fun _ => confined_call fun ho hm => ho.makeDirectory hproper hnames hparts hm

section Member

variable (hproper : destination.Proper)

include hproper

theorem confined_makeRoom (m : Member) : (makeRoom destination m).Confined destination.normal dir := by
  refine (confined_look _).bind fun isThere => ?_
  split
  · refine Confined.mapError ?_ _
    have hanchor : (target destination m).parent.anchor = destination.normal.anchor := by rw [target_eq]; rfl
    have hparts : (target destination m).parent.parts.reverse.reverse <+:
        destination.normal.parts ++ memberNames m := by
      rw [List.reverse_reverse, Path.parent, target_eq]
      exact List.dropLast_prefix _
    rw [hanchor]
    exact confined_makeMissing hproper.normal (fun _ hm => leadsDown_of_mem_memberNames hm) hparts
  · exact confined_pure _

theorem confined_writeMember (bs : Octets) (m : Member) :
    (writeMember bs m (target destination m).text).Confined destination.normal dir := by
  have hwrite : ∀ {t t' : FileTree} {octets : Octets}, t.Open destination.normal dir →
      t.write (target destination m).text octets = .ok t' → Within dir t t' := by
    intro t t' octets ho hw
    rw [target_eq] at hw
    exact ho.write hproper.normal (fun _ hm => leadsDown_of_mem_memberNames hm) List.prefix_rfl hw
  intro t ho
  rw [writeMember, outcome_ofOutcome]
  split
  · exact .refl dir t
  split
  · exact .refl dir t
  next t₁ hw =>
  have h₁ := hwrite ho hw
  dsimp only
  generalize hw₂ : t₁.write _ _ = x
  cases x with
  | error cause => exact h₁
  | ok t₂ => exact h₁.trans (hwrite (ho.within h₁) hw₂)

theorem confined_place (bs : Octets) (m : Member) :
    (place bs (target destination m) m).Confined destination.normal dir := by
  rw [place]
  split
  · exact confined_fail _
  split
  · refine (confined_look _).bind fun isThere => ?_
    split
    · refine Confined.mapError (confined_call fun ho hm => ?_) _
      rw [target_eq] at hm
      exact ho.makeDirectory hproper.normal (fun _ hm => leadsDown_of_mem_memberNames hm) List.prefix_rfl hm
    · exact confined_pure _
  · exact confined_writeMember hproper bs m

/-- Unpacking an archive, whatever its members are called and whether or not it comes to an end, touches
nothing but what is below the directory that the normal path of the destination leads to. -/
theorem confined_unpack (bs : Octets) : (unpack bs destination).Confined destination.normal dir := by
  rcases hm : members bs with e | ms
  · intro t ho
    rw [unpack_of_error hm]
    exact .refl dir t
  · rw [unpack_of_members hm]
    refine Confined.forM (fun m => ?_) ms
    rw [unpackMember_eq]
    exact (confined_makeRoom hproper _).bind fun _ => confined_place hproper bs _

end Member

end Zip

/-! ## The temporary file -/

open FileTree in
theorem Downloader.TemporaryAt.exists_below {d : Downloader} {t : FileTree} {destination : Path} {p : Position}
    (hg : t.Grounded) (hproper : destination.Proper) (h : d.TemporaryAt t destination p) :
    ∃ dir, t.Reaches linkLimit destination.normal dir ∧ Below dir p := by
  have habsolute : ((pathOf t.here).join destination).Proper := by
    rw [Path.join]
    split
    · exact hproper
    · intro name hm
      rcases List.mem_append.1 hm with hm | hm
      · exact hg.names name (List.mem_reverse.1 hm)
      · exact hproper name hm
  obtain ⟨dir, hdir, hp⟩ := exists_of_walk_div habsolute.normal (leadsDown_temporaryName _) h (by simp)
  have hp : p = _ := hp
  exact ⟨dir, hg.reaches_of_absolute hdir, hp ▸ below_cons List.suffix_rfl _⟩

namespace Downloader

open FileTree

variable {d : Downloader} {destination : Path} {executable : Option String} {t : FileTree} {dir : Position}

/-! ## The executable -/

/-- Marking gives one file in the destination a permission, and touches nothing else. -/
theorem mark_at?_eq (hr : t.Reaches linkLimit destination dir) (hl : t.NoLinkBelow dir)
    (hproper : destination.Proper) (hx : ∀ name, executable = some name → LeadsDown name) (q : Position) :
    ((d.mark destination executable).outcome t).2.at? q = t.at? q ∨
      ∃ name content mode, executable = some name ∧ q = name :: dir ∧ t.at? q = some (.file content mode) ∧
        ((d.mark destination executable).outcome t).2.at? q = some (.file content (mode ||| executeBits)) := by
  rcases d.mark_tree_eq destination executable t with htree | ⟨name, rfl, htree⟩
  · exact .inl (by rw [htree])
  have hname := hx name rfl
  by_cases hfile : ∃ p content mode, t.walk true (destination / name).text = .ok (.taken p (.file content mode))
  · obtain ⟨p, content, mode, hw⟩ := hfile
    have hat := at?_of_walk_file hw
    have hp : p = name :: dir := by
      obtain ⟨d', hd', hp⟩ := exists_of_walk_div hproper hname hw fun _ d' hd' target => by
        rw [hr.unique hd']
        exact hl _ target (below_cons List.suffix_rfl name)
      rwa [hr.unique hd'] at hp
    rw [htree, permit_of_file hw]
    by_cases hq : q = p
    · subst hq
      exact .inr ⟨name, content, mode, rfl, hp, hat, at?_set_self (ne_nil_of_file hat)⟩
    · exact .inl (at?_set_of_ne hq)
  · exact .inl (by rw [htree, permit_of_no_file fun p content mode hw => hfile ⟨p, content, mode, hw⟩])

end Downloader

/-! ## The whole download -/

namespace FileTree

variable {t t' : FileTree} {destination : Path} {dir : Position}

/-- The tree once the destination of a download has been made, as far as that goes. -/
def made (t : FileTree) (destination : Path) : FileTree :=
  if hasNul destination.text then t else ((Act.makeDirectories destination).outcome t).2

theorem paved_made (t : FileTree) (destination : Path) : Paved destination t (t.made destination) := by
  rw [made]
  split
  · exact .start
  · exact makeDirectories_paved destination t

theorem Paved.grows (h : Paved destination t t') : Grows t t' := by
  induction h with
  | start => exact .refl t
  | make _ _ hm ih => exact ih.trans (makeDirectory_grows hm)

theorem Paved.noLinkBelow (h : Paved destination t t') (hl : t.NoLinkBelow dir) : t'.NoLinkBelow dir := by
  intro q target hq hlink
  rcases h.at?_eq q with heq | ⟨-, hdirectory⟩
  · exact hl q target hq (heq ▸ hlink)
  · rw [hdirectory] at hlink
    cases hlink

theorem Grounded.grows (h : t.Grounded) (hg : Grows t t') : t'.Grounded where
  directory d hd := hg.directory (h.directory d (hg.here ▸ hd))
  plain name hm := h.plain name (hg.here ▸ hm)
  names name hm := h.names name (hg.here ▸ hm)

end FileTree

theorem within_unpackArchive {t : FileTree} {destination : Path} {dir : Position} (hproper : destination.Proper)
    (h : t.Open destination.normal dir) (name : String) (octets : Octets) :
    t.Within dir ((unpackArchive name octets destination).outcome t).2 := by
  have hconfined : (unpackArchive name octets destination).Confined destination.normal dir := by
    refine Act.Confined.mapError ?_ _
    split
    · exact fun t _ => .refl dir t
    · exact Zip.confined_unpack hproper octets
  exact hconfined t h

namespace Downloader

open FileTree

variable {d : Downloader} {url : String} {destination : Path} {executable : Option String} {t t₁ : FileTree}
  {octets : Octets} {stop : Option Chunk} {p : Position}

/-- Once a body is held, the destination and its normal path both lead to directories, and the body stands
below the second. -/
theorem Held.exists_directories (hs : d.Passive) (hg : t.Grounded) (hproper : destination.Proper)
    (h : d.Held url destination t octets stop t₁ p) :
    t₁ = t.made destination ∧ (∃ dir, t₁.Reaches linkLimit destination dir) ∧
      ∃ dir, t₁.Reaches linkLimit destination.normal dir ∧ Below dir p := by
  have hmade : t₁ = t.made destination := by rw [made, h.noNul, h.tree_eq hs]; rfl
  obtain ⟨⟨hn, hm, ha, -⟩, ht, -⟩ := h
  have hgrounded : t₁.Grounded := hmade ▸ hg.grows (paved_made t destination).grows
  refine ⟨hmade, ?_, ht.exists_below hgrounded hproper⟩
  rw [hs.tree_eq ha]
  exact reaches_of_makeDirectories hproper hm

/-- What a download makes of the tree in which its destination has been made: nothing, or something below the
directory of the normal path, after which the executable may be marked. -/
theorem fetch_within (hs : d.Passive) (hg : t.Grounded) (hproper : destination.Proper) :
    (d.fetch url destination executable t).tree = t.made destination ∨
      ∃ dir dir' t₂, (t.made destination).Reaches linkLimit destination dir ∧
        (t.made destination).Reaches linkLimit destination.normal dir' ∧
        ((t.made destination).NoLinkBelow dir' → (t.made destination).Within dir' t₂) ∧
        ((d.fetch url destination executable t).tree = t₂ ∨
          (d.fetch url destination executable t).tree = ((d.mark destination executable).outcome t₂).2) := by
  have hmade : ∀ {x t₀}, hasNul destination.text = false →
      (Act.makeDirectories destination).outcome t = (x, t₀) → t₀ = t.made destination := by
    intro x t₀ hn hm
    rw [made, hn, hm]
    rfl
  obtain ⟨r, hr⟩ := exists_fetches d url destination executable t
  rw [hr.fetch_eq]
  cases hr with
  | nul hn => exact .inl (by simp [made, hn])
  | noDestination hn hm => exact .inl (hmade hn hm)
  | noAnswer hn hm ha => exact .inl ((hs.tree_eq ha).trans (hmade hn hm))
  | refused hn hm ha => exact .inl ((hs.tree_eq ha).trans (hmade hn hm))
  | noTemporary ha =>
    obtain ⟨hn, hm, ha, -⟩ := ha
    exact .inl ((hs.tree_eq ha).trans (hmade hn hm))
  | interrupted hh | unwritten hh => exact .inl (hh.exists_directories hs hg hproper).1
  | broken hh =>
    obtain ⟨rfl, ⟨dir, hdir⟩, dir', hdir', hp⟩ := hh.exists_directories hs hg hproper
    obtain ⟨-, ht, -⟩ := hh
    exact .inr ⟨dir, dir', _, hdir, hdir', fun _ => within_set (ht.grows _) hp (by simp), .inl rfl⟩
  | @failed e octets t₁ t₂ p hh hu | @unpacked octets t₁ t₂ p hh hu =>
    obtain ⟨rfl, ⟨dir, hdir⟩, dir', hdir', hp⟩ := hh.exists_directories hs hg hproper
    obtain ⟨-, ht, -⟩ := hh
    refine .inr ⟨dir, dir', t₂.erase p, hdir, hdir', fun hl => ?_, by simp⟩
    -- The temporary file stands below the directory itself, so a member that has its name does no harm.
    have hopen : ((t.made destination).holding p octets).Open destination.normal dir' :=
      Open.within ⟨hdir', hl⟩ (within_set (ht.grows octets) hp (by simp))
    have hwithin := within_unpackArchive hproper hopen (archiveNameOf url) octets
    rw [hu] at hwithin
    exact hwithin.erase_set (at?_of_walk_free ht) hp

/-- The places that a download touches once its destination has been made: what is unpacked is below the
directory of the normal path, and one file in the destination gets a permission. -/
inductive Touched (destination : Path) (executable : Option String) (t t' : FileTree) (q : Position) : Prop
  | unpacked {dir : Position} : t.Reaches linkLimit destination.normal dir → Below dir q →
      Touched destination executable t t' q
  | marked {dir : Position} {name : String} {content : Octets} {mode : Nat} :
      t.Reaches linkLimit destination dir → executable = some name → q = name :: dir →
      t.at? q = some (.file content mode) →
      t'.at? q = some (.file content (mode ||| executeBits)) → Touched destination executable t t' q

theorem fetch_touches (hs : d.Passive) (hg : t.Grounded) (hproper : destination.Proper)
    (hx : ∀ name, executable = some name → LeadsDown name)
    (hl : ∀ dir, (t.made destination).Reaches linkLimit destination dir ∨
      (t.made destination).Reaches linkLimit destination.normal dir → t.NoLinkBelow dir) (q : Position) :
    (d.fetch url destination executable t).tree.at? q = (t.made destination).at? q ∨
      Touched destination executable (t.made destination) (d.fetch url destination executable t).tree q := by
  have hpaved := paved_made t destination
  rcases @fetch_within d url destination executable t hs hg hproper with
    htree | ⟨dir, dir', t₂, hdir, hdir', hw, htree⟩
  · exact .inl (by rw [htree])
  have hw := hw (hpaved.noLinkBelow (hl dir' (.inr hdir')))
  by_cases hq : Below dir' q
  · exact .inr (.unpacked hdir' hq)
  have hsame := hw.at?_eq q hq
  rcases htree with htree | htree
  · exact .inl (by rw [htree, hsame])
  have hlink := hw.noLinkBelow (hpaved.noLinkBelow (hl dir (.inl hdir)))
  rw [htree]
  rcases mark_at?_eq (hw.grows.reaches hdir) hlink hproper hx q with
    heq | ⟨name, content, mode, hname, hq, hfile, hmark⟩
  · exact .inl (heq.trans hsame)
  · exact .inr (.marked hdir hname hq (hsame ▸ hfile) hmark)

/-- What a download can touch. Before anything else it makes directories on the way to its destination. If
the destination has no double dots, or is on no link, everything that it touches after that is below the
destination. In general what it unpacks is below the directory of the normal path, which may be another one. -/
theorem fetch_confined (d : Downloader) (url : String) (destination : Path) (executable : Option String)
    (t : FileTree) (hs : d.Passive) (hg : t.Grounded) (hproper : destination.Proper)
    (hx : ∀ name, executable = some name → LeadsDown name) :
    Paved destination t (t.made destination) ∧
    ((d.fetch url destination executable t).tree = t.made destination ∨
      ∃ dir, (t.made destination).Reaches linkLimit destination dir) ∧
    (∀ dir, (t.made destination).Reaches linkLimit destination dir → t.NoLinkBelow dir →
      (".." ∈ destination.parts → (t.made destination).Reaches 0 destination dir) →
      ∀ q, (d.fetch url destination executable t).tree.at? q = (t.made destination).at? q ∨ Below dir q) ∧
    ((∀ dir, (t.made destination).Reaches linkLimit destination dir ∨
        (t.made destination).Reaches linkLimit destination.normal dir → t.NoLinkBelow dir) →
      ∀ q, (d.fetch url destination executable t).tree.at? q = (t.made destination).at? q ∨
        Touched destination executable (t.made destination) (d.fetch url destination executable t).tree q) := by
  refine ⟨paved_made t destination, ?_, fun dir hdir hl hstraight q => ?_,
    fun hl q => fetch_touches hs hg hproper hx hl q⟩
  · exact (fetch_within hs hg hproper).imp_right fun ⟨dir, _, _, hdir, _⟩ => ⟨dir, hdir⟩
  -- Both paths lead to one directory.
  have hsame : ∀ dir', (t.made destination).Reaches linkLimit destination.normal dir' → dir' = dir := by
    intro dir' hdir'
    by_cases hdots : ".." ∈ destination.parts
    · have hnormal := (hstraight hdots).normal hproper
      exact Reaches.unique (Walked.mono_links hnormal (Nat.zero_le _)) hdir'
    · rw [Path.normal_of_no_dots hdots] at hdir'
      exact hdir.unique hdir'
  have hlinks : ∀ dir', (t.made destination).Reaches linkLimit destination dir' ∨
      (t.made destination).Reaches linkLimit destination.normal dir' → t.NoLinkBelow dir' := by
    rintro dir' (hdir' | hdir')
    · exact hdir.unique hdir' ▸ hl
    · exact hsame dir' hdir' ▸ hl
  refine (fetch_touches hs hg hproper hx hlinks q).imp_right fun htouched => ?_
  cases htouched with
  | unpacked hdir' hq => exact hsame _ hdir' ▸ hq
  | marked hdir' _ hq =>
    rw [hq, hdir.unique hdir']
    exact below_cons List.suffix_rfl _

/-- A tree with a link, and directories of one name beside the link and beside where it leads. -/
def crossedTree : FileTree where
  entries := [(["a"], .directory), (["b", "a"], .directory), (["ln"], .link "a/b"), (["store"], .directory),
    (["store", "a"], .directory), (["tool", "store", "a"], .file [] 0o644)]
  here := []

-- One empty file by the name of the executable.
def toolArchive : Octets := Zip.stored [([116, 111, 111, 108], [])]

/-- Double dots behind a link lead out of the destination: the archive is unpacked into one directory, and a
file in another one is marked. -/
theorem fetch_confined_crossed :
    let destination := Path.ofText "/ln/../store"
    let t' := ((Search.answering toolArchive).fetch "host/a.zip" destination (some "tool") crossedTree).tree
    (crossedTree.made destination).Reaches linkLimit destination ["store", "a"] ∧
      ¬Below ["store", "a"] ["tool", "store"] ∧
      crossedTree.at? ["tool", "store"] = none ∧ t'.at? ["tool", "store"] = some (.file [] 0o644) ∧
      t'.at? ["tool", "store", "a"] = some (.file [] 0o755) ∧
      ∀ q, t'.at? q = (crossedTree.made destination).at? q ∨
        Touched destination (some "tool") (crossedTree.made destination) t' q := by
  intro destination t'
  have hreaches : (crossedTree.made destination).Reaches linkLimit destination ["store", "a"] :=
    walkFrom_eq_ok_iff.1 (by decide +kernel)
  have hnormal : (crossedTree.made destination).Reaches linkLimit destination.normal ["store"] :=
    walkFrom_eq_ok_iff.1 (by decide +kernel)
  have hlink : ∀ {q target}, crossedTree.at? q = some (.link target) → q = ["ln"] := by
    intro q target h
    have hmem := mem_entries_of_link h
    simp only [crossedTree, List.mem_cons, Prod.mk.injEq, reduceCtorEq, and_false, false_or, List.not_mem_nil,
      or_false] at hmem
    exact hmem.1
  have hgrounded : crossedTree.Grounded :=
    ⟨fun d hd => by rw [List.suffix_nil.1 hd]; rfl, by simp [crossedTree], by simp [crossedTree]⟩
  have hname : ∀ name, some "tool" = some name → LeadsDown name := by
    rintro name ⟨⟩
    exact ⟨⟨by decide, by decide, by decide⟩, by decide⟩
  have hlinks : ∀ dir, (crossedTree.made destination).Reaches linkLimit destination dir ∨
      (crossedTree.made destination).Reaches linkLimit destination.normal dir →
      crossedTree.NoLinkBelow dir := by
    rintro dir hdir q target ⟨hsuffix, -⟩ hat
    rw [hlink hat] at hsuffix
    rcases hdir with hdir | hdir
    · rw [hreaches.unique hdir] at hsuffix
      exact absurd hsuffix (by decide)
    · rw [hnormal.unique hdir] at hsuffix
      exact absurd hsuffix (by decide)
  have h := fetch_confined (Search.answering toolArchive) "host/a.zip" destination (some "tool") crossedTree
    (Search.answering_passive _) hgrounded (Path.proper_ofText _) hname
  exact ⟨hreaches, fun hb => absurd hb.1 (by decide), by decide +kernel, by decide +kernel, by decide +kernel,
    h.2.2.2 hlinks⟩

end Downloader

end SqlTidy
