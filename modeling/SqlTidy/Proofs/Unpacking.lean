import SqlTidy.Proofs.Growth

/-!
# How unpacking ends

Unpacking fails in one of the expected ways, or it crashes. It crashes at a member without a name, at
a member whose data is no data of its method, and at a member whose data ends with the archive
(`Fatal`): in no other way, and whatever comes behind that member (`unpack_crash_iff`). A tree that is
unpacked into grows (`growing_unpackMember`).

`Ends P Q x` says that `x` fails with an error of `P` or yields a result of `Q`.
-/

namespace SqlTidy

namespace Zip

section Ends

variable {α β : Type} {P : UnpackError → Prop} {Q : α → Prop} {R : β → Prop}

def Ends (P : UnpackError → Prop) (Q : α → Prop) : Except UnpackError α → Prop
  | .ok a => Q a
  | .error e => P e

/-- What ends well goes on, and what fails has failed in one of the ways. -/
theorem Ends.bind {x : Except UnpackError α} {f : α → Except UnpackError β} (hx : Ends P Q x)
    (hf : ∀ a, Q a → Ends P R (f a)) : Ends P R (x >>= f) := by
  cases x with
  | ok a => exact hf a hx
  | error e => exact hx

theorem Ends.of_error {x : Except UnpackError α} {e : UnpackError} (hx : Ends P Q x) (h : x = .error e) :
    P e := by
  rwa [h] at hx

theorem Ends.of_ok {x : Except UnpackError α} {a : α} (hx : Ends P Q x) (h : x = .ok a) : Q a := by
  rwa [h] at hx

theorem Ends.ite {c : Prop} [Decidable c] {x y : Except UnpackError α} (hx : Ends P Q x)
    (hy : Ends P Q y) : Ends P Q (if c then x else y) := by
  split
  · exact hx
  · exact hy

end Ends

/-- An expected failure. -/
def Calm (e : UnpackError) : Prop := ∀ c, e ≠ .crash c

theorem calm_damaged (d : Damage) : Calm (.damaged d) := by simp [Calm]

theorem calm_unsupported (f : Unsupported) : Calm (.unsupported f) := by simp [Calm]

theorem calm_io (e : IoError) : Calm (.io e) := by simp [Calm]

/-- A computation that fails in expected ways only. -/
abbrev EndsCalmly {α : Type} (x : Except UnpackError α) : Prop := Ends Calm (fun _ => True) x

/-! ## The directory -/

theorem widen_calm (bs : Octets) (e : EndRecord) : EndsCalmly (widen bs e) :=
  .ite trivial (.ite trivial (.ite (calm_damaged _) (.ite (calm_damaged _) (.ite trivial trivial))))

theorem endRecord_calm (bs : Octets) : EndsCalmly (endRecord bs) := by
  rw [endRecord]
  split
  · exact calm_damaged _
  · exact widen_calm ..

theorem decodeName_calm (flags : Nat) (bs : Octets) : EndsCalmly (decodeName flags bs) := by
  refine .ite ?_ trivial
  cases utf8Decode bs with
  | ok s => trivial
  | error e => exact calm_unsupported _

theorem wideNumber_calm (overflows : Bool) (name : String) (value : Nat) (data : Octets) :
    EndsCalmly (wideNumber overflows name value data) :=
  .ite trivial (.ite (calm_damaged _) trivial)

theorem applyWide_calm (m : Member) (data : Octets) : EndsCalmly (applyWide m data) :=
  (wideNumber_calm ..).bind fun _ _ => (wideNumber_calm ..).bind fun _ _ =>
    (wideNumber_calm ..).bind fun _ _ => trivial

/-- By induction on the steps, of which each takes one field off the extra data. -/
theorem applyExtra_calm : ∀ (steps : Nat) (m : Member) (extra : Octets),
    EndsCalmly (applyExtra steps m extra)
  | 0, _, _ => trivial
  | steps + 1, m, extra => by
    rw [applyExtra]
    refine .ite trivial (.ite (calm_damaged _) (.ite ?_ ?_))
    · exact (applyWide_calm ..).bind fun _ _ => applyExtra_calm steps _ _
    · exact applyExtra_calm steps _ _

theorem takeMember_calm (shift : Int) (bs : Octets) : EndsCalmly (takeMember shift bs) :=
  .ite (calm_damaged _) (.ite (calm_damaged _) ((decodeName_calm ..).bind fun _ _ =>
    .ite (calm_unsupported _) ((applyExtra_calm ..).bind fun _ _ => trivial)))

theorem takeMembers_calm (shift : Int) : ∀ (steps left : Nat) (bs : Octets),
    EndsCalmly (takeMembers shift steps left bs)
  | 0, _, _ => trivial
  | steps + 1, left, bs => by
    rw [takeMembers]
    refine .ite trivial ((takeMember_calm ..).bind fun _ _ => ?_)
    exact (takeMembers_calm shift steps _ _).bind fun _ _ => trivial

/-- However damaged it is, reading the directory of an archive never crashes. -/
theorem members_calm (bs : Octets) : EndsCalmly (members bs) :=
  (endRecord_calm bs).bind fun _ _ =>
    .ite (calm_damaged _) ((takeMembers_calm ..).bind fun _ _ => trivial)

/-! ## The content of a member -/

/-- The crashes that the data of a method can lead to. -/
inductive Fault : Nat → Crash → Prop
  | deflated : Fault 8 .corruptData
  | lzma (text : String) : Fault 14 (.lzma text)
  | ended (method : Nat) : Fault method (.dataEnded "")

/-- A failure that data of a method can lead to. -/
def Faulty (method : Nat) (e : UnpackError) : Prop := ∀ c, e = .crash c → Fault method c

theorem Calm.faulty {e : UnpackError} (h : Calm e) (method : Nat) : Faulty method e :=
  fun c hc => absurd hc (h c)

theorem Fault.faulty {method : Nat} {c : Crash} (h : Fault method c) : Faulty method (.crash c) := by
  intro c' hc
  cases hc
  exact h

/-- The method that a decoder is for. -/
def Decoder.method : Decoder → Nat
  | .stored => 0
  | .deflated _ _ => 8
  | .bzip2 _ _ => 12
  | .lzma _ _ => 14

/-- A decoder is found for its own method only. -/
theorem method_of_decoderOf? {n : Nat} {d : Decoder} (h : decoderOf? n = some d) : d.method = n := by
  unfold decoderOf? at h
  split at h <;> cases h <;> rfl

theorem expandLzma_faulty (data : Octets) :
    Ends (Faulty 14) (fun _ => True) (Decoder.expandLzma data) := by
  refine .ite trivial ?_
  split
  · exact (Fault.lzma _).faulty
  · split
    · exact (Fault.lzma _).faulty
    · trivial

/-- A step of a decoder does not change the method, and fails as its method can. Data of the method 12 fails with an
expected error, which is why there is no fault for it. -/
theorem step_faulty (d : Decoder) (wanted : Nat) (piece : Octets) (isLast : Bool) :
    Ends (Faulty d.method) (fun x => x.2.2.method = d.method) (d.step wanted piece isLast) := by
  cases d with
  | stored => rfl
  | deflated inflater n =>
    rw [Decoder.step]
    dsimp only
    split
    · exact Fault.deflated.faulty
    · exact .ite rfl rfl
  | bzip2 data given =>
    rw [Decoder.step]
    split
    · exact Calm.faulty (by simp [Calm]) _
    · rfl
  | lzma data given => exact (expandLzma_faulty _).bind fun _ _ => rfl

namespace Reader

variable (r : Reader) {method : Nat}

/-- Reading goes on with the same method, and fails as data of it can. -/
abbrev Sound {α : Type} (method : Nat) (x : Except UnpackError (α × Reader)) : Prop :=
  Ends (Faulty method) (fun y => y.2.decoder.method = method) x

theorem take_sound (h : r.decoder.method = method) (n : Nat) : Sound method (r.take n) :=
  .ite h (.ite (Fault.ended _).faulty h)

/-- Filling a reader takes octets, which may have ended, and lets the decoder make a step. -/
theorem fill_sound (h : r.decoder.method = method) (n : Nat) : Sound method (r.fill n) := by
  rw [fill]
  refine .ite ((take_sound r h _).bind fun x hx => ?_) ?_
  · refine (hx ▸ step_faulty x.2.decoder ..).bind fun y hy => ?_
    exact .ite (Calm.faulty (calm_damaged _) _) hy
  · refine (h ▸ step_faulty r.decoder ..).bind fun y hy => ?_
    exact .ite (Calm.faulty (calm_damaged _) _) hy

theorem gather_sound : ∀ (steps n : Nat) (got : List Octets) (r : Reader), r.decoder.method = method →
    Sound method (gather steps n got r)
  | 0, _, _, _, h => h
  | steps + 1, n, got, r, h => by
    rw [gather]
    refine .ite h ((fill_sound r h n).bind fun x hx => .ite hx ?_)
    exact gather_sound steps _ _ _ hx

theorem block_sound (h : r.decoder.method = method) : Sound method r.block :=
  .ite h (gather_sound _ _ _ _ h)

/-- By induction on the blocks: the reader keeps its method from one to the next. -/
theorem blocks_faulty {e : UnpackError} : ∀ (steps : Nat) (r : Reader), r.decoder.method = method →
    (r.blocks steps).2 = some e → Faulty method e
  | 0, _, _, h => by cases h
  | steps + 1, r, hr, h => by
    have hb := r.block_sound hr
    rw [blocks] at h
    split at h
    · next h' =>
      cases h
      exact hb.of_error h'
    · cases h
    · next h' => exact blocks_faulty steps _ (hb.of_ok h') h

end Reader

theorem content_faulty {bs : Octets} {m : Member} {start : Nat} {decoder : Decoder} {e : UnpackError}
    (h : (content bs m start decoder).2 = some e) : Faulty decoder.method e := by
  rw [content] at h
  exact Reader.blocks_faulty _ _ rfl h

/-- All that is checked before the data of a member is read ends in an expected way. -/
theorem dataStart_calm (bs : Octets) (m : Member) :
    Ends Calm (fun x => x.2.method = m.method) (dataStart bs m) := by
  refine .ite (calm_io _) (.ite (calm_unsupported _) (.ite (calm_damaged _) (.ite (calm_damaged _) ?_)))
  refine .ite (calm_unsupported _) (.ite (calm_unsupported _) ?_)
  refine (decodeName_calm ..).bind fun name _ => ?_
  refine .ite (calm_damaged _) (.ite (calm_damaged _) (.ite (calm_unsupported _) ?_))
  split
  · exact calm_unsupported _
  · next h => exact method_of_decoderOf? h

/-! ## One member -/

/-- Where a member goes. -/
def target (destination : Path) (m : Member) : Path :=
  Path.normal ⟨destination.anchor, destination.parts ++ memberNames m⟩

/-- Makes the directories above the place of a member. -/
def makeRoom (destination : Path) (m : Member) : Act UnpackError Unit := do
  let path := target destination m
  let isThere ← Act.look fun t => path.parts.isEmpty || t.leads path.parent.text
  if !isThere then Act.mapError .io (makeMissing path.parent.anchor path.parent.parts.reverse)

/-- Makes the directory that a member stands for, unless it is there. -/
def placeDirectory (path : Path) : Act UnpackError Unit := do
  let isThere ← Act.look fun t => t.isDirectory path.text
  if !isThere then Act.mapError .io (Act.call path.text fun t => t.makeDirectory path.text)

/-- Puts a member at its place. -/
def place (bs : Octets) (path : Path) (m : Member) : Act UnpackError Unit :=
  if m.name = "" then Act.fail (.crash .namelessMember)
  else if m.isDirectory then placeDirectory path
  else writeMember bs m path.text

variable {bs : Octets} {destination path : Path} {m : Member} {t t' : FileTree} {c : Crash}

/-- Unpacking a member makes room for it and then puts it there. -/
theorem unpackMember_eq (bs : Octets) (destination : Path) (m : Member) :
    unpackMember bs destination m = (makeRoom destination m >>= fun _ => place bs (target destination m) m) := by
  refine Act.ext fun t => ?_
  rw [unpackMember, makeRoom, bind_assoc, Act.outcome_bind, Act.outcome_bind]
  simp only [Act.outcome_look]
  by_cases hu : (!((target destination m).parts.isEmpty ||
    t.leads (target destination m).parent.text)) = true
  · rw [if_pos hu]
    exact congrArg (Act.outcome · t) (if_pos hu)
  · rw [if_neg hu]
    exact congrArg (Act.outcome · t) (if_neg hu)

/-- A member that cannot be put at its place: it has no name, or its content fails. -/
inductive Fatal (bs : Octets) (path : Path) (m : Member) (t : FileTree) : Crash → Prop
  | nameless : m.name = "" → Fatal bs path m t .namelessMember
  | content {start : Nat} {decoder : Decoder} {t₁ : FileTree} {c : Crash} : m.name ≠ "" →
      m.isDirectory = false → dataStart bs m = .ok (start, decoder) →
      t.write path.text [] = .ok t₁ → (content bs m start decoder).2 = some (.crash c) →
      Fatal bs path m t c

/-- What a member can crash with: apart from the missing name it is up to the method. -/
theorem Fatal.crash_eq (h : Fatal bs path m t c) :
    m.name = "" ∧ c = .namelessMember ∨ m.name ≠ "" ∧ Fault m.method c := by
  cases h with
  | nameless hn => exact .inl ⟨hn, rfl⟩
  | content hn _ hs _ hc =>
    have hm := (dataStart_calm bs m).of_ok hs
    exact .inr ⟨hn, hm ▸ content_faulty hc c rfl⟩

theorem makeRoom_calm {e : UnpackError} (h : (makeRoom destination m).outcome t = (.error e, t')) :
    Calm e := by
  rw [makeRoom, Act.outcome_bind, Act.outcome_look] at h
  dsimp only at h
  split at h
  · rw [Act.outcome_mapError] at h
    generalize (makeMissing _ _).outcome t = x at h
    rcases x with ⟨e | _, t₁⟩ <;> cases h
    exact calm_io _
  · cases h

theorem placeDirectory_calm {e : UnpackError} (h : (placeDirectory path).outcome t = (.error e, t')) :
    Calm e := by
  rw [placeDirectory, Act.outcome_bind, Act.outcome_look] at h
  dsimp only at h
  split at h
  · rw [Act.outcome_mapError] at h
    generalize (Act.call _ _).outcome t = x at h
    rcases x with ⟨e | _, t₁⟩ <;> cases h
    exact calm_io _
  · cases h

theorem writeMember_of_ok {start : Nat} {decoder : Decoder} {t₁ : FileTree}
    (hs : dataStart bs m = .ok (start, decoder)) (hw : t.write path.text [] = .ok t₁) :
    ((writeMember bs m path.text).outcome t).1 =
      (content bs m start decoder).2.elim (.ok ()) .error := by
  simp only [writeMember, Act.outcome_ofOutcome, hs, hw]

/-- Writing a member crashes only once its file is open, by the data of the member. -/
theorem writeMember_crash (h : ((writeMember bs m path.text).outcome t).1 = .error (.crash c)) :
    ∃ start decoder t₁, dataStart bs m = .ok (start, decoder) ∧ t.write path.text [] = .ok t₁ ∧
      (content bs m start decoder).2 = some (.crash c) := by
  rcases hs : dataStart bs m with e | ⟨start, decoder⟩
  · simp only [writeMember, Act.outcome_ofOutcome, hs] at h
    cases h
    exact absurd rfl ((dataStart_calm bs m).of_error hs c)
  rcases hw : t.write path.text [] with cause | t₁
  · simp only [writeMember, Act.outcome_ofOutcome, hs, hw] at h
    cases h
  rw [writeMember_of_ok hs hw] at h
  rcases hc : (content bs m start decoder).2 with _ | e <;> rw [hc] at h <;> cases h
  exact ⟨start, decoder, t₁, rfl, rfl, hc⟩

/-- Putting a member in its place crashes exactly if the member is fatal. -/
theorem place_crash_iff :
    ((place bs path m).outcome t).1 = .error (.crash c) ↔ Fatal bs path m t c := by
  constructor
  · intro h
    rw [place] at h
    split at h
    · next hn =>
      cases h
      exact .nameless hn
    next hn =>
    split at h
    · exact absurd rfl (placeDirectory_calm (Prod.ext h rfl) c)
    · next hd =>
      obtain ⟨start, decoder, t₁, hs, hw, hc⟩ := writeMember_crash h
      exact .content hn (by simpa using hd) hs hw hc
  · intro h
    cases h with
    | nameless hn => rw [place, if_pos hn, Act.outcome_fail]
    | content hn hd hs hw hc =>
      rw [place, if_neg hn, if_neg (by simp [hd]), writeMember_of_ok hs hw, hc]
      rfl

/-- Making room never crashes, so a member crashes exactly if there is room for it and it is fatal. -/
theorem unpackMember_crash_iff :
    ((unpackMember bs destination m).outcome t).1 = .error (.crash c) ↔
      ∃ t₁, (makeRoom destination m).outcome t = (.ok (), t₁) ∧
        Fatal bs (target destination m) m t₁ c := by
  rw [unpackMember_eq]
  rcases h : (makeRoom destination m).outcome t with ⟨e | _, t₁⟩
  · rw [Act.outcome_bind_of_error h]
    constructor
    · intro he
      cases he
      exact absurd rfl (makeRoom_calm h c)
    · rintro ⟨t₂, ht, -⟩
      cases ht
  · rw [Act.outcome_bind_of_ok h, place_crash_iff]
    constructor
    · exact fun hf => ⟨t₁, rfl, hf⟩
    · rintro ⟨t₂, ht, hf⟩
      cases ht
      exact hf

/-! ## The whole archive -/

/-- Unpacks some of the members of an archive that has the members `all`. -/
def unpackAll (bs : Octets) (destination : Path) (all ms : List Member) : Act UnpackError Unit :=
  ms.forM fun m => unpackMember bs destination (lastNamed all m)

/-- The first member that an archive crashes at: what comes before it is unpacked, and there is room
for it. -/
def Crashes (bs : Octets) (destination : Path) (t : FileTree) (c : Crash) : Prop :=
  ∃ before m after t₁ t₂, members bs = .ok (before ++ m :: after) ∧
    (unpackAll bs destination (before ++ m :: after) before).outcome t = (.ok (), t₁) ∧
    (makeRoom destination (lastNamed (before ++ m :: after) m)).outcome t₁ = (.ok (), t₂) ∧
    Fatal bs (target destination (lastNamed (before ++ m :: after) m))
      (lastNamed (before ++ m :: after) m) t₂ c

/-- Of several members with one name the last is unpacked each time, and it is a member too. -/
theorem lastNamed_mem {ms : List Member} (h : m ∈ ms) : lastNamed ms m ∈ ms := by
  rw [lastNamed]
  rcases hf : ms.reverse.find? fun other => other.name == m.name with _ | m'
  · rwa [hf]
  · rw [hf]
    exact List.mem_reverse.1 (List.mem_of_find?_eq_some hf)

/-- An archive that crashes has a member that is to blame. -/
theorem Crashes.exists_member (h : Crashes bs destination t c) :
    ∃ ms m, members bs = .ok ms ∧ m ∈ ms ∧
      (m.name = "" ∧ c = .namelessMember ∨ m.name ≠ "" ∧ Fault m.method c) := by
  obtain ⟨before, m, after, t₁, t₂, hm, -, -, hf⟩ := h
  exact ⟨_, _, hm, lastNamed_mem (by simp), hf.crash_eq⟩

theorem unpack_of_members {ms : List Member} (h : members bs = .ok ms) :
    unpack bs destination = unpackAll bs destination ms ms := by
  rw [unpack, h]
  rfl

theorem unpack_of_error {e : UnpackError} (h : members bs = .error e) :
    (unpack bs destination).outcome t = (.error e, t) := by
  rw [unpack, h]
  rfl

/-- Unpacking an archive crashes exactly if it comes to a fatal member. What follows that member plays no part. -/
theorem unpack_crash_iff :
    ((unpack bs destination).outcome t).1 = .error (.crash c) ↔ Crashes bs destination t c := by
  constructor
  · intro h
    rcases hm : members bs with e | ms
    · rw [unpack_of_error hm] at h
      cases h
      exact absurd rfl ((members_calm bs).of_error hm c)
    · rw [unpack_of_members hm] at h
      obtain ⟨before, m, after, t₁, rfl, hb, hx⟩ := Act.forM_error_iff.1 (Prod.ext h rfl)
      obtain ⟨t₂, hr, hf⟩ := unpackMember_crash_iff.1 (congrArg Prod.fst hx)
      exact ⟨before, m, after, t₁, t₂, hm, hb, hr, hf⟩
  · rintro ⟨before, m, after, t₁, t₂, hm, hb, hr, hf⟩
    have hx := unpackMember_crash_iff.2 ⟨t₂, hr, hf⟩
    rw [unpack_of_members hm]
    exact congrArg Prod.fst (Act.forM_error_iff.2 ⟨before, m, after, t₁, rfl, hb, Prod.ext hx rfl⟩)

/-! ## Growth -/

/-- By induction on the names: the directories above come first, and an error there may be passed over. -/
theorem growing_makeMissing (anchor : Anchor) :
    ∀ names : List String, (makeMissing anchor names).Growing
  | [] => Act.growing_pure _
  | name :: above => by
    intro t
    have ih := growing_makeMissing anchor above t
    rw [makeMissing, Act.outcome_ofOutcome]
    dsimp only
    generalize hx : (if (above.isEmpty || t.leads _) = true then _ else _) = x
    have hg : FileTree.Grows t x.2 := by
      rw [← hx]
      split
      · exact .refl t
      · split
        · next h =>
          rw [h] at ih
          split <;> exact ih
        · exact ih
    split
    · exact hg
    · split
      · next h => exact hg.trans (FileTree.makeDirectory_grows h)
      · exact hg

theorem growing_makeRoom (destination : Path) (m : Member) : (makeRoom destination m).Growing := by
  refine (Act.growing_look _).bind fun isThere => ?_
  split
  · exact (growing_makeMissing _ _).mapError _
  · exact Act.growing_pure _

theorem growing_writeMember (bs : Octets) (m : Member) (path : String) :
    (writeMember bs m path).Growing := by
  intro t
  rw [writeMember, Act.outcome_ofOutcome]
  split
  · exact .refl t
  · split
    · exact .refl t
    · next t₁ hw =>
      dsimp only
      have h₁ := FileTree.write_grows hw
      rcases hw' : t₁.write path (content bs m _ _).1 with _ | t₂
      · exact h₁
      · exact h₁.trans (FileTree.write_grows hw')

theorem growing_place (bs : Octets) (path : Path) (m : Member) : (place bs path m).Growing := by
  rw [place]
  split
  · exact Act.growing_fail _
  split
  · refine (Act.growing_look _).bind fun isThere => ?_
    split
    · exact (Act.growing_call FileTree.makeDirectory_grows).mapError _
    · exact Act.growing_pure _
  · exact growing_writeMember _ _ _

theorem growing_unpackMember (bs : Octets) (destination : Path) (m : Member) :
    (unpackMember bs destination m).Growing := by
  rw [unpackMember_eq]
  exact (growing_makeRoom _ _).bind fun _ => growing_place _ _ _

theorem growing_unpackAll (bs : Octets) (destination : Path) (all ms : List Member) :
    (unpackAll bs destination all ms).Growing :=
  .forM (fun _ => growing_unpackMember _ _ _) ms

end Zip

end SqlTidy
