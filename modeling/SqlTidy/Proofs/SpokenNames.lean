import SqlTidy.Proofs.Abort
import SqlTidy.Proofs.ReadBack

/-!
# The names that are spoken of

A name is spoken of by a path if a walk along the path may look it up. The text of a path speaks of the
names that its parts speak of (`namesOf_text`), and the place of a member speaks of no more than the
destination and the member do (`Zip.target_avoids`). The name of a temporary file is drawn at random; if it is
one that nothing speaks of, it is fresh (`Downloader.Fresh`).
-/

namespace SqlTidy

/-! ## Slashes -/

theorem splitSlashes_ne_nil : ∀ cs : List Char, splitSlashes cs ≠ []
  | [] => by simp [splitSlashes]
  | c :: cs => by
    by_cases hc : c = '/'
    · simp [splitSlashes, hc]
    · rw [splitSlashes]
      · split <;> simp
      · simpa using hc

theorem splitSlashes_cons_of_ne {c : Char} {cs first : List Char} {more : List (List Char)} (hc : c ≠ '/')
    (h : splitSlashes cs = first :: more) : splitSlashes (c :: cs) = (c :: first) :: more := by
  rw [splitSlashes, h]
  simpa using hc

theorem splitSlashes_append_slash (after : List Char) : ∀ before : List Char,
    splitSlashes (before ++ '/' :: after) = splitSlashes before ++ splitSlashes after
  | [] => by simp [splitSlashes]
  | c :: before => by
    have ih := splitSlashes_append_slash after before
    by_cases hc : c = '/'
    · subst hc
      simp [splitSlashes, ih]
    · obtain ⟨first, more, hb⟩ := List.exists_cons_of_ne_nil (splitSlashes_ne_nil before)
      rw [hb] at ih
      rw [List.cons_append, splitSlashes_cons_of_ne hc ih, splitSlashes_cons_of_ne hc hb]
      rfl

theorem not_mem_of_mem_splitSlashes {piece : List Char} : ∀ {cs : List Char}, piece ∈ splitSlashes cs →
    '/' ∉ piece
  | [], h => by simp_all [splitSlashes]
  | c :: cs, h => by
    by_cases hc : c = '/'
    · subst hc
      rcases List.mem_cons.1 h with rfl | h
      · exact List.not_mem_nil
      · exact not_mem_of_mem_splitSlashes h
    · obtain ⟨first, more, hb⟩ := List.exists_cons_of_ne_nil (splitSlashes_ne_nil cs)
      rw [splitSlashes_cons_of_ne hc hb] at h
      rcases List.mem_cons.1 h with rfl | h
      · have hfirst : '/' ∉ first := not_mem_of_mem_splitSlashes (hb ▸ List.mem_cons_self)
        simp [Ne.symm hc, hfirst]
      · exact not_mem_of_mem_splitSlashes (hb ▸ List.mem_cons_of_mem _ h)

theorem splitSlashes_of_not_mem : ∀ {cs : List Char}, '/' ∉ cs → splitSlashes cs = [cs]
  | [], _ => rfl
  | c :: cs, h => by
    simp only [List.mem_cons, not_or] at h
    exact splitSlashes_cons_of_ne (Ne.symm h.1) (splitSlashes_of_not_mem h.2)

/-! ## The names of a text -/

variable {name path : String}

theorem mem_namesOf : name ∈ namesOf path ↔ name.toList ∈ splitSlashes path.toList ∧ name ≠ "" := by
  simp only [namesOf, List.mem_filter, List.mem_map, decide_eq_true_eq]
  refine and_congr_left fun _ => ⟨?_, fun h => ⟨_, h, String.ofList_toList⟩⟩
  rintro ⟨piece, h, rfl⟩
  rwa [String.toList_ofList]

theorem namesOf_append_slash (before after : List Char) : namesOf (String.ofList (before ++ '/' :: after)) =
    namesOf (String.ofList before) ++ namesOf (String.ofList after) := by
  simp [namesOf, splitSlashes_append_slash]

/-- A name speaks of itself. -/
theorem namesOf_of_not_mem (hs : '/' ∉ name.toList) (hn : name ≠ "") : namesOf name = [name] := by
  simp [namesOf, splitSlashes_of_not_mem hs, hn]

theorem namesOf_of_mem (h : name ∈ namesOf path) : namesOf name = [name] :=
  namesOf_of_not_mem (not_mem_of_mem_splitSlashes (mem_namesOf.1 h).1) (mem_namesOf.1 h).2

theorem namesOf_intercalate : ∀ parts : List String,
    namesOf (String.ofList (['/'].intercalate (parts.map String.toList))) = parts.flatMap namesOf
  | [] => rfl
  | [part] => by simp
  | part :: part' :: parts => by
    have ih := namesOf_intercalate (part' :: parts)
    rw [List.map_cons, List.map_cons, List.intercalate_cons_cons, List.append_assoc, List.singleton_append,
      namesOf_append_slash, String.ofList_toList]
    exact congrArg (namesOf part ++ ·) ih

theorem namesOf_slash_append (s : String) : namesOf ("/" ++ s) = namesOf s := by
  simp [namesOf, splitSlashes]

/-- The text of a path has the names of its parts; if it has none, it is a dot. -/
theorem namesOf_text (p : Path) : namesOf p.text = p.parts.flatMap namesOf ∨
    p.parts = [] ∧ namesOf p.text = ["."] := by
  have h := namesOf_intercalate p.parts
  have htext : String.intercalate "/" p.parts =
      String.ofList (['/'].intercalate (p.parts.map String.toList)) := by
    rw [← String.toList_inj]
    simp [String.toList_intercalate]
  rw [← htext] at h
  obtain ⟨anchor, parts⟩ := p
  rw [← h]
  rcases anchor with _ | _ | _
  · rcases parts with _ | ⟨part, parts⟩
    · exact .inr ⟨rfl, rfl⟩
    · simp [Path.text, Anchor.text]
  · simp [Path.text, Anchor.text, namesOf_slash_append]
  · have hdouble : "//" = "/" ++ "/" := rfl
    simp only [Path.text, Anchor.text, hdouble, String.append_assoc, namesOf_slash_append, true_or]

/-- A path whose parts do not speak of a name. -/
def Path.Avoids (p : Path) (name : String) : Prop := ∀ part ∈ p.parts, name ∉ namesOf part

theorem Path.Avoids.not_mem_text {p : Path} (h : p.Avoids name) (hd : name ≠ ".") : name ∉ namesOf p.text := by
  rcases namesOf_text p with hp | ⟨-, hp⟩ <;> rw [hp]
  · rw [List.mem_flatMap]
    rintro ⟨part, hpart, hn⟩
    exact h part hpart hn
  · exact fun hn => hd (List.mem_singleton.1 hn)

theorem Path.Avoids.parent {p : Path} (h : p.Avoids name) : p.parent.Avoids name :=
  fun part hp => h part (List.dropLast_subset _ hp)

/-- Slashes at the end of a path say nothing. -/
theorem mem_namesOf_dropSlashes (h : name ∈ namesOf (FileTree.dropSlashes path)) : name ∈ namesOf path := by
  have hsplit : path.toList = (FileTree.dropSlashes path).toList ++
      (path.toList.reverse.takeWhile (· == '/')).reverse := by
    rw [FileTree.dropSlashes, String.toList_ofList, ← List.reverse_append, List.takeWhile_append_dropWhile,
      List.reverse_reverse]
  have hall : ∀ c ∈ (path.toList.reverse.takeWhile (· == '/')).reverse, c = '/' := by
    intro c hc
    simpa using List.all_eq_true.1 List.all_takeWhile c (List.mem_reverse.1 hc)
  rcases hr : (path.toList.reverse.takeWhile (· == '/')).reverse with _ | ⟨c, cs⟩
  · rw [hr, List.append_nil] at hsplit
    rwa [String.toList_inj.1 hsplit]
  · rw [hr] at hsplit hall
    obtain rfl := hall c List.mem_cons_self
    rw [← @String.ofList_toList path, hsplit, namesOf_append_slash, String.ofList_toList]
    exact List.mem_append_left _ h

/-! ## Normal paths and members -/

theorem mem_foldl_normal {p : Path} : ∀ (names above : List String),
    name ∈ names.foldl (Path.normal.step p) above → name ∈ above ∨ name ∈ names
  | [], above, h => .inl h
  | first :: names, above, h => by
    rcases mem_foldl_normal names _ h with hstep | h
    · simp only [Path.normal.step] at hstep
      split at hstep
      · rcases List.mem_cons.1 hstep with rfl | hm
        · exact .inr List.mem_cons_self
        · exact .inl hm
      · next hd =>
        obtain rfl : first = ".." := by simpa using hd
        split at hstep
        · split at hstep
          · cases hstep
          · exact .inr (List.mem_cons.2 (.inl (List.mem_singleton.1 hstep)))
        · split at hstep
          · rcases List.mem_cons.1 hstep with rfl | hm
            · exact .inr List.mem_cons_self
            · exact .inl hm
          · exact .inl (List.mem_cons_of_mem _ hstep)
    · exact .inr (List.mem_cons_of_mem _ h)

theorem mem_parts_normal {p : Path} (h : name ∈ p.normal.parts) : name ∈ p.parts := by
  rw [Path.normal, List.mem_reverse] at h
  exact (mem_foldl_normal _ _ h).resolve_left List.not_mem_nil

namespace Zip

variable {destination : Path} {m : Member}

theorem mem_namesOf_of_memberNames (h : name ∈ memberNames m) : name ∈ namesOf m.name := by
  simp only [memberNames, pathNames, List.mem_filter, decide_eq_true_eq] at h
  rw [namesOf, List.mem_filter]
  exact ⟨h.1.1, by simpa using h.1.2.1⟩

/-- The place of a member speaks of nothing but what its destination and the member speak of. -/
theorem target_avoids (hd : destination.Avoids name) (hm : name ∉ namesOf m.name) :
    (target destination m).Avoids name := by
  intro part hp hn
  rcases List.mem_append.1 (mem_parts_normal hp) with h | h
  · exact hd part h hn
  · have hpart := mem_namesOf_of_memberNames h
    rw [namesOf_of_mem hpart, List.mem_singleton] at hn
    exact hm (hn ▸ hpart)

end Zip

/-- The names that an archive speaks of, if it is one. -/
def Zip.spokenNames (bs : Octets) : List String :=
  match members bs with
  | .ok ms => ms.flatMap fun m => namesOf m.name
  | .error _ => []

/-! ## Names for temporary files -/

theorem mem_drawnAlphabet {c : Char} : ∀ {count n : Nat}, c ∈ drawnChars count n → c ∈ drawnAlphabet
  | count + 1, n, h => by
    rcases List.mem_cons.1 h with rfl | h
    · have hlt : n % drawnAlphabet.length < drawnAlphabet.length := Nat.mod_lt _ (by decide)
      rw [List.getD_eq_getElem?_getD, List.getElem?_eq_getElem hlt]
      exact List.getElem_mem hlt
    · exact mem_drawnAlphabet h

theorem toList_temporaryName (n : Nat) : (temporaryName n).toList =
    't' :: 'm' :: 'p' :: (drawnChars 8 n ++ ".download".toList) := by
  simp [temporaryName]

theorem temporaryName_ne (n : Nat) : temporaryName n ≠ "" ∧ temporaryName n ≠ "." := by
  constructor <;> intro h <;> have hchars := congrArg String.toList h <;>
    simp [toList_temporaryName] at hchars

theorem slash_not_mem_temporaryName (n : Nat) : '/' ∉ (temporaryName n).toList := by
  have hdrawn : '/' ∉ drawnChars 8 n := fun h => absurd (mem_drawnAlphabet h) (by decide)
  simp [toList_temporaryName, hdrawn]

namespace Downloader

variable (d : Downloader) (t : FileTree) (destination : Path)

/-- The name that is drawn for the temporary file. -/
def drawnName : String := temporaryName (d.draw t destination)

/-- The name that is drawn is one that neither the tree nor the destination nor the archive speaks of. It comes at
random from more than three million million, and one that is taken already is drawn anew. -/
structure Fresh (octets : Octets) : Prop where
  tree : d.drawnName t destination ∉ t.spokenNames
  path : destination.Avoids (d.drawnName t destination)
  archive : d.drawnName t destination ∉ Zip.spokenNames octets

theorem drawnName_ne_dot : d.drawnName t destination ≠ "." := (temporaryName_ne _).2

theorem namesOf_drawnName : namesOf (d.drawnName t destination) = [d.drawnName t destination] :=
  namesOf_of_not_mem (slash_not_mem_temporaryName _) (temporaryName_ne _).1

theorem parts_temporary : (d.temporary t destination).parts =
    ((FileTree.pathOf t.here).join destination).normal.parts ++ [d.drawnName t destination] := by
  have hparts : ∀ n, (Path.ofText (temporaryName n)).parts = [temporaryName n] := fun n => by
    simp [Path.ofText, pathNames, splitSlashes_of_not_mem (slash_not_mem_temporaryName n), temporaryName_ne]
  have hanchor : ∀ n, (Path.ofText (temporaryName n)).isAbsolute = false := fun n => by
    simp [Path.ofText, toList_temporaryName, Path.isAbsolute]
  rw [temporary, Path.div_of_relative _ (hanchor _), hparts, drawnName]

theorem getLast?_namesOf_temporary :
    (namesOf (d.temporary t destination).text).getLast? = some (d.drawnName t destination) := by
  rcases namesOf_text (d.temporary t destination) with h | ⟨h, -⟩
  · rw [h, parts_temporary, List.flatMap_append, List.flatMap_singleton, namesOf_drawnName,
      List.getLast?_concat]
  · simp [parts_temporary] at h

variable {d t destination}

/-- The name of a temporary file is on the way to its place. -/
theorem TemporaryAt.mem {p : Position} (h : d.TemporaryAt t destination p) : d.drawnName t destination ∈ p := by
  obtain ⟨-, -, hw⟩ := FileTree.walk_eq_ok_iff.1 h
  obtain ⟨name, hl, hhead, -⟩ := hw.exists_last_of_free rfl
  rw [stepsOf, FileTree.not_endsInSlash_of_free h, if_neg Bool.false_ne_true, List.append_nil,
    getLast?_namesOf_temporary, Option.some.injEq] at hl
  exact hl ▸ List.mem_of_head? hhead

end Downloader

end SqlTidy
