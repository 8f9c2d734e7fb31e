import SqlTidy.Proofs.Descent

/-!
# Another name for the temporary file

Two names of one length that a tree does not speak of are as good as each other. A walk that ends with the one
goes as far as the walk that ends with the other, and is refused for the same reason if it is refused
(`Twin.walk`). So where a temporary file can be made under one fresh name it can be made under any other
(`Downloader.Fresh.twin`), and what is unpacked beside it does not depend on the name
(`Downloader.Fresh.interchangeable`).
-/

namespace SqlTidy

/-! ## The text of a path with a name at its end -/

theorem intercalate_concat (sep last : List Char) : ∀ pieces : List (List Char), pieces ≠ [] →
    sep.intercalate (pieces ++ [last]) = sep.intercalate pieces ++ sep ++ last
  | [], h => absurd rfl h
  | [piece], _ => by simp
  | piece :: piece' :: pieces, _ => by
    have ih := intercalate_concat sep last (piece' :: pieces) (List.cons_ne_nil _ _)
    rw [List.cons_append] at ih
    rw [List.cons_append, List.cons_append, List.intercalate_cons_cons, ih, List.intercalate_cons_cons]
    simp

/-- The last name stands at the end of the text, and what is in front of it depends on the path alone. -/
theorem Path.exists_front (p : Path) : ∃ front : String, ∀ {name : String}, IsName name →
    (p / name : Path).text = front ++ name := by
  rcases hparts : p.parts with _ | ⟨part, parts⟩
  · refine ⟨p.anchor.text, fun {name} hname => ?_⟩
    rw [div_of_isName p hname, hparts, ← String.toList_inj, toList_text _ (by simp)]
    simp
  · refine ⟨p.anchor.text ++ String.ofList (['/'].intercalate (p.parts.map String.toList)) ++ "/",
      fun {name} hname => ?_⟩
    rw [div_of_isName p hname, ← String.toList_inj, toList_text _ (by simp), List.map_append,
      List.map_singleton, intercalate_concat _ _ _ (by simp [hparts])]
    simp

theorem namesOf_div (p : Path) {name : String} (hname : IsName name) :
    namesOf (p / name : Path).text = p.parts.flatMap namesOf ++ [name] := by
  rcases namesOf_text (p / name) with h | ⟨h, -⟩
  · rw [h, Path.div_of_isName p hname, List.flatMap_append, List.flatMap_singleton,
      namesOf_of_not_mem hname.noSlash hname.ne_empty]
  · simp [Path.div_of_isName p hname] at h

theorem stepsOf_div (p : Path) {name : String} (hname : IsName name) :
    stepsOf (p / name : Path).text = p.parts.flatMap namesOf ++ [name] := by
  obtain ⟨front, hfront⟩ := p.exists_front
  have hlast : endsInSlash (p / name : Path).text = false := by
    obtain ⟨c, hc⟩ := Option.ne_none_iff_exists'.1 (mt List.getLast?_eq_none_iff.1 (toList_ne_nil hname))
    have hne : c ≠ '/' := by
      rintro rfl
      exact hname.noSlash (List.mem_of_getLast? hc)
    simp [endsInSlash, hfront hname, List.getLast?_append, hc, hne]
  rw [stepsOf, hlast, namesOf_div p hname]
  simp

theorem isRooted_div (p : Path) {name name' : String} (hname : IsName name) (hname' : IsName name') :
    isRooted (p / name : Path).text = isRooted (p / name' : Path).text := by
  obtain ⟨front, hfront⟩ := p.exists_front
  have hhead : ∀ {name}, IsName name → (name.toList.head? == some '/') = false := by
    intro name h
    rw [beq_eq_false_iff_ne]
    exact fun hslash => h.noSlash (List.mem_of_head? hslash)
  rw [hfront hname, hfront hname']
  simp only [isRooted, String.toList_append]
  rcases front.toList with _ | ⟨c, cs⟩
  · rw [List.nil_append, List.nil_append, hhead hname, hhead hname']
  · simp

/-! ## Walks -/

namespace FileTree

variable {t : FileTree} {n n' : String}

/-- How two walks end that differ in their last names: both are refused for the same reason, or both names are
free in one directory. -/
inductive Twin (n n' : String) : Except Cause Spot → Except Cause Spot → Prop
  | free (d : Position) : Twin n n' (.ok (.free (n :: d))) (.ok (.free (n' :: d)))
  | refused (cause : Cause) : Twin n n' (.error cause) (.error cause)

/-- A name of a file that could be anywhere in the tree, and is nowhere. -/
structure Unused (t : FileTree) (n : String) : Prop extends LeadsDown n where
  free : ∀ d, t.at? (n :: d) = none

theorem Unused.walkWith_eq (h : t.Unused n) (onLink : Position → List String → Except Cause Spot) (d : Position) :
    walkWith onLink t false d [n] =
      if nameLimit < n.utf8ByteSize then .error .nameTooLong
      else if t.at? d == some .directory then .ok (.free (n :: d)) else .error .noEntry := by
  rw [walkWith, if_neg h.ne_dot, if_neg h.ne_dots, h.free]
  simp

theorem Twin.walkWith (h : t.Unused n) (h' : t.Unused n') (hsize : n.utf8ByteSize = n'.utf8ByteSize)
    {onLink : Position → List String → Except Cause Spot}
    (hon : ∀ d names, Twin n n' (onLink d (names ++ [n])) (onLink d (names ++ [n']))) :
    ∀ (names : List String) (d : Position),
      Twin n n' (walkWith onLink t false d (names ++ [n])) (walkWith onLink t false d (names ++ [n']))
  | [], d => by
    rw [List.nil_append, List.nil_append, h.walkWith_eq, h'.walkWith_eq, hsize]
    split
    · exact .refused _
    split
    · exact .free d
    · exact .refused _
  | name :: rest, d => by
    have ih := walkWith h h' hsize hon rest
    rw [List.cons_append, List.cons_append, FileTree.walkWith, FileTree.walkWith]
    split
    · exact ih d
    split
    · exact ih d.tail
    split
    · exact .refused _
    -- With the last name still to come, the walk ends only where it is refused.
    have hmore : ∀ m : String, (rest ++ [m]).isEmpty = false := by simp
    simp only [hmore, Bool.false_and, Bool.false_eq_true, if_false]
    split
    · exact .refused _
    · exact ih _
    · exact .refused _
    split
    · exact .refused _
    rw [← List.append_assoc, ← List.append_assoc]
    exact hon _ _

theorem Twin.walkFrom (h : t.Unused n) (h' : t.Unused n') (hsize : n.utf8ByteSize = n'.utf8ByteSize) :
    ∀ (links : Nat) (d : Position) (names : List String),
      Twin n n' (walkFrom t false links d (names ++ [n])) (walkFrom t false links d (names ++ [n']))
  | 0, d, names => walkWith h h' hsize (fun _ _ => .refused _) names d
  | links + 1, d, names => walkWith h h' hsize (walkFrom h h' hsize links) names d

theorem Twin.walk (h : t.Unused n) (h' : t.Unused n') (hsize : n.utf8ByteSize = n'.utf8ByteSize) (p : Path) :
    Twin n n' (t.walk false (p / n : Path).text) (t.walk false (p / n' : Path).text) := by
  obtain ⟨front, hfront⟩ := p.exists_front
  have hne : ∀ {name}, IsName name → (p / name : Path).text ≠ "" := by
    intro name hname hempty
    have hnames := namesOf_div p hname
    rw [hempty] at hnames
    simp [namesOf, splitSlashes] at hnames
  have hbytes : (p / n : Path).text.utf8ByteSize = (p / n' : Path).text.utf8ByteSize := by
    rw [hfront h.toIsName, hfront h'.toIsName, String.utf8ByteSize_append, String.utf8ByteSize_append, hsize]
  rw [FileTree.walk, FileTree.walk, if_neg (hne h.toIsName), if_neg (hne h'.toIsName), hbytes,
    stepsOf_div p h.toIsName, stepsOf_div p h'.toIsName, startOf, startOf,
    isRooted_div p h.toIsName h'.toIsName]
  split
  · exact .refused _
  · exact walkFrom h h' hsize _ _ _

end FileTree

/-! ## Temporary files -/

theorem utf8ByteSize_drawnChars : ∀ count n : Nat, (String.ofList (drawnChars count n)).utf8ByteSize = count
  | 0, _ => rfl
  | count + 1, n => by
    have hall : (drawnAlphabet.all fun c => c.utf8Size == 1) = true := by decide
    have hfirst : (drawnAlphabet.getD (n % drawnAlphabet.length) '_').utf8Size = 1 := by
      have hmem := @mem_drawnAlphabet (drawnAlphabet.getD (n % drawnAlphabet.length) '_') (count + 1) n
        List.mem_cons_self
      simpa using List.all_eq_true.1 hall _ hmem
    rw [drawnChars, String.ofList_cons, String.utf8ByteSize_append, String.utf8ByteSize_singleton, hfirst,
      utf8ByteSize_drawnChars count, Nat.add_comm]

theorem utf8ByteSize_temporaryName (m n : Nat) :
    (temporaryName m).utf8ByteSize = (temporaryName n).utf8ByteSize := by
  simp only [temporaryName, String.utf8ByteSize_append, utf8ByteSize_drawnChars]

theorem leadsDown_temporaryName (n : Nat) : LeadsDown (temporaryName n) := by
  refine ⟨⟨slash_not_mem_temporaryName n, (temporaryName_ne n).1, (temporaryName_ne n).2⟩, fun hdots => ?_⟩
  have hchars := congrArg String.toList hdots
  rw [toList_temporaryName] at hchars
  cases hchars

namespace Downloader

open FileTree

variable {d d' : Downloader} {t : FileTree} {destination : Path} {octets : Octets} {p p' : Position}

theorem Fresh.unused (h : d.Fresh t destination octets) : t.Unused (d.drawnName t destination) where
  toLeadsDown := leadsDown_temporaryName _
  free q := by
    rcases hat : t.at? (d.drawnName t destination :: q) with _ | e
    · rfl
    · have hmem := mem_entries_of_at? (List.cons_ne_nil _ _) hat
      exact absurd (List.mem_append_right _ (List.mem_flatMap.2
        ⟨_, hmem, List.mem_append_left _ List.mem_cons_self⟩)) h.tree

/-- A temporary file can be made under both of two fresh names, or under neither, for one reason. -/
theorem Fresh.twin (h : d.Fresh t destination octets) (h' : d'.Fresh t destination octets) :
    (∃ p p', d.TemporaryAt t destination p ∧ d'.TemporaryAt t destination p') ∨
      ∃ cause, t.create (d.temporary t destination).text temporaryMode = .error cause ∧
        t.create (d'.temporary t destination).text temporaryMode = .error cause := by
  have htwin : Twin (d.drawnName t destination) (d'.drawnName t destination)
      (t.walk false (d.temporary t destination).text) (t.walk false (d'.temporary t destination).text) :=
    Twin.walk h.unused h'.unused (utf8ByteSize_temporaryName _ _) _
  rcases hw : t.walk false (d.temporary t destination).text with cause | s <;>
    rcases hw' : t.walk false (d'.temporary t destination).text with cause' | s' <;> rw [hw, hw'] at htwin
  · cases htwin
    refine .inr ⟨cause, ?_, ?_⟩
    · rw [create, hw]
      rfl
    · rw [create, hw']
      rfl
  · cases htwin
  · cases htwin
  · cases htwin
    exact .inl ⟨_, _, hw, hw'⟩

/-- Two downloaders do the same with their temporary files. Where the one cannot make its own, neither can the
other, and what is unpacked beside the one is unpacked beside the other. -/
structure Interchangeable (d d' : Downloader) (t : FileTree) (destination : Path) (name : String)
    (octets : Octets) : Prop where
  refused : ∀ {cause}, t.create (d.temporary t destination).text temporaryMode = .error cause →
    t.create (d'.temporary t destination).text temporaryMode = .error cause
  unpacked : ∀ {p x t₁}, d.TemporaryAt t destination p →
    (unpackArchive name octets destination).outcome (t.holding p octets) = (x, t₁) →
    ∃ p' t₁', d'.TemporaryAt t destination p' ∧
      (unpackArchive name octets destination).outcome (t.holding p' octets) = (x, t₁') ∧
      t₁'.erase p' = t₁.erase p

theorem temporary_congr (h : d'.draw = d.draw) (t : FileTree) (destination : Path) :
    d'.temporary t destination = d.temporary t destination := by
  rw [temporary, temporary, h]

theorem interchangeable_of_draw (h : d'.draw = d.draw) (t : FileTree) (destination : Path) (name : String)
    (octets : Octets) : d.Interchangeable d' t destination name octets where
  refused hcreate := by rwa [temporary_congr h]
  unpacked {p x t₁} ht hu := by
    rw [TemporaryAt, ← temporary_congr h] at ht
    exact ⟨p, t₁, ht, hu, rfl⟩

theorem Fresh.interchangeable (h : d.Fresh t destination octets) (h' : d'.Fresh t destination octets)
    (name : String) : d.Interchangeable d' t destination name octets where
  refused {cause} hcreate := by
    rcases h.twin h' with ⟨p, -, ht, -⟩ | ⟨cause', hcause, hcause'⟩
    · rw [ht.create_eq] at hcreate
      cases hcreate
    · cases hcreate.symm.trans hcause
      exact hcause'
  unpacked {p x t₁} ht hu := by
    rcases h.twin h' with ⟨-, p', -, ht'⟩ | ⟨cause, hcreate, -⟩
    · -- Beside either file the archive is unpacked as it is beside none.
      have hsame := (h.unpackArchive_eq ht name).trans (h'.unpackArchive_eq ht' name).symm
      rcases hu' : (unpackArchive name octets destination).outcome (t.holding p' octets) with ⟨x', t₁'⟩
      rw [hu, hu', Prod.mk.injEq] at hsame
      obtain ⟨rfl, htree⟩ := hsame
      exact ⟨p', t₁', ht', hu', htree.symm⟩
    · rw [ht.create_eq] at hcreate
      cases hcreate

end Downloader

end SqlTidy
