import SqlTidy.Proofs.LayoutChecks
import SqlTidy.Proofs.Respelling

/-!
# Settings made from their own values

Checking the values that settings store once more changes none of them but the version: numbers stay in
their bounds, switches are switches, and categories that have the default ones in front keep their order
(`Entries.putAll_of_prefix`). A version loses the blanks around it and one v each time it is read. No blank
is ever stored behind a version, but one may be stored in front of it, where a v was taken away, and so may
be another v. So settings are made from their own values just if neither is there (`made_from_own_values_iff`).
-/

namespace SqlTidy

open Entries

/-! ## Categories -/

namespace Entries

variable {α : Type} {es new : Entries α} {e : String × α}

theorem putAll_cons_of_not_mem (h : e.1 ∉ names new) : putAll (e :: es) new = e :: putAll es new := by
  induction new generalizing es with
  | nil => rfl
  | cons e' new ih =>
    obtain ⟨hne, hnot⟩ := not_or.1 fun hmem => h (List.mem_cons.2 hmem)
    have hput : put (e :: es) e'.1 e'.2 = e :: put es e'.1 e'.2 := if_neg hne
    have hstep : putAll (e :: es) (e' :: new) = putAll (put (e :: es) e'.1 e'.2) new := rfl
    rw [hstep, hput, ih hnot]
    rfl

/-- Entries replace all those whose names they start with. -/
theorem putAll_of_prefix (h : names es <+: names new) (hnodup : (names new).Nodup) : putAll es new = new := by
  induction es generalizing new with
  | nil => exact putAll_of_nodup hnodup
  | cons e es ih =>
    cases new with
    | nil => simp at h
    | cons e' new =>
      obtain ⟨heq, hprefix⟩ : e.1 = e'.1 ∧ names es <+: names new := List.cons_prefix_cons.1 h
      obtain ⟨hnot, hrest⟩ : e'.1 ∉ names new ∧ (names new).Nodup := List.nodup_cons.1 hnodup
      have hput : put (e :: es) e'.1 e'.2 = (e.1, e'.2) :: es := if_pos heq
      have hstep : putAll (e :: es) (e' :: new) = putAll (put (e :: es) e'.1 e'.2) new := rfl
      rw [hstep, hput, heq, putAll_cons_of_not_mem hnot, ih hprefix hrest]

end Entries

theorem HasDefaults.readCategories_eq {categories : Entries Bool} (h : HasDefaults categories) :
    readCategories (.table (categories.map fun e => (e.1, .bool e.2))) = .ok categories := by
  have hmerged : putAll defaultCategories categories = categories := putAll_of_prefix h.front h.nodup
  rw [readCategories, Settings.readSwitches_bools, Except.map, hmerged]

/-! ## Versions -/

section Versions

variable {version : String}

theorem length_stripChars_le (cs : List Char) : (stripChars cs).length ≤ cs.length := by
  obtain ⟨before, after, hcs, -, -⟩ := (stripped_stripChars cs).blanks
  have hlength := congrArg List.length hcs
  simp only [List.length_append] at hlength
  omega

theorem bareVersion_cases (version : String) :
    (∃ rest, stripChars version.toList = 'v' :: rest ∧ (bareVersion version).toList = rest) ∨
      (stripChars version.toList).head? ≠ some 'v' ∧
        (bareVersion version).toList = stripChars version.toList := by
  rw [bareVersion, strip, String.toList_ofList]
  split
  · next rest hrest => exact .inl ⟨rest, hrest, String.toList_ofList⟩
  · next hne =>
    refine .inr ⟨fun hhead => ?_, String.toList_ofList⟩
    obtain ⟨rest, hrest⟩ := List.head?_eq_some_iff.1 hhead
    exact hne rest hrest

/-- A version is read as it is if there is nothing in front of it to be taken away. -/
theorem IsVersion.bareVersion_eq_self_iff (h : IsVersion version) : bareVersion version = version ↔
    ∀ c, version.toList.head? = some c → c ≠ 'v' ∧ isBlank c = false := by
  constructor
  · intro heq c hc
    rcases bareVersion_cases version with ⟨rest, hstrip, hbare⟩ | ⟨hhead, hbare⟩
    · -- What is left would be shorter than the version.
      have hle := length_stripChars_le version.toList
      rw [heq] at hbare
      rw [hstrip, ← hbare, List.length_cons] at hle
      omega
    · rw [heq] at hbare
      rw [hbare] at hc
      refine ⟨?_, (stripped_stripChars version.toList).head c hc⟩
      rintro rfl
      exact hhead hc
  · intro hfront
    obtain ⟨c, cs, hcs⟩ := List.exists_cons_of_ne_nil (fun hnil => h.ne_empty (String.toList_eq_nil_iff.1 hnil))
    have hc : version.toList.head? = some c := by rw [hcs, List.head?_cons]
    have hlast : version.toList.getLast? = some (cs.getLast?.getD c) := by rw [hcs, List.getLast?_cons]
    obtain ⟨hv, hblank⟩ := hfront c hc
    have hstrip : stripChars version.toList = version.toList :=
      Finding.stripChars_eq_self hc hlast hblank (h.last _ hlast)
    rw [← String.toList_inj]
    rcases bareVersion_cases version with ⟨rest, hrest, -⟩ | ⟨-, hbare⟩
    · rw [hstrip, hcs] at hrest
      cases hrest
      exact absurd rfl hv
    · rw [hbare, hstrip]

theorem readVersion_text_eq_ok_iff {text : String} :
    readVersion (.text text) = .ok version ↔ bareVersion text ≠ "" ∧ bareVersion text = version := by
  rw [readVersion, bind_eq_ok_iff]
  constructor
  · rintro ⟨text', htext, h⟩
    cases htext
    dsimp only at h
    split at h
    · cases h
    · next hne =>
      cases h
      exact ⟨hne, rfl⟩
  · rintro ⟨hne, rfl⟩
    exact ⟨text, rfl, if_neg hne⟩

end Versions

/-! ## Settings -/

namespace Settings

variable {s s' : Settings}

/-- The values that settings store, by field. -/
def fieldTable (s : Settings) : Table :=
  [("path", .text s.path), ("line_width", .int s.lineWidth), ("indent", .int s.indent),
    ("uppercase_keywords", .bool s.uppercaseKeywords), ("auto_build", .bool s.autoBuild),
    ("auto_download", .bool s.autoDownload), ("version", .text s.version),
    ("diagnostics", .table (s.diagnostics.map fun e => (e.1, .bool e.2)))]

/-- All that sound settings store is taken again as it is, but for the version. -/
theorem Sound.ofTable_fieldTable_iff (hs : s.Sound) : ofTable s.fieldTable = .ok s' ↔
    readVersion (.text s.version) = .ok s'.version ∧ s' = { s with version := s'.version } := by
  have hnames : ∀ name ∈ names s.fieldTable, name ∈ fieldNames := fun _ hname => hname
  have hwidth : readPositive readInt (.int s.lineWidth) = .ok s.lineWidth :=
    readPositive_eq_ok_iff.2 ⟨rfl, hs.lineWidth⟩
  have hindent : readBetween 2 4 readInt (.int s.indent) = .ok s.indent :=
    readBetween_eq_ok_iff.2 ⟨rfl, hs.indent⟩
  have hcategories := hs.diagnostics.readCategories_eq
  simp only [ofTable_eq_ok_iff, scalarFields, List.forall_mem_cons]
  constructor
  · rintro ⟨-, ⟨hpath', hwidth', hindent', hcase', hbuild', hdownload', hversion', -⟩, hcategories'⟩
    refine ⟨hversion', ?_⟩
    obtain ⟨path, width, indent, case, build, download, version, categories⟩ := s'
    cases hpath'
    cases hcase'
    cases hbuild'
    cases hdownload'
    cases hwidth.symm.trans hwidth'
    cases hindent.symm.trans hindent'
    cases hcategories.symm.trans hcategories'
    rfl
  · rintro ⟨hversion, heq⟩
    rw [heq]
    exact ⟨hnames, ⟨rfl, hwidth, hindent, rfl, rfl, rfl, hversion, by simp⟩, hcategories⟩

/-- Settings that were made from a table and then changed are made from their own values just if neither a v nor
a blank stands in front of their version. -/
theorem made_from_own_values_iff {t : Table} {made : Settings} (hmade : ofTable t = .ok made)
    {steps : List (String × Value)} (hs : made.after steps = s) :
    ofTable s.fieldTable = .ok s ↔
      ∀ c, s.version.toList.head? = some c → c ≠ 'v' ∧ isBlank c = false := by
  have hsound : s.Sound := hs ▸ (sound_of_ofTable hmade).after steps
  rw [hsound.ofTable_fieldTable_iff, readVersion_text_eq_ok_iff, ← hsound.version.bareVersion_eq_self_iff]
  constructor
  · exact fun h => h.1.2
  · exact fun h => ⟨⟨h.symm ▸ hsound.version.ne_empty, h⟩, rfl⟩

/-- Settings whose version had two letters in front are not made from their own values. Once they have a bare
version they are, and their categories keep their order. -/
theorem made_from_own_values_iff_twice :
    let lettered : Settings := { default with version := "v2" }
    let bare : Settings :=
      { default with
        version := "2"
        diagnostics := [("unused-variable", true), ("duplicate-variable", false), ("x", false)] }
    ofTable [("version", .text " vv2 ")] = .ok lettered ∧
      lettered.after [("version", .text "v2"),
        ("diagnostics", .table [("x", .text "Off"), ("duplicate-variable", .int 0)])] = bare ∧
      ofTable lettered.fieldTable ≠ .ok lettered ∧ ofTable bare.fieldTable = .ok bare := by
  intro lettered bare
  have hmade : ofTable [("version", .text " vv2 ")] = .ok lettered := by decide +kernel
  have hafter : lettered.after [("version", .text "v2"),
      ("diagnostics", .table [("x", .text "Off"), ("duplicate-variable", .int 0)])] = bare := by decide +kernel
  have hletter : lettered.version.toList.head? = some 'v' := by decide +kernel
  have hdigit : bare.version.toList.head? = some '2' := by decide +kernel
  have hnone : lettered.after [] = lettered := rfl
  refine ⟨hmade, hafter, fun h => ?_, (made_from_own_values_iff hmade hafter).2 fun c hc => ?_⟩
  · exact ((made_from_own_values_iff hmade hnone).1 h 'v' hletter).1 rfl
  · cases hdigit.symm.trans hc
    exact ⟨by decide, by decide +kernel⟩

end Settings

end SqlTidy
