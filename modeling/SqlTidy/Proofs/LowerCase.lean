import SqlTidy.Settings.Keys

/-!
# Lower case, once and for all

No small letter is a capital of another one: the small letters of each run of capitals keep clear of all
runs (`CaseRun.clear_caseRuns`). So a text in lower case consists of small characters
(`isSmall_of_mem_lowerCharsAfter`) and stays as it is (`lowerCharsAfter_of_isSmall`). A key in the one spelling
has neither capitals nor hyphens and is spelled in the same way again (`snakeCase_snakeCase`).
-/

namespace SqlTidy

/-! ## Runs of capitals -/

namespace CaseRun

variable {r s : CaseRun} {n : Nat}

/-- The capitals of a run. -/
def Holds (r : CaseRun) (n : Nat) : Prop := r.first ≤ n ∧ n ≤ r.last ∧ (n - r.first) % r.step = 0

instance (r : CaseRun) (n : Nat) : Decidable (r.Holds n) := inferInstanceAs (Decidable (_ ∧ _ ∧ _))

/-- The small letter of a capital of a run. -/
def small (r : CaseRun) (n : Nat) : Nat := Int.toNat (n + r.shift)

/-- The small letters of a run lie before or behind another run, or between its capitals. -/
def clear (r s : CaseRun) : Bool :=
  Nat.blt (r.small r.last) s.first || Nat.blt s.last (r.small r.first) ||
    (Nat.blt 0 (r.small r.first) && (r.step == 2 || r.first == r.last) && s.step == 2 &&
      (r.small r.first + s.first) % 2 == 1)

/-- One character as a run of its own. -/
def single (n : Nat) : CaseRun := ⟨n, n, 1, 0⟩

theorem not_holds_of_clear (h : r.clear s = true) (hn : r.Holds n) : ¬s.Holds (r.small n) := by
  obtain ⟨hfirst, hlast, hstep⟩ := hn
  rintro ⟨hfirst', hlast', hstep'⟩
  simp only [clear, small, Bool.or_eq_true, Bool.and_eq_true, beq_iff_eq, Nat.blt_eq] at *
  rcases h with (h | h) | ⟨⟨⟨hpos, hr⟩, hs⟩, hodd⟩
  · omega
  · omega
  -- Both runs go in steps of two from first characters of different parity.
  rw [hs] at hstep'
  rcases hr with hr | hr
  · rw [hr] at hstep
    omega
  · omega

theorem holds_single_iff {m : Nat} : (single m).Holds n ↔ n = m := by
  simp only [Holds, single, Nat.mod_one, and_true]
  omega

/-- No small letter is a capital, and none is the dotted capital or a hyphen. -/
theorem clear_caseRuns :
    (caseRuns.all fun r => (single 0x130 :: single 0x2D :: caseRuns).all r.clear) = true := by
  decide +kernel

theorem not_holds_small (hr : r ∈ caseRuns) (hs : s ∈ single 0x130 :: single 0x2D :: caseRuns)
    (hn : r.Holds n) : ¬s.Holds (r.small n) :=
  not_holds_of_clear (List.all_eq_true.1 (List.all_eq_true.1 clear_caseRuns r hr) s hs) hn

theorem exists_holds_sigma : ∃ r ∈ caseRuns, r.Holds 0x3A3 := by decide +kernel

theorem exists_holds_ascii : ∀ n < 0x5B, 0x41 ≤ n → ∃ r ∈ caseRuns, r.Holds n := by decide +kernel

end CaseRun

/-! ## Characters -/

theorem lowerChar_of_ascii {c : Char} (h : c.toNat < 128) : lowerChar c = c.toLower := if_pos h

/-- Beyond the first characters a letter is in a run of capitals or its own small letter. -/
theorem lowerChar_cases {c : Char} (h : ¬c.toNat < 128) :
    (∃ r ∈ caseRuns, r.Holds c.toNat ∧ lowerChar c = Char.ofNat (r.small c.toNat)) ∨
      lowerChar c = c ∧ ∀ r ∈ caseRuns, ¬r.Holds c.toNat := by
  have hlower : lowerChar c = _ := if_neg h
  rw [hlower]
  split
  · next r hr =>
    refine .inl ⟨r, List.mem_of_find?_eq_some hr, ?_, rfl⟩
    simpa [CaseRun.Holds, and_assoc] using List.find?_some hr
  · next hnone =>
    refine .inr ⟨rfl, fun r hr hholds => ?_⟩
    have := List.find?_eq_none.1 hnone r hr
    simp [hholds.1, hholds.2.1, hholds.2.2] at this

/-- A character that lower case leaves alone, wherever it stands. -/
structure IsSmall (c : Char) : Prop where
  fixed : lowerChar c = c
  ne_sigma : c ≠ '\u03A3'
  ne_dotted : c ≠ '\u0130'

theorem toLower_ascii : ∀ n < 128, (Char.ofNat n).toLower.toNat < 128 ∧
    (Char.ofNat n).toLower.toLower = (Char.ofNat n).toLower ∧
    ((Char.ofNat n).toLower = Char.ofNat n ∨ 0x41 ≤ n ∧ n < 0x5B) ∧
    ((Char.ofNat n).toLower = '-' → n = 0x2D) := by
  decide +kernel

theorem isSmall_of_no_run {c : Char} (h : ∀ r ∈ CaseRun.single 0x130 :: caseRuns, ¬r.Holds c.toNat) :
    IsSmall c := by
  have hruns : ∀ r ∈ caseRuns, ¬r.Holds c.toNat := fun r hr => h r (List.mem_cons_of_mem _ hr)
  refine ⟨?_, ?_, ?_⟩
  · by_cases hascii : c.toNat < 128
    · rw [lowerChar_of_ascii hascii]
      have hcases := (toLower_ascii c.toNat hascii).2.2.1
      rw [Char.ofNat_toNat] at hcases
      refine hcases.resolve_right fun hupper => ?_
      obtain ⟨r, hr, hholds⟩ := CaseRun.exists_holds_ascii c.toNat hupper.2 hupper.1
      exact hruns r hr hholds
    · rcases lowerChar_cases hascii with ⟨r, hr, hholds, -⟩ | ⟨hfixed, -⟩
      · exact absurd hholds (hruns r hr)
      · exact hfixed
  · rintro rfl
    obtain ⟨r, hr, hholds⟩ := CaseRun.exists_holds_sigma
    exact hruns r hr hholds
  · rintro rfl
    exact h _ List.mem_cons_self (CaseRun.holds_single_iff.2 rfl)

theorem toNat_ofNat_of_valid {n : Nat} (h : n.isValidChar) : (Char.ofNat n).toNat = n := by
  rw [Char.ofNat, dif_pos h]
  rfl

theorem isSmall_ofNat {n : Nat} (h : ∀ r ∈ CaseRun.single 0x130 :: caseRuns, ¬r.Holds n) :
    IsSmall (Char.ofNat n) := by
  by_cases hvalid : n.isValidChar
  · refine isSmall_of_no_run ?_
    rwa [toNat_ofNat_of_valid hvalid]
  · rw [Char.ofNat, dif_neg hvalid]
    exact ⟨by decide, by decide, by decide⟩

/-- The dotted capital is the one character whose small letter is not a single character. -/
theorem isSmall_lowerChar {c : Char} (hc : c ≠ '\u0130') : IsSmall (lowerChar c) := by
  by_cases hascii : c.toNat < 128
  · have h := toLower_ascii c.toNat hascii
    rw [Char.ofNat_toNat] at h
    rw [lowerChar_of_ascii hascii]
    refine ⟨(lowerChar_of_ascii h.1).trans h.2.1, ?_, ?_⟩ <;>
    · intro heq
      exact absurd (heq ▸ h.1) (by decide)
  rcases lowerChar_cases hascii with ⟨r, hr, hholds, hlower⟩ | ⟨hfixed, hruns⟩
  · rw [hlower]
    refine isSmall_ofNat fun s hs => CaseRun.not_holds_small hr ?_ hholds
    rcases List.mem_cons.1 hs with rfl | hs
    · exact List.mem_cons_self
    · exact List.mem_cons_of_mem _ (List.mem_cons_of_mem _ hs)
  · rw [hfixed]
    refine isSmall_of_no_run (List.forall_mem_cons.2 ⟨fun hdotted => hc ?_, hruns⟩)
    exact Char.toNat_inj.1 (CaseRun.holds_single_iff.1 hdotted)

theorem eq_hyphen_of_lowerChar {c : Char} (h : lowerChar c = '-') : c = '-' := by
  by_cases hascii : c.toNat < 128
  · have hhyphen := (toLower_ascii c.toNat hascii).2.2.2
    rw [Char.ofNat_toNat] at hhyphen
    rw [lowerChar_of_ascii hascii] at h
    exact Char.toNat_inj.1 (hhyphen h)
  rcases lowerChar_cases hascii with ⟨r, hr, hholds, hlower⟩ | ⟨hfixed, -⟩
  · have hnot := CaseRun.not_holds_small hr (List.mem_cons_of_mem _ List.mem_cons_self) hholds
    rw [CaseRun.holds_single_iff] at hnot
    rw [hlower] at h
    by_cases hvalid : (r.small c.toNat).isValidChar
    · exact absurd ((toNat_ofNat_of_valid hvalid).symm.trans (congrArg Char.toNat h)) hnot
    · rw [Char.ofNat, dif_neg hvalid] at h
      exact absurd h (by decide)
  · exact hfixed ▸ h

theorem isAsciiUpper_of_isSmall {c : Char} (h : IsSmall c) : isAsciiUpper c = false := by
  refine Bool.eq_false_iff.2 fun hupper => ?_
  simp only [isAsciiUpper, Bool.and_eq_true, decide_eq_true_eq] at hupper
  have hlow : 0x41 ≤ c.toNat := hupper.1
  have hhigh : c.toNat ≤ 0x5A := hupper.2
  have hfixed := h.fixed
  rw [lowerChar_of_ascii (by omega)] at hfixed
  have hmoved : ∀ n < 0x5B, 0x41 ≤ n → (Char.ofNat n).toLower ≠ Char.ofNat n := by decide +kernel
  have hne := hmoved c.toNat (by omega) hlow
  rw [Char.ofNat_toNat] at hne
  exact hne hfixed

/-! ## Texts -/

theorem isSmall_of_mem_lowerCharsAfter {c : Char} : ∀ {cs before : List Char},
    c ∈ lowerCharsAfter before cs → IsSmall c
  | d :: cs, before, h => by
    rw [lowerCharsAfter] at h
    rcases List.mem_append.1 h with h | h
    · split at h
      · split at h <;> obtain rfl := List.mem_singleton.1 h <;>
          exact ⟨by decide +kernel, by decide, by decide⟩
      split at h
      · rcases List.mem_cons.1 h with rfl | h
        · exact ⟨by decide, by decide, by decide⟩
        · obtain rfl := List.mem_singleton.1 h
          exact ⟨by decide +kernel, by decide, by decide⟩
      · next hd =>
        obtain rfl := List.mem_singleton.1 h
        exact isSmall_lowerChar (by simpa using hd)
    · exact isSmall_of_mem_lowerCharsAfter h

theorem lowerCharsAfter_of_isSmall : ∀ {cs before : List Char}, (∀ c ∈ cs, IsSmall c) →
    lowerCharsAfter before cs = cs
  | [], _, _ => rfl
  | c :: cs, before, h => by
    obtain ⟨hc, hcs⟩ := List.forall_mem_cons.1 h
    rw [lowerCharsAfter, lowerCharsAfter_of_isSmall hcs]
    simp [hc.fixed, hc.ne_sigma, hc.ne_dotted]

theorem hyphen_mem_of_lowerCharsAfter : ∀ {cs before : List Char}, '-' ∈ lowerCharsAfter before cs → '-' ∈ cs
  | c :: cs, before, h => by
    rw [lowerCharsAfter] at h
    rcases List.mem_append.1 h with h | h
    · split at h
      · split at h <;> exact absurd h (by decide)
      split at h
      · exact absurd h (by decide)
      · exact List.mem_cons.2 (.inl (eq_hyphen_of_lowerChar (List.mem_singleton.1 h).symm).symm)
    · exact List.mem_cons_of_mem _ (hyphen_mem_of_lowerCharsAfter h)

/-! ## Keys -/

theorem splitCamel_of_no_upper : ∀ {cs : List Char}, (∀ c ∈ cs, isAsciiUpper c = false) → splitCamel cs = cs
  | [], _ | [_], _ => rfl
  | c :: d :: cs, h => by
    obtain ⟨-, hcs⟩ := List.forall_mem_cons.1 h
    rw [splitCamel, splitCamel_of_no_upper hcs, hcs d List.mem_cons_self]
    simp

/-- A key of small characters without hyphens is in the one spelling. -/
theorem snakeCase_of_isSmall {key : String} (hsmall : ∀ c ∈ key.toList, IsSmall c)
    (hhyphen : '-' ∉ key.toList) : snakeCase key = key := by
  have hmap : key.toList.map (fun c => if c = '-' then '_' else c) = key.toList := by
    refine (List.map_congr_left fun c hc => if_neg ?_).trans (List.map_id _)
    rintro rfl
    exact hhyphen hc
  rw [snakeCase, splitCamel_of_no_upper fun c hc => isAsciiUpper_of_isSmall (hsmall c hc), hmap,
    String.ofList_toList, lower, lowerCharsAfter_of_isSmall hsmall, String.ofList_toList]

theorem snakeCase_snakeCase (key : String) : snakeCase (snakeCase key) = snakeCase key := by
  refine snakeCase_of_isSmall (fun c hc => ?_) fun hhyphen => ?_
  · rw [snakeCase, lower, String.toList_ofList] at hc
    exact isSmall_of_mem_lowerCharsAfter hc
  · rw [snakeCase, lower, String.toList_ofList] at hhyphen
    have h := hyphen_mem_of_lowerCharsAfter hhyphen
    rw [String.toList_ofList, List.mem_map] at h
    obtain ⟨c, -, hc⟩ := h
    split at hc
    · exact absurd hc (by decide)
    · next hne => exact hne hc

end SqlTidy
