import SqlTidy.Proofs.ReportGrammar

/-!
# Findings and their own lines

A finding is read back from the line that is written of it exactly if its positions are short enough to be
written, its message and its code say something inside one line, no bracket closes in its code, and no code
can be read out of its message (`Finding.render_reads_back_iff`). A code can be read out of a message where
a bracket opens behind a blank and none closes any more (`HoldsCode`): the line then seems to end in a longer
code, and the message seems to end at that blank.
-/

namespace SqlTidy

/-- Somewhere behind its first character a message has a blank and an opening bracket, and no closing bracket
behind them. -/
def HoldsCode (message : List Char) : Prop :=
  ∃ i c, 1 ≤ i ∧ message[i]? = some c ∧ isBlank c = true ∧ message[i + 1]? = some '[' ∧
    ∀ j, i + 1 < j → message[j]? ≠ some ']'

theorem not_holdsCode_iff {message : List Char} : ¬HoldsCode message ↔
    ∀ before c after, message = before ++ c :: '[' :: after → before ≠ [] → isBlank c = true →
      ']' ∈ after := by
  constructor
  · rintro h before c after rfl hbefore hc
    refine Classical.byContradiction fun hopen => h ⟨before.length, c, ?_, by simp, hc, by simp, ?_⟩
    · exact List.length_pos_iff.2 hbefore
    · intro j hj hclose
      rw [List.getElem?_append_right (by omega)] at hclose
      obtain ⟨k, hk⟩ : ∃ k, j - before.length = k + 2 := ⟨j - before.length - 2, by omega⟩
      rw [hk, List.getElem?_cons_succ, List.getElem?_cons_succ] at hclose
      exact hopen (List.mem_of_getElem? hclose)
  · rintro h ⟨i, c, hi, hblank, hc, hopen, hnone⟩
    have hlt : i < message.length := (List.getElem?_eq_some_iff.1 hblank).1
    have hdrop : message.drop i = c :: '[' :: message.drop (i + 2) := by
      rw [List.drop_eq_getElem?_toList_append, hblank, List.drop_eq_getElem?_toList_append, hopen]
      rfl
    have hsplit : message = message.take i ++ c :: '[' :: message.drop (i + 2) := by
      rw [← hdrop, List.take_append_drop]
    have hbefore : message.take i ≠ [] := by
      rw [← List.length_pos_iff, List.length_take]
      omega
    obtain ⟨k, hk⟩ := List.getElem?_of_mem (h _ c _ hsplit hbefore hc)
    rw [List.getElem?_drop] at hk
    exact hnone (i + 2 + k) (by omega) hk

theorem separable_iff {message code : List Char} : Separable message code ↔
    message ≠ [] ∧ code ≠ [] ∧ ']' ∉ code ∧ ¬HoldsCode message := by
  rw [not_holdsCode_iff]
  exact ⟨fun h => ⟨h.message_ne, h.code_ne, h.code_closed, h.closes⟩,
    fun ⟨hm, hc, hclosed, hcloses⟩ => ⟨hm, hc, hclosed, hcloses⟩⟩

namespace Finding

variable {f : Finding}

theorem length_toDigits_le_iff {n : Nat} : (Nat.toDigits 10 n).length ≤ 4300 ↔ n < 10 ^ digitLimit := by
  change (Nat.toDigits 10 n).length ≤ digitLimit ↔ n < 10 ^ digitLimit
  exact Nat.length_toDigits_le_iff (by omega) (by decide)

theorem placed_iff : f.Placed ↔ (Nat.toDigits 10 (f.line + 1)).length ≤ 4300 ∧
    (Nat.toDigits 10 (f.start + 1)).length ≤ 4300 ∧ (Nat.toDigits 10 (f.stop + 1)).length ≤ 4300 := by
  rw [length_toDigits_le_iff, length_toDigits_le_iff, length_toDigits_le_iff]
  exact ⟨fun h => ⟨h.line_lt, h.start_lt, h.stop_lt⟩, fun ⟨hl, hs, he⟩ => ⟨hl, hs, he⟩⟩

/-- What is written of a finding that stands in one line is one line. -/
theorem lines_chars (hm : Unbroken f.message.toList) (hc : Unbroken f.code.toList) :
    lines f.chars = [f.chars] := by
  refine (Cut.last (chars_unbroken hm hc) ?_).lines_eq
  simp [chars]

theorem parseReport_text (h : f.Legible) : parseReport f.text = [f] := by
  rw [parseReport, text, String.toList_ofList, lines_chars h.message_unbroken h.code_unbroken]
  simp [stripChars_chars, ofLine?_chars h]

theorem legible_iff : f.Legible ↔ ∃ text, f.render = .ok text ∧ parseReport text = [f] := by
  constructor
  · exact fun h => ⟨f.text, render_eq h.toPlaced, parseReport_text h⟩
  · rintro ⟨text, -, hread⟩
    exact legible_of_mem_parseReport (hread ▸ List.mem_singleton_self f)

/-- Which findings are read back from their own lines. -/
theorem render_reads_back_iff (f : Finding) : (∃ text, f.render = .ok text ∧ parseReport text = [f]) ↔
    ((Nat.toDigits 10 (f.line + 1)).length ≤ 4300 ∧ (Nat.toDigits 10 (f.start + 1)).length ≤ 4300 ∧
      (Nat.toDigits 10 (f.stop + 1)).length ≤ 4300) ∧
    (f.message ≠ "" ∧ ∀ c ∈ f.message.toList, isLineBoundary c = false) ∧
    (f.code ≠ "" ∧ (∀ c ∈ f.code.toList, isLineBoundary c = false) ∧ ']' ∉ f.code.toList) ∧
    ¬HoldsCode f.message.toList := by
  have hmessage : f.message.toList ≠ [] ↔ f.message ≠ "" := by simp
  have hcode : f.code.toList ≠ [] ↔ f.code ≠ "" := by simp
  rw [← legible_iff, ← placed_iff, ← hmessage, ← hcode]
  constructor
  · intro h
    obtain ⟨hm, hc, hclosed, hholds⟩ := separable_iff.1 h.separable
    exact ⟨h.toPlaced, ⟨hm, h.message_unbroken⟩, ⟨hc, h.code_unbroken, hclosed⟩, hholds⟩
  · rintro ⟨hplaced, ⟨hm, hmline⟩, ⟨hc, hcline, hclosed⟩, hholds⟩
    exact ⟨hplaced, separable_iff.2 ⟨hm, hc, hclosed, hholds⟩, hmline, hcline⟩

end Finding

end SqlTidy
