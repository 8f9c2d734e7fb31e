import SqlTidy.Report.Basic

/-!
# Reports that are read back

A finding that was read from a line can be written again, and what is written reads as the same
finding (`Finding.Legible`): its positions are short enough, its message and its code fall apart at the
same place, and no line ends inside them. Findings written one to a line are read back in their order
(`parseReport_written_of_legible`).

Where a message ends is decided by brackets alone (`messageAndCode?_eq_some_iff`): which blank stands
before the code makes no difference.
-/

namespace SqlTidy

/-! ## Positions -/

theorem digitValue?_digitChar {d : Nat} (h : d < 10) : digitValue? d.digitChar = some d := by
  match d with
  | 0 | 1 | 2 | 3 | 4 | 5 | 6 | 7 | 8 | 9 => decide
  | _ + 10 => omega

theorem digitValue?_lt {c : Char} {d : Nat} (h : digitValue? c = some d) : d < 10 := by
  rw [digitValue?] at h
  split at h
  · next hc =>
    cases h
    have h9 : c.toNat ≤ 57 := hc.2
    omega
  split at h
  · cases h
  · obtain ⟨z, hz, rfl⟩ := Option.map_eq_some_iff.1 h
    have := List.find?_some hz
    simp only [Bool.and_eq_true, decide_eq_true_eq] at this
    omega

theorem isDigit_of_ascii {c : Char} (h : c.isDigit = true) : isDigit c = true := by
  have hc : '0' ≤ c ∧ c ≤ '9' := by
    simp only [Char.isDigit, Bool.and_eq_true, decide_eq_true_eq] at h
    exact h
  simp [isDigit, digitValue?, hc]

theorem decimalValue_append_digit (cs : List Char) {d : Nat} (h : d < 10) :
    decimalValue (cs ++ [d.digitChar]) = 10 * decimalValue cs + d := by
  simp [decimalValue, List.foldl_append, digitValue?_digitChar h]

theorem decimalValue_toDigits (n : Nat) : decimalValue (Nat.toDigits 10 n) = n := by
  induction n using Nat.strongRecOn with
  | ind n ih =>
    rw [Nat.toDigits_eq_if (by omega)]
    split
    · next h => simpa [decimalValue] using congrArg (Option.getD · 0) (digitValue?_digitChar h)
    · next h =>
      rw [decimalValue_append_digit _ (Nat.mod_lt _ (by omega)), ih _ (by omega)]
      omega

theorem exists_first_digit {n : Nat} (hn : 0 < n) :
    ∃ c rest, Nat.toDigits 10 n = c :: rest ∧ '1' ≤ c ∧ c ≤ '9' := by
  induction n using Nat.strongRecOn with
  | ind n ih =>
    rw [Nat.toDigits_eq_if (by omega)]
    split
    · next h =>
      refine ⟨n.digitChar, [], rfl, ?_⟩
      match n with
      | 1 | 2 | 3 | 4 | 5 | 6 | 7 | 8 | 9 => decide
      | 0 | _ + 10 => omega
    · next h =>
      obtain ⟨c, rest, hr, hc⟩ := ih (n / 10) (by omega) (by omega)
      exact ⟨c, rest ++ [_], by rw [hr, List.cons_append], hc⟩

/-- A position reads as it was written. -/
theorem position?_toDigits {n : Nat} (hn : 0 < n) (hl : n < 10 ^ digitLimit) (rest : List Char) :
    position? (Nat.toDigits 10 n ++ ':' :: rest) = some (n, rest) := by
  obtain ⟨c, ds, hd, hc⟩ := exists_first_digit hn
  have hds : ∀ x ∈ ds, isDigit x = true := fun x hx =>
    isDigit_of_ascii (Nat.isDigit_of_mem_toDigits (by omega) (Nat.le_refl 10)
      (hd ▸ List.mem_cons_of_mem c hx))
  have hcolon : isDigit ':' = false := by decide
  have htake : (ds ++ ':' :: rest).takeWhile isDigit = ds := by
    rw [List.takeWhile_append_of_pos hds]
    simp [hcolon]
  have hdrop : (ds ++ ':' :: rest).dropWhile isDigit = ':' :: rest := by
    rw [List.dropWhile_append_of_pos hds]
    simp [hcolon]
  have hlen : (c :: ds).length ≤ digitLimit := by
    rw [← hd]
    exact (Nat.length_toDigits_le_iff (by omega) (by decide)).2 hl
  rw [hd, List.cons_append, position?, if_pos hc, htake, hdrop]
  change (if (c :: ds).length ≤ digitLimit then some (decimalValue (c :: ds), rest) else none) = _
  rw [if_pos hlen, ← hd, decimalValue_toDigits]

theorem digitValue?_pos {c : Char} (h : '1' ≤ c ∧ c ≤ '9') : ∃ d, digitValue? c = some d ∧ 0 < d := by
  have h1 : 49 ≤ c.toNat := h.1
  have h9 : c.toNat ≤ 57 := h.2
  have hc : '0' ≤ c ∧ c ≤ '9' := ⟨Nat.le_trans (by decide) h1, h.2⟩
  exact ⟨c.toNat - 48, by rw [digitValue?, if_pos hc], by omega⟩

theorem foldl_digits_lt : ∀ (cs : List Char) (n : Nat),
    cs.foldl (fun n c => 10 * n + (digitValue? c).getD 0) n < (n + 1) * 10 ^ cs.length
  | [], n => by simp
  | c :: cs, n => by
    have hd : (digitValue? c).getD 0 < 10 := by
      rcases h : digitValue? c with _ | d
      · simp
      · exact digitValue?_lt h
    have ih := foldl_digits_lt cs (10 * n + (digitValue? c).getD 0)
    calc _ < (10 * n + (digitValue? c).getD 0 + 1) * 10 ^ cs.length := ih
      _ ≤ ((n + 1) * 10) * 10 ^ cs.length := Nat.mul_le_mul_right _ (by omega)
      _ = (n + 1) * 10 ^ (c :: cs).length := by
        rw [List.length_cons, Nat.pow_succ, Nat.mul_assoc, Nat.mul_comm 10]

theorem le_foldl_digits : ∀ (cs : List Char) (n : Nat),
    n ≤ cs.foldl (fun n c => 10 * n + (digitValue? c).getD 0) n
  | [], n => Nat.le_refl n
  | c :: cs, n => by
    have ih := le_foldl_digits cs (10 * n + (digitValue? c).getD 0)
    rw [List.foldl_cons]
    omega

/-- A position that was read is at least one, and short enough to be written. -/
theorem position?_bounds {cs rest : List Char} {n : Nat} (h : position? cs = some (n, rest)) :
    0 < n ∧ n < 10 ^ digitLimit ∧ rest <:+ cs := by
  rcases cs with _ | ⟨c, cs⟩
  · cases h
  rw [position?] at h
  split at h
  · next hc =>
    dsimp only at h
    split at h
    · next after hafter =>
      split at h
      · next hlen =>
        cases h
        refine ⟨?_, ?_, ?_⟩
        · obtain ⟨d, hd, hpos⟩ := digitValue?_pos hc
          have hle := le_foldl_digits (cs.takeWhile isDigit) (10 * 0 + (digitValue? c).getD 0)
          rw [hd] at hle
          rw [decimalValue, List.foldl_cons, hd]
          exact Nat.lt_of_lt_of_le (by simpa using hpos) hle
        · have hlt := foldl_digits_lt (c :: cs.takeWhile isDigit) 0
          rw [Nat.zero_add, Nat.one_mul] at hlt
          exact Nat.lt_of_lt_of_le hlt (Nat.pow_le_pow_right (by omega) hlen)
        · refine (List.suffix_cons ':' _).trans ?_
          rw [← hafter]
          exact (List.dropWhile_suffix _).trans (List.suffix_cons c cs)
      · cases h
    · cases h
  · cases h

/-! ## Severities and blanks -/

theorem dropText?_suffix {text cs rest : List Char} (h : dropText? text cs = some rest) : rest <:+ cs := by
  rw [dropText?] at h
  split at h
  · cases h
    exact List.drop_suffix _ _
  · cases h

theorem dropBlank?_suffix {cs rest : List Char} (h : dropBlank? cs = some rest) : rest <:+ cs := by
  rcases cs with _ | ⟨c, cs⟩
  · cases h
  rw [dropBlank?] at h
  split at h
  · cases h
    exact List.suffix_cons _ _
  · cases h

theorem severity?_suffix {cs rest : List Char} {s : Severity} (h : severity? cs = some (s, rest)) :
    rest <:+ cs := by
  obtain ⟨s', -, hs⟩ := List.exists_of_findSome?_eq_some h
  obtain ⟨rest', hr, heq⟩ := Option.map_eq_some_iff.1 hs
  cases heq
  exact dropText?_suffix hr

theorem severity?_name (s : Severity) (rest : List Char) :
    severity? (s.name.toList ++ ':' :: rest) = some (s, rest) := by
  cases s <;> simp [severity?, Severity.all, Severity.name, dropText?]

theorem dropBlank?_space (rest : List Char) : dropBlank? (' ' :: rest) = some rest := by
  rw [dropBlank?, if_pos (by decide)]

/-! ## Messages and codes -/

theorem bracketed?_eq_some_iff {cs code : List Char} : bracketed? cs = some code ↔
    cs = '[' :: (code ++ [']']) ∧ code ≠ [] ∧ ']' ∉ code := by
  constructor
  · intro h
    rcases cs with _ | ⟨c, rest⟩
    · cases h
    unfold bracketed? at h
    split at h
    · next rest' heq =>
      cases heq
      split at h
      · next code' hrev =>
        split at h
        · next hc =>
          cases h
          refine ⟨?_, by simpa using hc.1, by simpa using hc.2⟩
          rw [← List.reverse_reverse rest, hrev]
          simp
        · cases h
      · cases h
    · cases h
  · rintro ⟨rfl, hne, hc⟩
    simp [bracketed?, hne, hc]

/-- A message and a code that can be told apart: no bracket opens behind a blank of the message and
stays open to its end. -/
structure Separable (message code : List Char) : Prop where
  message_ne : message ≠ []
  code_ne : code ≠ []
  code_closed : ']' ∉ code
  closes : ∀ before c after, message = before ++ c :: '[' :: after → before ≠ [] → isBlank c = true →
    ']' ∈ after

/-- What `messageAndCode?` yields after the part `read` of the message. -/
structure SplitsAt (read cs message code : List Char) (b : Char) (more : List Char) : Prop where
  blank : isBlank b = true
  text_eq : cs = more ++ b :: '[' :: (code ++ [']'])
  message_eq : message = read ++ more
  message_ne : message ≠ []
  code_ne : code ≠ []
  code_closed : ']' ∉ code
  closes : ∀ before c after, more = before ++ c :: '[' :: after → read ++ before ≠ [] →
    isBlank c = true → ']' ∈ after

variable {read rest message code more : List Char} {x b : Char}

theorem messageAndCode?_of_bracketed (hx : isBlank x = true) (hr : read ≠ [])
    (h : bracketed? rest = some code) : messageAndCode? read (x :: rest) = some (read.reverse, code) := by
  simp [messageAndCode?, hx, hr, h]

theorem messageAndCode?_of_not_bracketed (h : isBlank x = true → read ≠ [] → bracketed? rest = none) :
    messageAndCode? read (x :: rest) = messageAndCode? (x :: read) rest := by
  rw [messageAndCode?]
  by_cases hx : isBlank x = true ∧ read ≠ []
  · simp [hx.1, hx.2, h hx.1 hx.2]
  · have hg : (isBlank x && !read.isEmpty) = false := by
      rw [Bool.and_eq_false_iff]
      by_cases hx' : isBlank x = true
      · right
        simpa using fun hne => hx ⟨hx', hne⟩
      · left
        simpa using hx'
    simp [hg]

/-- The place where a code can start is the first such place. -/
theorem SplitsAt.eq_of_bracketed {code' : List Char} (hx : isBlank x = true) (hr : read ≠ [])
    (h : bracketed? rest = some code') (hs : SplitsAt read (x :: rest) message code b more) :
    message = read ∧ code = code' := by
  obtain ⟨hrest, -, hclosed⟩ := bracketed?_eq_some_iff.1 h
  have htext := hs.text_eq
  rcases more with _ | ⟨y, _ | ⟨z, more⟩⟩
  · obtain ⟨-, hcode⟩ := List.cons.inj htext
    rw [hrest] at hcode
    simp only [List.cons.injEq, true_and, List.append_cancel_right_eq] at hcode
    exact ⟨by simpa using hs.message_eq, hcode.symm⟩
  · rw [hrest] at htext
    simp only [List.cons_append, List.nil_append, List.cons.injEq] at htext
    have hb := hs.blank
    rw [← htext.2.1] at hb
    exact absurd hb (by decide)
  · rw [hrest] at htext
    simp only [List.cons_append, List.cons.injEq] at htext
    obtain ⟨rfl, rfl, hcode⟩ := htext
    have hclose : code' ++ [']'] = (more ++ b :: '[' :: code) ++ [']'] := by simpa using hcode
    have hcode' : code' = more ++ b :: '[' :: code := List.append_cancel_right hclose
    have hmem := hs.closes [] x more rfl (by simpa using hr) hx
    exact absurd (hcode' ▸ List.mem_append_left _ hmem) hclosed

/-- One character further. -/
theorem SplitsAt.cons_iff (h : isBlank x = true → read ≠ [] → bracketed? rest = none) :
    (∃ b more, SplitsAt read (x :: rest) message code b more) ↔
      ∃ b more, SplitsAt (read ++ [x]) rest message code b more := by
  constructor
  · rintro ⟨b, more, hs⟩
    rcases more with _ | ⟨y, more⟩
    · -- A code behind the first character would have been seen.
      obtain ⟨rfl, hrest⟩ := List.cons.inj hs.text_eq
      have hread : read ≠ [] := by
        have := hs.message_ne
        rwa [hs.message_eq, List.append_nil] at this
      rw [bracketed?_eq_some_iff.2 ⟨hrest, hs.code_ne, hs.code_closed⟩] at h
      exact absurd (h hs.blank hread) (by simp)
    · obtain ⟨rfl, hrest⟩ := List.cons.inj hs.text_eq
      refine ⟨b, more, hs.blank, hrest, by simp [hs.message_eq], hs.message_ne, hs.code_ne,
        hs.code_closed, ?_⟩
      intro before c after hmore _ hc
      exact hs.closes (x :: before) c after (by rw [hmore, List.cons_append]) (by simp) hc
  · rintro ⟨b, more, hs⟩
    refine ⟨b, x :: more, hs.blank, by rw [hs.text_eq, List.cons_append], by simp [hs.message_eq],
      hs.message_ne, hs.code_ne, hs.code_closed, ?_⟩
    intro before c after hmore hread hc
    rcases before with _ | ⟨y, before⟩
    · obtain ⟨rfl, rfl⟩ := List.cons.inj hmore
      rw [List.append_nil] at hread
      have hnone := h hc hread
      -- Were the bracket not closed, the rest would be nothing but a code.
      refine Classical.byContradiction fun hopen => ?_
      have hsome : bracketed? rest = some (after ++ b :: '[' :: code) := by
        refine bracketed?_eq_some_iff.2 ⟨by simp [hs.text_eq], by simp, ?_⟩
        have hb : ¬ ']' = b := by
          rintro rfl
          exact absurd hs.blank (by decide)
        simp [hopen, hs.code_closed, hb]
      rw [hnone] at hsome
      cases hsome
    · obtain ⟨rfl, hmore'⟩ := List.cons.inj hmore
      exact hs.closes before c after hmore' (by simp) hc

theorem messageAndCode?_eq_some_iff_splitsAt : ∀ (cs read : List Char),
    messageAndCode? read cs = some (message, code) ↔
      ∃ b more, SplitsAt read.reverse cs message code b more
  | [], read => by
    refine iff_of_false (by simp [messageAndCode?]) ?_
    rintro ⟨b, more, hs⟩
    simpa using hs.text_eq
  | x :: rest, read => by
    rcases hc : bracketed? rest with _ | code'
    · rw [messageAndCode?_of_not_bracketed fun _ _ => hc,
        messageAndCode?_eq_some_iff_splitsAt rest (x :: read), List.reverse_cons,
        SplitsAt.cons_iff fun _ _ => hc]
    by_cases hx : isBlank x = true ∧ read ≠ []
    · rw [messageAndCode?_of_bracketed hx.1 hx.2 hc]
      have hread : read.reverse ≠ [] := by simpa using hx.2
      constructor
      · intro h
        cases h
        obtain ⟨hrest, hne, hclosed⟩ := bracketed?_eq_some_iff.1 hc
        exact ⟨x, [], hx.1, by rw [hrest, List.nil_append], by simp, hread, hne, hclosed, by simp⟩
      · rintro ⟨b, more, hs⟩
        obtain ⟨rfl, rfl⟩ := hs.eq_of_bracketed hx.1 hread hc
        rfl
    · have h : isBlank x = true → read ≠ [] → bracketed? rest = none :=
        fun hb hr => absurd ⟨hb, hr⟩ hx
      have h' : isBlank x = true → read.reverse ≠ [] → bracketed? rest = none :=
        fun hb hr => h hb (by simpa using hr)
      rw [messageAndCode?_of_not_bracketed h, messageAndCode?_eq_some_iff_splitsAt rest (x :: read),
        List.reverse_cons, SplitsAt.cons_iff h']

/-- A text falls into a message and a code if they can be told apart; any blank may stand between
them. -/
theorem messageAndCode?_eq_some_iff {cs : List Char} : messageAndCode? [] cs = some (message, code) ↔
    Separable message code ∧ ∃ b, isBlank b = true ∧ cs = message ++ b :: '[' :: (code ++ [']']) := by
  rw [messageAndCode?_eq_some_iff_splitsAt]
  constructor
  · rintro ⟨b, more, hs⟩
    have hm : message = more := by simpa using hs.message_eq
    subst hm
    exact ⟨⟨hs.message_ne, hs.code_ne, hs.code_closed, fun before c after h hb hc =>
      hs.closes before c after h (by simpa using hb) hc⟩, b, hs.blank, hs.text_eq⟩
  · rintro ⟨hs, b, hb, htext⟩
    exact ⟨b, message, hb, htext, by simp, hs.message_ne, hs.code_ne, hs.code_closed,
      fun before c after h hne hc => hs.closes before c after h (by simpa using hne) hc⟩

/-- Something before a code in brackets is a message, though maybe not the one that was meant. -/
theorem messageAndCode?_isSome {code : List Char} (hne : code ≠ []) (hclosed : ']' ∉ code) :
    ∀ {message read : List Char}, message ≠ [] ∨ read ≠ [] →
      (messageAndCode? read (message ++ ' ' :: '[' :: (code ++ [']']))).isSome = true
  | [], read, h => by
    have hread : read ≠ [] := h.resolve_left (by simp)
    have hcode : bracketed? ('[' :: (code ++ [']'])) = some code :=
      bracketed?_eq_some_iff.2 ⟨rfl, hne, hclosed⟩
    have hblank : (isBlank ' ' && !read.isEmpty) = true := by simpa using ⟨by decide, hread⟩
    simp only [List.nil_append, messageAndCode?, hblank, if_true, hcode, Option.isSome_some]
  | c :: message, read, _ => by
    rw [List.cons_append, messageAndCode?]
    split
    · rfl
    · exact messageAndCode?_isSome hne hclosed (.inr (List.cons_ne_nil c read))

/-! ## Findings -/

/-- Holds for characters that stand inside one line. -/
def Unbroken (cs : List Char) : Prop := ∀ c ∈ cs, isLineBoundary c = false

namespace Finding

/-- A finding whose positions can be written. -/
structure Placed (f : Finding) : Prop where
  line_lt : f.line + 1 < 10 ^ digitLimit
  start_lt : f.start + 1 < 10 ^ digitLimit
  stop_lt : f.stop + 1 < 10 ^ digitLimit

/-- A finding that can be written so that it reads as the same finding. -/
structure Legible (f : Finding) : Prop extends f.Placed where
  separable : Separable f.message.toList f.code.toList
  message_unbroken : Unbroken f.message.toList
  code_unbroken : Unbroken f.code.toList

/-- The characters of a finding's line. -/
def chars (f : Finding) : List Char :=
  Nat.toDigits 10 (f.line + 1) ++ ':' :: (Nat.toDigits 10 (f.start + 1) ++ ':' ::
    (Nat.toDigits 10 (f.stop + 1) ++ ':' :: ' ' :: (f.severity.name.toList ++ ':' :: ' ' ::
      (f.message.toList ++ ' ' :: '[' :: (f.code.toList ++ [']'])))))

/-- The characters before the message. -/
def opening (f : Finding) : List Char :=
  Nat.toDigits 10 (f.line + 1) ++ ':' :: (Nat.toDigits 10 (f.start + 1) ++ ':' ::
    (Nat.toDigits 10 (f.stop + 1) ++ ':' :: ' ' :: (f.severity.name.toList ++ [':', ' '])))

theorem chars_eq (f : Finding) :
    f.chars = f.opening ++ (f.message.toList ++ ' ' :: '[' :: (f.code.toList ++ [']'])) := by
  simp only [chars, opening, List.append_assoc, List.cons_append, List.nil_append]

variable {f : Finding}

/-- A finding's line. -/
def text (f : Finding) : String := String.ofList f.chars

theorem render_eq (h : f.Placed) : f.render = .ok f.text := by
  simp only [render, decimalText, h.line_lt, h.start_lt, h.stop_lt, if_true, bind, Except.bind, pure,
    Except.pure, Except.ok.injEq]
  rw [← String.toList_inj]
  simp [text, chars, Nat.toString_eq_repr]

/-- What is written of a finding reads as a finding at the same place, with the message and the code
that the end of the line falls into. -/
theorem ofLine?_chars_eq_map (h : f.Placed) :
    ofLine? f.chars =
      (messageAndCode? [] (f.message.toList ++ ' ' :: '[' :: (f.code.toList ++ [']']))).map
        fun p => { f with message := String.ofList p.1, code := String.ofList p.2 } := by
  have hle : f.start + 1 - 1 ≤ f.stop + 1 - 1 := by simpa using f.start_le_stop
  simp only [ofLine?, chars, position?_toDigits (Nat.succ_pos _) h.line_lt,
    position?_toDigits (Nat.succ_pos _) h.start_lt, position?_toDigits (Nat.succ_pos _) h.stop_lt,
    dropBlank?_space, severity?_name, bind, Option.bind, dif_pos hle]
  cases messageAndCode? [] (f.message.toList ++ ' ' :: '[' :: (f.code.toList ++ [']'])) <;> rfl

/-- What is written of a legible finding reads as the finding. -/
theorem ofLine?_chars (h : f.Legible) : ofLine? f.chars = some f := by
  have hsplit : messageAndCode? [] (f.message.toList ++ ' ' :: '[' :: (f.code.toList ++ [']'])) =
      some (f.message.toList, f.code.toList) :=
    messageAndCode?_eq_some_iff.2 ⟨h.separable, ' ', by decide, rfl⟩
  rw [ofLine?_chars_eq_map h.toPlaced, hsplit]
  simp

/-- A finding that was read from the inside of a line is legible. -/
theorem legible_of_ofLine? {cs : List Char} (h : ofLine? cs = some f) (hcs : Unbroken cs) :
    f.Legible := by
  simp only [ofLine?, bind, Option.bind_eq_some_iff, Prod.exists] at h
  obtain ⟨line, cs₁, h₁, column, cs₂, h₂, last, cs₃, h₃, cs₄, h₄, severity, cs₅, h₅, cs₆, h₆, message,
    code, h₇, h⟩ := h
  split at h
  · next hle =>
    cases h
    obtain ⟨hl, hl', s₁⟩ := position?_bounds h₁
    obtain ⟨hc, hc', s₂⟩ := position?_bounds h₂
    obtain ⟨hs, hs', s₃⟩ := position?_bounds h₃
    have s₄ := dropBlank?_suffix h₄
    have s₅ := severity?_suffix h₅
    have s₆ := dropBlank?_suffix h₆
    have hsuffix : cs₆ <:+ cs := s₆.trans (s₅.trans (s₄.trans (s₃.trans (s₂.trans s₁))))
    obtain ⟨hsep, b, -, htext⟩ := messageAndCode?_eq_some_iff.1 h₇
    have hunbroken : Unbroken cs₆ := fun c hc => hcs c (hsuffix.mem hc)
    refine ⟨⟨by simp only; omega, by simp only; omega, by simp only; omega⟩, by simpa using hsep, ?_, ?_⟩
    · intro c hc
      exact hunbroken c (by simp_all)
    · intro c hc
      exact hunbroken c (by simp_all)
  · cases h

theorem toNat_of_mem_toDigits {c : Char} {n : Nat} (hc : c ∈ Nat.toDigits 10 n) :
    48 ≤ c.toNat ∧ c.toNat ≤ 57 := by
  have hd : c.isDigit = true := Nat.isDigit_of_mem_toDigits (by omega) (Nat.le_refl 10) hc
  simp only [Char.isDigit, Bool.and_eq_true, decide_eq_true_eq] at hd
  exact hd

theorem isBlank_of_mem_toDigits {c : Char} {n : Nat} (hc : c ∈ Nat.toDigits 10 n) :
    isBlank c = false := by
  have h := toNat_of_mem_toDigits hc
  rw [isBlank, CharSet.contains, Bool.eq_false_iff]
  simp only [blankSet, List.any_cons, List.any_nil, Bool.or_false, ne_eq, Bool.or_eq_true,
    Bool.and_eq_true, decide_eq_true_eq]
  omega

/-- A text whose first and last characters are no blanks has none at its ends. -/
theorem stripChars_eq_self {cs : List Char} {c d : Char} (hc : cs.head? = some c)
    (hd : cs.getLast? = some d) (hcb : isBlank c = false) (hdb : isBlank d = false) :
    stripChars cs = cs := by
  have hfront : cs.dropWhile isBlank = cs := by
    cases cs with
    | nil => rfl
    | cons x xs => simp_all
  have hback : cs.reverse.dropWhile isBlank = cs.reverse := by
    rw [← List.head?_reverse] at hd
    cases hr : cs.reverse with
    | nil => rfl
    | cons x xs => simp_all
  rw [stripChars, hfront, hback, List.reverse_reverse]

theorem toDigits_unbroken (n : Nat) : Unbroken (Nat.toDigits 10 n) := by
  intro c hc
  have h := toNat_of_mem_toDigits hc
  rw [Bool.eq_false_iff]
  intro hb
  simp only [isLineBoundary, Bool.or_eq_true, beq_iff_eq, or_assoc] at hb
  rcases hb with rfl | rfl | rfl | rfl | rfl | rfl | rfl | rfl | rfl | rfl <;> exact absurd h (by decide)

theorem mem_opening {c : Char} (h : c ∈ f.opening) :
    (∃ n, c ∈ Nat.toDigits 10 n) ∨ c ∈ f.severity.name.toList ∨ c ∈ [':', ' '] := by
  simp only [opening, List.mem_append, List.mem_cons, List.not_mem_nil, or_false] at h
  rcases h with h | h | h | h | h | h | h | h | h | h
  · exact .inl ⟨_, h⟩
  · simp [h]
  · exact .inl ⟨_, h⟩
  · simp [h]
  · exact .inl ⟨_, h⟩
  · simp [h]
  · simp [h]
  · exact .inr (.inl h)
  · simp [h]
  · simp [h]

theorem opening_unbroken (f : Finding) : Unbroken f.opening := by
  have hname : ∀ c ∈ f.severity.name.toList, isLineBoundary c = false := by
    cases f.severity <;> simp [Severity.name, isLineBoundary]
  have hmarks : ∀ c ∈ [':', ' '], isLineBoundary c = false := by simp [isLineBoundary]
  intro c hc
  rcases mem_opening hc with ⟨n, hc⟩ | hc | hc
  · exact toDigits_unbroken n c hc
  · exact hname c hc
  · exact hmarks c hc

theorem chars_unbroken (hm : Unbroken f.message.toList) (hc : Unbroken f.code.toList) :
    Unbroken f.chars := by
  have hmarks : ∀ c ∈ [' ', '[', ']'], isLineBoundary c = false := by simp [isLineBoundary]
  intro c h
  simp only [chars_eq, List.mem_append, List.mem_cons, List.not_mem_nil, or_false] at h
  rcases h with h | h | h | h | h | h
  · exact f.opening_unbroken c h
  · exact hm c h
  · exact hmarks c (by simp [h])
  · exact hmarks c (by simp [h])
  · exact hc c h
  · exact hmarks c (by simp [h])

theorem stripChars_chars (f : Finding) : stripChars f.chars = f.chars := by
  obtain ⟨c, cs, hcs⟩ := List.exists_cons_of_ne_nil (Nat.toDigits_ne_nil (b := 10) (n := f.line + 1))
  have hc : c ∈ Nat.toDigits 10 (f.line + 1) := hcs ▸ List.mem_cons_self
  refine stripChars_eq_self (c := c) (d := ']') ?_ ?_ (isBlank_of_mem_toDigits hc) (by decide)
  · simp [chars, hcs]
  · have hlast : f.chars = (f.opening ++ f.message.toList ++ ' ' :: '[' :: f.code.toList) ++ [']'] := by
      simp only [chars_eq, List.append_assoc, List.cons_append]
    rw [hlast, List.getLast?_concat]

end Finding

/-! ## Lines -/

-- By `eq_def`: the equations that Lean derives for the patterns of `linesFrom` take long to make.
theorem linesFrom_cons {c : Char} (hc : c ≠ '\r') (line rest : List Char) :
    linesFrom line (c :: rest) =
      if isLineBoundary c then line.reverse :: linesFrom [] rest else linesFrom (c :: line) rest := by
  rw [linesFrom.eq_def]
  split
  · next h => cases h
  · next h => cases h
  · next h => exact absurd (List.cons.inj h).1 hc
  · next h =>
    cases h
    rfl

theorem linesFrom_append {cs : List Char} (h : Unbroken cs) (line rest : List Char) :
    linesFrom line (cs ++ '\n' :: rest) = (line.reverse ++ cs) :: linesFrom [] rest := by
  induction cs generalizing line with
  | nil =>
    rw [List.nil_append, linesFrom_cons (by decide), List.append_nil]
    rfl
  | cons c cs ih =>
    have hc : isLineBoundary c = false := h c List.mem_cons_self
    have hr : c ≠ '\r' := by
      rintro rfl
      exact absurd hc (by decide)
    rw [List.cons_append, linesFrom_cons hr, hc]
    simp [ih (fun x hx => h x (List.mem_cons_of_mem c hx))]

/-- Texts that are written one to a line are the lines. -/
theorem lines_joined : ∀ {texts : List (List Char)}, (∀ cs ∈ texts, Unbroken cs) →
    lines (texts.flatMap (· ++ ['\n'])) = texts
  | [], _ => rfl
  | cs :: texts, h => by
    have ih := lines_joined fun x hx => h x (List.mem_cons_of_mem cs hx)
    rw [lines] at ih ⊢
    rw [List.flatMap_cons, List.append_assoc, List.singleton_append,
      linesFrom_append (h cs List.mem_cons_self), ih, List.reverse_nil, List.nil_append]

theorem unbroken_of_mem_linesFrom {line cs : List Char} (h : Unbroken line) :
    ∀ l ∈ linesFrom line cs, Unbroken l := by
  fun_induction linesFrom line cs with
  | case1 => simp
  | case2 line => simpa [Unbroken] using h
  | case3 line rest ih =>
    simp only [List.mem_cons, forall_eq_or_imp]
    exact ⟨by simpa [Unbroken] using h, ih (by simp [Unbroken])⟩
  | case4 line c rest _ _ ih =>
    simp only [List.mem_cons, forall_eq_or_imp]
    exact ⟨by simpa [Unbroken] using h, ih (by simp [Unbroken])⟩
  | case5 line c rest _ hc ih =>
    refine ih fun x hx => ?_
    rcases List.mem_cons.1 hx with rfl | hx
    · simpa using hc
    · exact h x hx

theorem mem_of_mem_stripChars {c : Char} {cs : List Char} (h : c ∈ stripChars cs) : c ∈ cs := by
  rw [stripChars, List.mem_reverse] at h
  have h' := (List.dropWhile_suffix isBlank).mem h
  exact (List.dropWhile_suffix isBlank).mem (List.mem_reverse.1 h')

/-! ## Reports -/

/-- Every finding of a report is legible. -/
theorem legible_of_mem_parseReport {text : String} {f : Finding} (h : f ∈ parseReport text) :
    f.Legible := by
  obtain ⟨line, hline, hf⟩ := List.mem_filterMap.1 h
  have hunbroken : Unbroken line := unbroken_of_mem_linesFrom (by simp [Unbroken]) line hline
  exact Finding.legible_of_ofLine? hf fun c hc => hunbroken c (mem_of_mem_stripChars hc)

/-- Texts one to a line. -/
def written (texts : List String) : String := String.join (texts.map (· ++ "\n"))

theorem toList_written (texts : List String) :
    (written texts).toList = (texts.map String.toList).flatMap (· ++ ['\n']) := by
  simp [written, List.flatMap_map]

theorem mapM_render {fs : List Finding} (h : ∀ f ∈ fs, f.Placed) :
    fs.mapM Finding.render = .ok (fs.map Finding.text) := by
  induction fs with
  | nil => rfl
  | cons f fs ih =>
    rw [List.mapM_cons, f.render_eq (h f List.mem_cons_self),
      ih fun g hg => h g (List.mem_cons_of_mem f hg)]
    rfl

/-- Findings that are written one to a line are read one by one. -/
theorem parseReport_written {fs : List Finding}
    (h : ∀ f ∈ fs, Unbroken f.message.toList ∧ Unbroken f.code.toList) :
    parseReport (written (fs.map Finding.text)) = fs.filterMap fun f => Finding.ofLine? f.chars := by
  have htexts : (fs.map Finding.text).map String.toList = fs.map Finding.chars := by
    simp [Finding.text]
  have hlines : ∀ cs ∈ fs.map Finding.chars, Unbroken cs := by
    intro cs hcs
    obtain ⟨f, hf, rfl⟩ := List.mem_map.1 hcs
    exact f.chars_unbroken (h f hf).1 (h f hf).2
  rw [parseReport, toList_written, htexts, lines_joined hlines, List.filterMap_map]
  simp only [Function.comp_def, Finding.stripChars_chars]

/-- Legible findings that are written one to a line are read back. -/
theorem parseReport_written_of_legible {fs : List Finding} (h : ∀ f ∈ fs, f.Legible) :
    parseReport (written (fs.map Finding.text)) = fs := by
  rw [parseReport_written fun f hf => ⟨(h f hf).message_unbroken, (h f hf).code_unbroken⟩]
  induction fs with
  | nil => rfl
  | cons f fs ih =>
    rw [List.filterMap_cons, f.ofLine?_chars (h f List.mem_cons_self)]
    simp only [ih fun g hg => h g (List.mem_cons_of_mem f hg)]

theorem FilterPolicy.legible_of_mem_apply {p : FilterPolicy} {report : String} {f : Finding}
    (h : f ∈ p.apply (parseReport report)) : f.Legible :=
  legible_of_mem_parseReport (List.mem_filter.1 h).1

end SqlTidy
