import SqlTidy.Proofs.ReadBack

/-!
# The grammar of reports

A report falls into lines (`Cut`), and the blanks around a line do not count (`Stripped`). A line speaks
of a finding if it can be spelled from parts that the grammar allows (`LineParts.Spells`). A line with
brackets in its message can be spelled in several ways; the finding has the shortest message of all
(`Finding.ReadFrom`). What is read from a report is what the grammar says of its lines, one by one
(`parseReport_eq_iff`).

The scanner finds the shortest message because it takes the first blank that a code can follow: a
spelling has the shortest message if and only if its message and code can be told apart
(`LineParts.Spells.separable_iff`).
-/

namespace SqlTidy

/-! ## Lines -/

/-- How a text falls into lines. A carriage return and a line feed behind it are one boundary. -/
inductive Cut : List Char → List (List Char) → Prop
  | nil : Cut [] []
  | last {line : List Char} : Unbroken line → line ≠ [] → Cut line [line]
  | pair {line rest : List Char} {ls : List (List Char)} : Unbroken line → Cut rest ls →
      Cut (line ++ '\r' :: '\n' :: rest) (line :: ls)
  | single {line rest : List Char} {b : Char} {ls : List (List Char)} : Unbroken line →
      isLineBoundary b = true → ¬(b = '\r' ∧ rest.head? = some '\n') → Cut rest ls →
      Cut (line ++ b :: rest) (line :: ls)

theorem linesFrom_pair (line rest : List Char) :
    linesFrom line ('\r' :: '\n' :: rest) = line.reverse :: linesFrom [] rest := by
  rw [linesFrom.eq_def]
  split
  · next h => cases h
  · next h => cases h
  · next h =>
    cases h
    rfl
  · next hne h =>
    cases h
    exact absurd rfl (hne _ rfl)

theorem linesFrom_single {b : Char} {rest : List Char} (hb : isLineBoundary b = true)
    (hpair : ¬(b = '\r' ∧ rest.head? = some '\n')) (line : List Char) :
    linesFrom line (b :: rest) = line.reverse :: linesFrom [] rest := by
  rw [linesFrom.eq_def]
  split
  · next h => cases h
  · next h => cases h
  · next h =>
    cases h
    exact absurd ⟨rfl, rfl⟩ hpair
  · next h =>
    cases h
    rw [if_pos hb]

theorem linesFrom_unbroken {cs : List Char} (h : Unbroken cs) (line rest : List Char) :
    linesFrom line (cs ++ rest) = linesFrom (cs.reverse ++ line) rest := by
  induction cs generalizing line with
  | nil => rfl
  | cons c cs ih =>
    have hc : isLineBoundary c = false := h c List.mem_cons_self
    have hr : c ≠ '\r' := by
      rintro rfl
      exact absurd hc (by decide)
    rw [List.cons_append, linesFrom_cons hr, hc]
    simp [ih fun x hx => h x (List.mem_cons_of_mem c hx)]

theorem lines_unbroken_append {line : List Char} (h : Unbroken line) (rest : List Char) :
    lines (line ++ rest) = linesFrom line.reverse rest := by
  rw [lines, linesFrom_unbroken h, List.append_nil]

theorem Cut.lines_eq {cs : List Char} {ls : List (List Char)} (h : Cut cs ls) : lines cs = ls := by
  induction h with
  | nil => rfl
  | @last line hline hne =>
    rw [← List.append_nil line, lines_unbroken_append hline, List.append_nil, linesFrom.eq_def]
    split
    · next h => simp_all
    · next h => simp
    · next h => cases h
    · next h => cases h
  | pair hline _ ih =>
    rw [lines_unbroken_append hline, linesFrom_pair, List.reverse_reverse, ← lines, ih]
  | single hline hb hpair _ ih =>
    rw [lines_unbroken_append hline, linesFrom_single hb hpair, List.reverse_reverse, ← lines, ih]

theorem cut_linesFrom {line cs : List Char} (h : Unbroken line) :
    Cut (line.reverse ++ cs) (linesFrom line cs) := by
  have hreverse : Unbroken line.reverse := fun c hc => h c (List.mem_reverse.1 hc)
  have hnil : Unbroken [] := by simp [Unbroken]
  fun_induction linesFrom line cs with
  | case1 => exact .nil
  | case2 line hne =>
    rw [List.append_nil]
    exact .last hreverse (by simpa using hne)
  | case3 line rest ih => exact .pair hreverse (ih hnil hnil)
  | case4 line c rest hpair hc ih =>
    refine .single hreverse hc ?_ (ih hnil hnil)
    rintro ⟨rfl, hr⟩
    obtain ⟨more, rfl⟩ := List.head?_eq_some_iff.1 hr
    exact hpair _ rfl rfl
  | case5 line c rest _ hc ih =>
    have hcons : Unbroken (c :: line) := by
      intro x hx
      rcases List.mem_cons.1 hx with rfl | hx
      · simpa using hc
      · exact h x hx
    have := ih hcons fun x hx => hcons x (List.mem_reverse.1 hx)
    simpa using this

theorem lines_eq_iff {cs : List Char} {ls : List (List Char)} : lines cs = ls ↔ Cut cs ls := by
  refine ⟨?_, Cut.lines_eq⟩
  rintro rfl
  exact cut_linesFrom fun c hc => absurd hc List.not_mem_nil

theorem dropWhile_append_eq {p : Char → Bool} {before rest : List Char}
    (hbefore : ∀ c ∈ before, p c = true) (hrest : ∀ c, rest.head? = some c → p c = false) :
    (before ++ rest).dropWhile p = rest := by
  rw [List.dropWhile_append_of_pos hbefore]
  cases rest with
  | nil => rfl
  | cons c rest => rw [List.dropWhile_cons_of_neg (by simp [hrest c rfl])]

theorem head?_dropWhile_eq_some {p : Char → Bool} {cs : List Char} {c : Char}
    (h : (cs.dropWhile p).head? = some c) : p c = false := by
  have := List.head?_dropWhile_not p cs
  rwa [h] at this

/-- The inside of a text, without the blanks at its two ends. -/
structure Stripped (cs inner : List Char) : Prop where
  blanks : ∃ before after, cs = before ++ (inner ++ after) ∧ (∀ c ∈ before, isBlank c = true) ∧
    ∀ c ∈ after, isBlank c = true
  head : ∀ c, inner.head? = some c → isBlank c = false
  last : ∀ c, inner.getLast? = some c → isBlank c = false

theorem Stripped.stripChars_eq {cs inner : List Char} (h : Stripped cs inner) : stripChars cs = inner := by
  obtain ⟨before, after, rfl, hbefore, hafter⟩ := h.blanks
  have hafter' : ∀ c ∈ after.reverse, isBlank c = true := fun c hc => hafter c (List.mem_reverse.1 hc)
  rw [stripChars]
  rcases inner with _ | ⟨c, inner⟩
  · have hall : ∀ c ∈ before ++ after, isBlank c = true := by
      intro c hc
      exact (List.mem_append.1 hc).elim (hbefore c) (hafter c)
    rw [List.nil_append, ← List.append_nil (before ++ after), dropWhile_append_eq hall (by simp)]
    rfl
  · have hfront : ∀ d, (c :: inner ++ after).head? = some d → isBlank d = false :=
      fun d hd => h.head d hd
    rw [dropWhile_append_eq hbefore hfront, List.reverse_append,
      dropWhile_append_eq hafter' fun d hd => h.last d (by rwa [← List.head?_reverse]),
      List.reverse_reverse]

theorem stripped_stripChars (cs : List Char) : Stripped cs (stripChars cs) := by
  have hinner : stripChars cs ++ ((cs.dropWhile isBlank).reverse.takeWhile isBlank).reverse =
      cs.dropWhile isBlank := by
    rw [stripChars, ← List.reverse_append, List.takeWhile_append_dropWhile, List.reverse_reverse]
  have hall : ∀ {cs : List Char}, ∀ c ∈ cs.takeWhile isBlank, isBlank c = true :=
    fun c hc => List.all_eq_true.1 List.all_takeWhile c hc
  refine ⟨⟨_, _, by rw [hinner, List.takeWhile_append_dropWhile], hall,
    fun c hc => hall c (List.mem_reverse.1 hc)⟩, ?_, ?_⟩
  · intro c hc
    have hc' : (cs.dropWhile isBlank).head? = some c := by
      rw [← hinner, List.head?_append, hc]
      rfl
    exact head?_dropWhile_eq_some hc'
  · intro c hc
    rw [stripChars, List.getLast?_reverse] at hc
    exact head?_dropWhile_eq_some hc

/-! ## Scanners -/

/-- A number from one that is not too long. The first digit is one of 1 to 9, the others may be of any
script. -/
structure Numeral (cs : List Char) : Prop where
  digits : ∃ c rest, cs = c :: rest ∧ ('1' ≤ c ∧ c ≤ '9') ∧ ∀ d ∈ rest, isDigit d = true
  short : cs.length ≤ digitLimit

theorem position?_of_numeral {ds : List Char} (h : Numeral ds) (rest : List Char) :
    position? (ds ++ ':' :: rest) = some (decimalValue ds, rest) := by
  obtain ⟨c, more, rfl, hc, hmore⟩ := h.digits
  have hcolon : isDigit ':' = false := by decide
  have htake : (more ++ ':' :: rest).takeWhile isDigit = more := by
    rw [List.takeWhile_append_of_pos hmore]
    simp [hcolon]
  have hdrop : (more ++ ':' :: rest).dropWhile isDigit = ':' :: rest :=
    dropWhile_append_eq hmore fun d hd => by
      cases hd
      exact hcolon
  rw [List.cons_append, position?, if_pos hc, htake, hdrop]
  exact if_pos h.short

theorem position?_eq_some_iff {cs rest : List Char} {n : Nat} : position? cs = some (n, rest) ↔
    ∃ ds, Numeral ds ∧ cs = ds ++ ':' :: rest ∧ n = decimalValue ds := by
  constructor
  · intro h
    rcases cs with _ | ⟨c, cs⟩
    · cases h
    rw [position?] at h
    split at h
    · next hc =>
      dsimp only at h
      split at h
      · next after hafter =>
        split at h
        · next hlen =>
          cases h
          refine ⟨c :: cs.takeWhile isDigit, ⟨⟨c, _, rfl, hc, ?_⟩, hlen⟩, ?_, rfl⟩
          · exact fun d hd => List.all_eq_true.1 List.all_takeWhile d hd
          · rw [List.cons_append, ← hafter, List.takeWhile_append_dropWhile]
        · cases h
      · cases h
    · cases h
  · rintro ⟨ds, hds, rfl, rfl⟩
    exact position?_of_numeral hds rest

theorem dropBlank?_eq_some_iff {cs rest : List Char} : dropBlank? cs = some rest ↔
    ∃ b, isBlank b = true ∧ cs = b :: rest := by
  rcases cs with _ | ⟨c, cs⟩
  · simp [dropBlank?]
  · rw [dropBlank?]
    constructor
    · intro h
      split at h
      · next hc =>
        cases h
        exact ⟨c, hc, rfl⟩
      · cases h
    · rintro ⟨b, hb, heq⟩
      cases heq
      exact if_pos hb

theorem dropText?_eq_some {text cs rest : List Char} (h : dropText? text cs = some rest) :
    cs = text ++ rest := by
  rw [dropText?] at h
  split at h
  · next hp =>
    cases h
    obtain ⟨more, rfl⟩ := List.isPrefixOf_iff_prefix.1 hp
    simp
  · cases h

theorem severity?_eq_some_iff {cs rest : List Char} {s : Severity} : severity? cs = some (s, rest) ↔
    cs = s.name.toList ++ ':' :: rest := by
  constructor
  · intro h
    obtain ⟨s', -, hs⟩ := List.exists_of_findSome?_eq_some h
    obtain ⟨rest', hr, heq⟩ := Option.map_eq_some_iff.1 hs
    cases heq
    simpa using dropText?_eq_some hr
  · rintro rfl
    exact severity?_name s rest

/-! ## Spellings -/

/-- The parts that the line of a finding is made of, with the blanks between them. -/
structure LineParts where
  line : List Char
  column : List Char
  last : List Char
  gap₁ : Char
  severity : Severity
  gap₂ : Char
  message : List Char
  gap₃ : Char
  code : List Char

namespace LineParts

/-- The message and the code in brackets. -/
def closing (p : LineParts) : List Char := p.message ++ p.gap₃ :: '[' :: (p.code ++ [']'])

/-- The line that is made of the parts. -/
def chars (p : LineParts) : List Char :=
  p.line ++ ':' :: (p.column ++ ':' :: (p.last ++ ':' :: p.gap₁ ::
    (p.severity.name.toList ++ ':' :: p.gap₂ :: p.closing)))

/-- The grammar: which parts make up a line. -/
structure Spells (p : LineParts) (cs : List Char) : Prop where
  chars_eq : cs = p.chars
  line : Numeral p.line
  column : Numeral p.column
  last : Numeral p.last
  ordered : decimalValue p.column ≤ decimalValue p.last
  blank₁ : isBlank p.gap₁ = true
  blank₂ : isBlank p.gap₂ = true
  blank₃ : isBlank p.gap₃ = true
  message_ne : p.message ≠ []
  code_ne : p.code ≠ []
  code_closed : ']' ∉ p.code

/-- No other parts that make up the line have a shorter message. -/
def Shortest (p : LineParts) (cs : List Char) : Prop :=
  ∀ q : LineParts, q.Spells cs → p.message.length ≤ q.message.length

/-- Parts and the finding that they write, whose positions count from zero. -/
structure Writes (p : LineParts) (f : Finding) : Prop where
  line : f.line + 1 = decimalValue p.line
  start : f.start + 1 = decimalValue p.column
  stop : f.stop + 1 = decimalValue p.last
  severity : f.severity = p.severity
  message : f.message = String.ofList p.message
  code : f.code = String.ofList p.code

end LineParts

/-- The finding that a line writes by the grammar. -/
def Finding.ReadFrom (f : Finding) (cs : List Char) : Prop :=
  ∃ p : LineParts, p.Spells cs ∧ p.Shortest cs ∧ p.Writes f

namespace LineParts

variable {p q : LineParts} {cs : List Char} {f : Finding}

/-- The opening of a line is spelled in one way. -/
theorem Spells.closing_eq (hp : p.Spells cs) (hq : q.Spells cs) : p.closing = q.closing := by
  have h := hp.chars_eq.symm.trans hq.chars_eq
  have step : ∀ {ds ds' r r' : List Char}, Numeral ds → Numeral ds' →
      ds ++ ':' :: r = ds' ++ ':' :: r' → r = r' := by
    intro ds ds' r r' hds hds' heq
    have hr := position?_of_numeral hds r
    rw [heq, position?_of_numeral hds' r'] at hr
    exact (Prod.mk.inj (Option.some.inj hr)).2.symm
  have h₁ := step hp.last hq.last (step hp.column hq.column (step hp.line hq.line h))
  have h₂ := severity?_name p.severity (p.gap₂ :: p.closing)
  rw [(List.cons.inj h₁).2, severity?_name] at h₂
  exact (List.cons.inj (Prod.mk.inj (Option.some.inj h₂)).2).2.symm

/-- The message ends where the first code can start. -/
theorem Spells.separable (hp : p.Spells cs) (hs : p.Shortest cs) : Separable p.message p.code := by
  refine ⟨hp.message_ne, hp.code_ne, hp.code_closed, fun before c after hm hne hc => ?_⟩
  refine Classical.byContradiction fun hopen => ?_
  -- The rest of the message would make a longer code and leave a shorter message.
  let q : LineParts :=
    { p with message := before, gap₃ := c, code := after ++ p.gap₃ :: '[' :: p.code }
  have hgap : ']' ≠ p.gap₃ := by
    intro h
    have := hp.blank₃
    rw [← h] at this
    exact absurd this (by decide)
  have hq : q.Spells cs :=
    { hp with
      chars_eq := by rw [hp.chars_eq]; simp [chars, closing, q, hm]
      blank₃ := hc
      message_ne := hne
      code_ne := by simp [q]
      code_closed := by simp [q, hopen, hgap, hp.code_closed] }
  have hle : p.message.length ≤ before.length := hs q hq
  simp only [hm, List.length_append, List.length_cons] at hle
  omega

/-- No spelling ends its message before the first place where a code can start. -/
theorem Spells.shortest (hp : p.Spells cs) (hs : Separable p.message p.code) : p.Shortest cs := by
  intro q hq
  refine Classical.byContradiction fun hlt => ?_
  have hclosing : p.closing = q.closing := hp.closing_eq hq
  obtain ⟨mid, hm, hmid⟩ : ∃ mid, p.message = q.message ++ mid ∧
      q.gap₃ :: '[' :: (q.code ++ [']']) = mid ++ p.gap₃ :: '[' :: (p.code ++ [']']) := by
    rcases List.append_eq_append_iff.1 hclosing with ⟨mid, hm, -⟩ | h
    · rw [hm, List.length_append] at hlt
      omega
    · exact h
  match mid with
  | [] =>
    rw [List.append_nil] at hm
    rw [hm] at hlt
    exact hlt (Nat.le_refl _)
  | [b] =>
    simp only [List.cons_append, List.nil_append, List.cons.injEq] at hmid
    have hb := hp.blank₃
    rw [← hmid.2.1] at hb
    exact absurd hb (by decide)
  | b :: c :: after =>
    simp only [List.cons_append, List.cons.injEq] at hmid
    obtain ⟨rfl, rfl, hcode⟩ := hmid
    have hclosed : ']' ∈ after := hs.closes q.message q.gap₃ after hm hq.message_ne hq.blank₃
    have hcode' : q.code ++ [']'] = (after ++ p.gap₃ :: '[' :: p.code) ++ [']'] := by simpa using hcode
    exact hq.code_closed (List.append_cancel_right hcode' ▸ List.mem_append_left _ hclosed)

/-- Parts with the shortest message are those that can be told apart. -/
theorem Spells.separable_iff (hp : p.Spells cs) : Separable p.message p.code ↔ p.Shortest cs :=
  ⟨hp.shortest, hp.separable⟩

/-- Among the spellings of a line there is one with the shortest message. -/
theorem Spells.exists_shortest (hp : p.Spells cs) : ∃ q : LineParts, q.Spells cs ∧ q.Shortest cs := by
  induction hn : p.message.length using Nat.strongRecOn generalizing p with
  | ind n ih =>
    by_cases hs : p.Shortest cs
    · exact ⟨p, hp, hs⟩
    · simp only [Shortest, Classical.not_forall, Nat.not_le] at hs
      obtain ⟨q, hq, hlt⟩ := hs
      exact ih q.message.length (hn ▸ hlt) hq rfl

theorem Spells.exists_writes (hp : p.Spells cs) : ∃ f : Finding, p.Writes f := by
  have pos : ∀ {ds : List Char}, Numeral ds → 0 < decimalValue ds := fun h =>
    (position?_bounds (position?_of_numeral h [])).1
  have hl := pos hp.line
  have hc := pos hp.column
  have he := pos hp.last
  have ho := hp.ordered
  exact ⟨⟨decimalValue p.line - 1, decimalValue p.column - 1, decimalValue p.last - 1, p.severity,
    String.ofList p.message, String.ofList p.code, by omega⟩, by dsimp only; omega, by dsimp only; omega,
    by dsimp only; omega, rfl, rfl, rfl⟩

end LineParts

namespace Finding

variable {f : Finding} {p : LineParts} {cs : List Char}

/-- Where the message and the code can be told apart, the scanner reads what the parts write. -/
theorem ofLine?_of_spells (hp : p.Spells cs) (hs : Separable p.message p.code) (hf : p.Writes f) :
    ofLine? cs = some f := by
  have hclosing : messageAndCode? [] p.closing = some (p.message, p.code) :=
    messageAndCode?_eq_some_iff.2 ⟨hs, p.gap₃, hp.blank₃, rfl⟩
  have hgap : ∀ {b : Char} (rest : List Char), isBlank b = true → dropBlank? (b :: rest) = some rest :=
    fun rest hb => dropBlank?_eq_some_iff.2 ⟨_, hb, rfl⟩
  have hle : decimalValue p.column - 1 ≤ decimalValue p.last - 1 := Nat.sub_le_sub_right hp.ordered 1
  simp only [ofLine?, hp.chars_eq, LineParts.chars, position?_of_numeral hp.line,
    position?_of_numeral hp.column, position?_of_numeral hp.last, hgap _ hp.blank₁, severity?_name,
    hgap _ hp.blank₂, hclosing, bind, Option.bind, dif_pos hle]
  obtain ⟨line, start, stop, severity, message, code, _⟩ := f
  obtain ⟨hline, hstart, hstop, rfl, rfl, rfl⟩ := hf
  simp only [← hline, ← hstart, ← hstop, Nat.add_sub_cancel]

/-- What the scanner reads is spelled by parts that can be told apart. -/
theorem spells_of_ofLine? (h : ofLine? cs = some f) :
    ∃ p : LineParts, p.Spells cs ∧ Separable p.message p.code ∧ p.Writes f := by
  simp only [ofLine?, bind, Option.bind_eq_some_iff, Prod.exists] at h
  obtain ⟨line, cs₁, h₁, column, cs₂, h₂, last, cs₃, h₃, cs₄, h₄, severity, cs₅, h₅, cs₆, h₆, message,
    code, h₇, h⟩ := h
  split at h
  · next hle =>
    cases h
    obtain ⟨hl, -, -⟩ := position?_bounds h₁
    obtain ⟨hc, -, -⟩ := position?_bounds h₂
    obtain ⟨he, -, -⟩ := position?_bounds h₃
    obtain ⟨ds₁, n₁, rfl, rfl⟩ := position?_eq_some_iff.1 h₁
    obtain ⟨ds₂, n₂, rfl, rfl⟩ := position?_eq_some_iff.1 h₂
    obtain ⟨ds₃, n₃, rfl, rfl⟩ := position?_eq_some_iff.1 h₃
    obtain ⟨b₁, hb₁, rfl⟩ := dropBlank?_eq_some_iff.1 h₄
    obtain rfl := severity?_eq_some_iff.1 h₅
    obtain ⟨b₂, hb₂, rfl⟩ := dropBlank?_eq_some_iff.1 h₆
    obtain ⟨hs, b₃, hb₃, rfl⟩ := messageAndCode?_eq_some_iff.1 h₇
    refine ⟨⟨ds₁, ds₂, ds₃, b₁, severity, b₂, message, b₃, code⟩, ?_, hs, ?_⟩
    · exact ⟨rfl, n₁, n₂, n₃, by dsimp only; omega, hb₁, hb₂, hb₃, hs.message_ne, hs.code_ne, hs.code_closed⟩
    · exact ⟨by dsimp only; omega, by dsimp only; omega, by dsimp only; omega, rfl, rfl, rfl⟩
  · cases h

theorem ofLine?_eq_some_iff : ofLine? cs = some f ↔ f.ReadFrom cs := by
  constructor
  · intro h
    obtain ⟨p, hp, hs, hf⟩ := spells_of_ofLine? h
    exact ⟨p, hp, hp.separable_iff.1 hs, hf⟩
  · rintro ⟨p, hp, hs, hf⟩
    exact ofLine?_of_spells hp (hp.separable_iff.2 hs) hf

theorem ofLine?_eq_none_iff : ofLine? cs = none ↔ ∀ p : LineParts, ¬p.Spells cs := by
  constructor
  · intro h p hp
    obtain ⟨q, hq, hs⟩ := hp.exists_shortest
    obtain ⟨f, hf⟩ := hq.exists_writes
    rw [ofLine?_of_spells hq (hq.separable_iff.2 hs) hf] at h
    cases h
  · intro h
    cases hf : ofLine? cs with
    | none => rfl
    | some f =>
      obtain ⟨p, hp, -⟩ := spells_of_ofLine? hf
      exact absurd hp (h p)

end Finding

/-! ## Reports -/

/-- The findings of lines by the grammar, in the order of the lines. A line that cannot be spelled has
none. -/
inductive Reported : List (List Char) → List Finding → Prop
  | nil : Reported [] []
  | finding {line inner : List Char} {ls : List (List Char)} {f : Finding} {fs : List Finding} :
      Stripped line inner → f.ReadFrom inner → Reported ls fs → Reported (line :: ls) (f :: fs)
  | other {line inner : List Char} {ls : List (List Char)} {fs : List Finding} :
      Stripped line inner → (∀ p : LineParts, ¬p.Spells inner) → Reported ls fs →
      Reported (line :: ls) fs

theorem Reported.filterMap_eq {ls : List (List Char)} {fs : List Finding} (h : Reported ls fs) :
    ls.filterMap (fun line => Finding.ofLine? (stripChars line)) = fs := by
  induction h with
  | nil => rfl
  | finding hline hf _ ih =>
    rw [List.filterMap_cons, hline.stripChars_eq, Finding.ofLine?_eq_some_iff.2 hf]
    simp only [ih]
  | other hline hnone _ ih =>
    rw [List.filterMap_cons, hline.stripChars_eq, Finding.ofLine?_eq_none_iff.2 hnone]
    simp only [ih]

theorem reported_filterMap : ∀ ls : List (List Char),
    Reported ls (ls.filterMap fun line => Finding.ofLine? (stripChars line))
  | [] => .nil
  | line :: ls => by
    have ih := reported_filterMap ls
    rw [List.filterMap_cons]
    cases hf : Finding.ofLine? (stripChars line) with
    | none => exact .other (stripped_stripChars line) (Finding.ofLine?_eq_none_iff.1 hf) ih
    | some f => exact .finding (stripped_stripChars line) (Finding.ofLine?_eq_some_iff.1 hf) ih

/-- A report is read line by line as the grammar says. -/
theorem parseReport_eq_iff (text : String) (fs : List Finding) :
    parseReport text = fs ↔ ∃ ls, Cut text.toList ls ∧ Reported ls fs := by
  constructor
  · rintro rfl
    exact ⟨_, lines_eq_iff.1 rfl, reported_filterMap _⟩
  · rintro ⟨ls, hls, hfs⟩
    rw [parseReport, hls.lines_eq, hfs.filterMap_eq]

example : (parseReport "1:2:3: error: a [b [c]\r\n").map (fun f => (f.message, f.code)) =
    [("a", "b [c")] := by decide +kernel

end SqlTidy
