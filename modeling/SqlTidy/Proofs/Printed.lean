import SqlTidy.CommandLine.Run
import SqlTidy.Proofs.ReadBack

/-!
# What a check prints

A check writes its findings one to a line. On a terminal the lines appear as they are; anywhere else each goes
out without the sequences that control a terminal. No such sequence reaches over the ends of a message or of a
code, since the characters around them belong to none (`plain_append`). So a line without them is the line of
the same finding with its message and its code cleaned (`Finding.bare`), and it can be read as long as something
is left of both (`Finding.ofLine?_bare_isSome`).
-/

namespace SqlTidy.CommandLine

/-! ## Control sequences -/

def isParameter (c : Char) : Bool := c == ';' || c == '?' || ('0' ≤ c && c ≤ '9')

def isFinal (c : Char) : Bool := ('a' ≤ c && c ≤ 'z') || ('A' ≤ c && c ≤ 'Z')

/-- What follows the control sequence that a text starts with. -/
def afterControl? : List Char → Option (List Char)
  | '\x1b' :: '[' :: rest =>
    match rest.dropWhile isParameter with
    | c :: after => if isFinal c then some after else none
    | [] => none
  | _ => none

theorem afterControl?_length {cs after : List Char} (h : afterControl? cs = some after) :
    after.length < cs.length := by
  unfold afterControl? at h
  split at h
  · next rest =>
    split at h
    · next c more hmore =>
      have hle := (List.dropWhile_suffix isParameter (l := rest)).length_le
      split at h
      · cases h
        simp only [hmore, List.length_cons] at hle ⊢
        omega
      · cases h
    · cases h
  · cases h

theorem afterControl?_eq_none {cs : List Char} (h : ∀ more, cs ≠ '\x1b' :: '[' :: more) :
    afterControl? cs = none := by
  unfold afterControl?
  split
  · next more => exact absurd rfl (h more)
  · rfl

theorem withoutControls_cons (steps : Nat) (c : Char) (rest : List Char) :
    withoutControls (steps + 1) (c :: rest) =
      match afterControl? (c :: rest) with
      | some after => withoutControls steps after
      | none => c :: withoutControls steps rest := by
  by_cases h : ∃ more, c = '\x1b' ∧ rest = '[' :: more
  · obtain ⟨more, rfl, rfl⟩ := h
    rw [withoutControls, afterControl?]
    change (match more.dropWhile isParameter with
      | c :: after => if isFinal c then withoutControls steps after else _
      | [] => _) = _
    cases more.dropWhile isParameter with
    | nil => rfl
    | cons c after => by_cases hc : isFinal c = true <;> simp [hc]
  · have h' : ∀ more, c = '\x1b' → rest = '[' :: more → False :=
      fun more hc hrest => h ⟨more, hc, hrest⟩
    have hnone : afterControl? (c :: rest) = none :=
      afterControl?_eq_none fun more heq => h' more (List.cons.inj heq).1 (List.cons.inj heq).2
    rw [hnone, withoutControls]
    exact h'

theorem withoutControls_congr : ∀ {m n : Nat} {cs : List Char}, cs.length < m → cs.length < n →
    withoutControls m cs = withoutControls n cs
  | m + 1, n + 1, [], _, _ => by simp [withoutControls]
  | m + 1, n + 1, c :: rest, hm, hn => by
    simp only [List.length_cons, Nat.add_lt_add_iff_right] at hm hn
    rw [withoutControls_cons, withoutControls_cons]
    cases hafter : afterControl? (c :: rest) with
    | none => simp only [withoutControls_congr hm hn]
    | some after =>
      have hlt := afterControl?_length hafter
      simp only [List.length_cons] at hlt
      exact withoutControls_congr (by omega) (by omega)

/-- A text without its control sequences. -/
def plain (cs : List Char) : List Char := withoutControls (cs.length + 1) cs

theorem plain_cons (c : Char) (rest : List Char) :
    plain (c :: rest) =
      match afterControl? (c :: rest) with
      | some after => plain after
      | none => c :: plain rest := by
  rw [plain, List.length_cons, withoutControls_cons]
  cases hafter : afterControl? (c :: rest) with
  | none => rfl
  | some after =>
    have hlt := afterControl?_length hafter
    exact withoutControls_congr hlt (Nat.lt_succ_self _)

theorem plain_cons_of_ne {c : Char} (h : c ≠ '\x1b') (rest : List Char) :
    plain (c :: rest) = c :: plain rest := by
  have hnone : afterControl? (c :: rest) = none :=
    afterControl?_eq_none fun more heq => h (List.cons.inj heq).1
  rw [plain_cons, hnone]

theorem plain_append_of_not_mem {cs : List Char} (h : '\x1b' ∉ cs) (rest : List Char) :
    plain (cs ++ rest) = cs ++ plain rest := by
  induction cs with
  | nil => rfl
  | cons c cs ih =>
    simp only [List.mem_cons, not_or] at h
    rw [List.cons_append, plain_cons_of_ne (Ne.symm h.1), ih h.2, List.cons_append]

theorem mem_of_mem_afterControl? {cs after : List Char} (h : afterControl? cs = some after) {c : Char}
    (hc : c ∈ after) : c ∈ cs := by
  unfold afterControl? at h
  split at h
  · next rest =>
    split at h
    · next x more hmore =>
      split at h
      · cases h
        have hmem : c ∈ rest.dropWhile isParameter := hmore ▸ List.mem_cons_of_mem x hc
        simp [(List.dropWhile_suffix isParameter).mem hmem]
      · cases h
    · cases h
  · cases h

theorem mem_of_mem_plain {c : Char} {cs : List Char} (h : c ∈ plain cs) : c ∈ cs := by
  match cs with
  | [] => exact h
  | x :: rest =>
    rw [plain_cons] at h
    cases hafter : afterControl? (x :: rest) with
    | none =>
      rw [hafter] at h
      rcases List.mem_cons.1 h with rfl | h
      · exact List.mem_cons_self
      · exact List.mem_cons_of_mem x (mem_of_mem_plain h)
    | some after =>
      rw [hafter] at h
      have hlt : after.length < rest.length + 1 := afterControl?_length hafter
      exact mem_of_mem_afterControl? hafter (mem_of_mem_plain h)
termination_by cs.length

/-- Holds for characters that stand in no control sequence. -/
structure Divides (b : Char) : Prop where
  ne_escape : b ≠ '\x1b'
  ne_bracket : b ≠ '['
  not_parameter : isParameter b = false
  not_final : isFinal b = false

theorem afterControl?_append {b : Char} (hb : Divides b) (cs rest : List Char) :
    afterControl? (cs ++ b :: rest) = (afterControl? cs).map (· ++ b :: rest) := by
  by_cases h : ∃ more, cs = '\x1b' :: '[' :: more
  · obtain ⟨more, rfl⟩ := h
    simp only [List.cons_append, afterControl?, List.dropWhile_append]
    cases more.dropWhile isParameter with
    | nil => simp [hb.not_parameter, hb.not_final]
    | cons x after => by_cases hx : isFinal x = true <;> simp [hx]
  · have hne : ∀ more, cs ++ b :: rest ≠ '\x1b' :: '[' :: more := by
      intro more heq
      match cs with
      | [] => exact hb.ne_escape (List.cons.inj heq).1
      | [c] => exact hb.ne_bracket (List.cons.inj (List.cons.inj heq).2).1
      | c :: d :: tail =>
        cases heq
        exact h ⟨tail, rfl⟩
    rw [afterControl?_eq_none hne, afterControl?_eq_none fun more heq => h ⟨more, heq⟩]
    rfl

/-- No control sequence reaches over a character that stands in none. -/
theorem plain_append {b : Char} (hb : Divides b) (cs rest : List Char) :
    plain (cs ++ b :: rest) = plain cs ++ b :: plain rest := by
  match cs with
  | [] => exact plain_cons_of_ne hb.ne_escape rest
  | c :: more =>
    have hsplit := afterControl?_append hb (c :: more) rest
    rw [List.cons_append] at hsplit ⊢
    rw [plain_cons, plain_cons c more, hsplit]
    cases hafter : afterControl? (c :: more) with
    | none => simp only [Option.map_none, List.cons_append, plain_append hb more rest]
    | some after =>
      have hlt : after.length < more.length + 1 := afterControl?_length hafter
      exact plain_append hb after rest
termination_by cs.length

theorem toList_plainOutput (s : String) : (plainOutput s).toList = plain s.toList :=
  String.toList_ofList

end SqlTidy.CommandLine

namespace SqlTidy.Finding

open CommandLine

/-! ## Printed findings -/

/-- A finding without control sequences in its message and its code. -/
def bare (f : Finding) : Finding :=
  { f with message := plainOutput f.message, code := plainOutput f.code }

theorem escape_not_mem_opening (f : Finding) : '\x1b' ∉ f.opening := by
  intro h
  rcases mem_opening h with ⟨n, h⟩ | h | h
  · exact absurd (toNat_of_mem_toDigits h) (by decide)
  · cases hs : f.severity <;> rw [hs] at h <;> exact absurd h (by decide)
  · exact absurd h (by decide)

/-- The line of a finding is printed as the line of the finding without control sequences. -/
theorem plainOutput_text (f : Finding) : plainOutput (f.text ++ "\n") = f.bare.text ++ "\n" := by
  have hspace : Divides ' ' := ⟨by decide, by decide, by decide, by decide⟩
  have hclose : Divides ']' := ⟨by decide, by decide, by decide, by decide⟩
  have hopening : f.bare.opening = f.opening := rfl
  rw [← String.toList_inj, toList_plainOutput]
  simp only [text, String.toList_append, String.toList_ofList, chars_eq, List.append_assoc,
    List.cons_append, List.nil_append, hopening]
  rw [plain_append_of_not_mem f.escape_not_mem_opening, plain_append hspace,
    plain_cons_of_ne (by decide), plain_append hclose]
  simp only [bare, toList_plainOutput]
  rfl

theorem bare_placed {f : Finding} (h : f.Placed) : f.bare.Placed := ⟨h.line_lt, h.start_lt, h.stop_lt⟩

theorem bare_unbroken {f : Finding} (h : f.Legible) :
    Unbroken f.bare.message.toList ∧ Unbroken f.bare.code.toList := by
  simp only [bare, toList_plainOutput]
  exact ⟨fun c hc => h.message_unbroken c (mem_of_mem_plain hc),
    fun c hc => h.code_unbroken c (mem_of_mem_plain hc)⟩

/-- The printed line reads as a finding if something is left of the message and of the code. -/
theorem ofLine?_bare_isSome {f : Finding} (h : f.Legible) (hm : f.bare.message ≠ "")
    (hc : f.bare.code ≠ "") : (ofLine? f.bare.chars).isSome = true := by
  have hclosed : ']' ∉ f.bare.code.toList := by
    simp only [bare, toList_plainOutput]
    exact fun hmem => h.separable.code_closed (mem_of_mem_plain hmem)
  have hm' : f.bare.message.toList ≠ [] := by simpa using hm
  have hc' : f.bare.code.toList ≠ [] := by simpa using hc
  rw [ofLine?_chars_eq_map (bare_placed h.toPlaced), Option.isSome_map]
  exact messageAndCode?_isSome hc' hclosed (.inl hm')

end SqlTidy.Finding

namespace SqlTidy.CommandLine.Surroundings

/-! ## Checks -/

/-- What a check finds; nothing if it does not come to its end. -/
def found (s : Surroundings) (c : Choice) (t : FileTree) : List Finding :=
  match openSession s c t, readSource s c t with
  | .ok (settings, roots), .ok text =>
    match (checkDocument (s.finder roots) s.runner settings text t).result with
    | .ok findings => findings
    | .error _ => []
  | _, _ => []

theorem legible_of_checkDocument {find : Finder} {run : Runner} {settings : Settings} {text : String}
    {t : FileTree} {fs : List Finding} (h : (checkDocument find run settings text t).result = .ok fs) :
    ∀ f ∈ fs, f.Legible := by
  simp only [checkDocument, Except.map] at h
  split at h
  · cases h
  · cases h
    exact fun f hf => FilterPolicy.legible_of_mem_apply hf

theorem found_legible (s : Surroundings) (c : Choice) (t : FileTree) : ∀ f ∈ s.found c t, f.Legible := by
  rw [found]
  split
  · split
    · next h => exact legible_of_checkDocument h
    · simp
  · simp

/-- A finding as it is printed: with its control sequences on a terminal only. -/
def shown (s : Surroundings) (f : Finding) : Finding := if s.terminal.isTerminal then f else f.bare

theorem shown_eq (s : Surroundings) (f : Finding) : s.shown f = f ∨ s.shown f = f.bare := by
  rw [shown]
  split
  · exact .inl rfl
  · exact .inr rfl

theorem echo_text (s : Surroundings) (f : Finding) : s.echo (f.text ++ "\n") = (s.shown f).text ++ "\n" := by
  rw [echo, shown]
  split
  · rfl
  · exact f.plainOutput_text

/-- A check ends with 1 if it has found something, and prints what it has found. -/
theorem runCheck_of_found (s : Surroundings) (c : Choice) (t : FileTree) :
    ((s.runCheck c t).ending = .exit 1 ↔ s.found c t ≠ []) ∧
      (s.runCheck c t).stdout = written (((s.found c t).map s.shown).map Finding.text) := by
  rw [runCheck, found]
  cases openSession s c t with
  | error stop => cases stop <;> simp [stopped, written]
  | ok session =>
    cases readSource s c t with
    | error stop => cases stop <;> simp [stopped, written]
    | ok text =>
      simp only
      cases hresult : (checkDocument (s.finder session.2) s.runner session.1 text t).result with
      | error error => cases error <;> simp [failed, written]
      | ok findings =>
        have hlegible := legible_of_checkDocument hresult
        simp only [mapM_render fun f hf => (hlegible f hf).toPlaced]
        cases findings with
        | nil => simp [written]
        | cons f fs => simp [written, Function.comp_def, echo_text]

/-- What a check prints is read line by line. -/
theorem parseReport_stdout (s : Surroundings) (c : Choice) (t : FileTree) :
    parseReport (s.runCheck c t).stdout =
      (s.found c t).filterMap fun f => Finding.ofLine? (s.shown f).chars := by
  have hshown : ∀ f ∈ (s.found c t).map s.shown, Unbroken f.message.toList ∧ Unbroken f.code.toList := by
    intro f hf
    obtain ⟨g, hg, rfl⟩ := List.mem_map.1 hf
    have hlegible := s.found_legible c t g hg
    rcases s.shown_eq g with h | h <;> rw [h]
    · exact ⟨hlegible.message_unbroken, hlegible.code_unbroken⟩
    · exact Finding.bare_unbroken hlegible
  rw [(s.runCheck_of_found c t).2, parseReport_written hshown, List.filterMap_map]
  rfl

/-- Findings that are printed as they are can be read back. -/
theorem parseReport_stdout_of_shown {s : Surroundings} {c : Choice} {t : FileTree}
    (h : ∀ f ∈ s.found c t, s.shown f = f) : parseReport (s.runCheck c t).stdout = s.found c t := by
  have hmap : (s.found c t).map s.shown = s.found c t := by rw [List.map_congr_left h, List.map_id']
  rw [(s.runCheck_of_found c t).2, hmap, parseReport_written_of_legible (s.found_legible c t)]

/-- The findings of a report that a policy lets through can be written, and are read back from what is
written. A check ends with 1 exactly if it has something to write. On a terminal it prints just that, so what it
prints is read as its findings. Elsewhere what it prints of a finding lacks the control sequences of its message
and its code; so what is printed can be read only if there are findings, can be read if something is left of one
of them, and is read as the findings if nothing was taken out. -/
theorem check_reads_back :
    (∀ (report : String) (policy : FilterPolicy), ∃ texts,
      (policy.apply (parseReport report)).mapM Finding.render = .ok texts ∧
        parseReport (written texts) = policy.apply (parseReport report)) ∧
      ∀ (s : Surroundings) (c : Choice) (t : FileTree), ∃ texts printed,
        (s.found c t).mapM Finding.render = .ok texts ∧
          ((s.found c t).map Finding.bare).mapM Finding.render = .ok printed ∧
          ((s.runCheck c t).ending = .exit 1 ↔ parseReport (written texts) ≠ []) ∧
          (s.runCheck c t).stdout = written (if s.terminal.isTerminal then texts else printed) ∧
          (parseReport (s.runCheck c t).stdout ≠ [] → (s.runCheck c t).ending = .exit 1) ∧
          (s.terminal.isTerminal = true ∨ (∀ f ∈ s.found c t, f.bare = f) →
            parseReport (s.runCheck c t).stdout = s.found c t ∧
              ((s.runCheck c t).ending = .exit 1 ↔ parseReport (s.runCheck c t).stdout ≠ [])) ∧
          ((∃ f ∈ s.found c t, f.bare.message ≠ "" ∧ f.bare.code ≠ "") →
            parseReport (s.runCheck c t).stdout ≠ []) := by
  refine ⟨fun report policy => ?_, fun s c t => ?_⟩
  · have h : ∀ f ∈ policy.apply (parseReport report), f.Legible :=
      fun f hf => FilterPolicy.legible_of_mem_apply hf
    exact ⟨_, mapM_render fun f hf => (h f hf).toPlaced, parseReport_written_of_legible h⟩
  have h := s.found_legible c t
  obtain ⟨hexit, hstdout⟩ := s.runCheck_of_found c t
  have hbare : ∀ f ∈ (s.found c t).map Finding.bare, f.Placed := by
    intro f hf
    obtain ⟨g, hg, rfl⟩ := List.mem_map.1 hf
    exact Finding.bare_placed (h g hg).toPlaced
  refine ⟨_, _, mapM_render fun f hf => (h f hf).toPlaced, mapM_render hbare, ?_, ?_, ?_, ?_, ?_⟩
  · rw [parseReport_written_of_legible h, hexit]
  · rw [hstdout]
    split
    · next hterminal =>
      have hshown : s.shown = id := funext fun f => if_pos hterminal
      rw [hshown, List.map_id]
    · next hterminal =>
      have hshown : s.shown = Finding.bare := funext fun f => if_neg hterminal
      rw [hshown]
  · intro hread
    refine hexit.2 fun hnone => hread ?_
    rw [parseReport_stdout, hnone, List.filterMap_nil]
  · intro hcase
    have hshown : ∀ f ∈ s.found c t, s.shown f = f := by
      intro f hf
      rcases hcase with hterminal | hsame
      · rw [shown, if_pos hterminal]
      · exact (s.shown_eq f).elim id fun hbare => hbare.trans (hsame f hf)
    rw [parseReport_stdout_of_shown hshown]
    exact ⟨rfl, hexit⟩
  · rintro ⟨f, hf, hm, hc⟩ hnone
    rw [parseReport_stdout, List.filterMap_eq_nil_iff] at hnone
    have hsome : (Finding.ofLine? (s.shown f).chars).isSome = true := by
      rcases s.shown_eq f with hshown | hshown <;> rw [hshown]
      · rw [Finding.ofLine?_chars (h f hf)]
        rfl
      · exact Finding.ofLine?_bare_isSome (h f hf) hm hc
    rw [hnone f hf] at hsome
    cases hsome

/-- A formatter at `/f` that always reports the same. -/
def reporting (report : String) : Surroundings where
  machine := ⟨[], ⟨"/", []⟩, ⟨"linux", "x64"⟩, ⟨.root, []⟩⟩
  server _ t := (.error "offline", t)
  programs p := if p = ["f"] then some fun q => ⟨1, utf8Encode report, [], q.tree⟩ else none
  terminal := ⟨false, []⟩
  input := ""

/-- A check of the input by the formatter at `/f`. -/
def checkByF : Choice :=
  ⟨.check, none, false, none, none, none, ⟨.root, []⟩, some ⟨.root, []⟩, some ⟨.root, []⟩, some "/f",
    none, none, none, false⟩

/-- A tree with a file at `/f` that can be started. -/
def treeWithF : FileTree := ⟨[(["f"], .file [] 0o755)], [], []⟩

/-- Off a terminal, a message in colours is printed without them and can be read. On a terminal, even one that is
nothing but a control sequence is read back. -/
theorem check_reads_back_coloured :
    ((∃ f ∈ (reporting "1:1:1: error: \x1b[31mno\x1b[m [x]\n").found checkByF treeWithF,
      f.bare.message ≠ "" ∧ f.bare.code ≠ "") ∧
      parseReport ((reporting "1:1:1: error: \x1b[31mno\x1b[m [x]\n").runCheck checkByF
        treeWithF).stdout ≠ []) ∧
    (({ reporting "1:1:1: error: \x1b[m [x]\n" with terminal := ⟨true, []⟩ }.runCheck checkByF
        treeWithF).ending = .exit 1 ∧
      parseReport ({ reporting "1:1:1: error: \x1b[m [x]\n" with terminal := ⟨true, []⟩ }.runCheck checkByF
        treeWithF).stdout ≠ []) := by
  have h : ∃ f ∈ (reporting "1:1:1: error: \x1b[31mno\x1b[m [x]\n").found checkByF treeWithF,
      f.bare.message ≠ "" ∧ f.bare.code ≠ "" := by decide +kernel
  have hexit : ({ reporting "1:1:1: error: \x1b[m [x]\n" with terminal := ⟨true, []⟩ }.runCheck checkByF
      treeWithF).ending = .exit 1 := by decide +kernel
  obtain ⟨_, _, -, -, -, -, -, -, hread⟩ := check_reads_back.2
    (reporting "1:1:1: error: \x1b[31mno\x1b[m [x]\n") checkByF treeWithF
  obtain ⟨_, _, -, -, -, -, -, hterminal, -⟩ := check_reads_back.2
    { reporting "1:1:1: error: \x1b[m [x]\n" with terminal := ⟨true, []⟩ } checkByF treeWithF
  exact ⟨⟨h, hread h⟩, hexit, (hterminal (.inl rfl)).2.1 hexit⟩

/-- Off a terminal, a message that is nothing but a control sequence is found, and what is printed of it cannot
be read. -/
theorem check_unread_control :
    ((reporting "1:1:1: error: \x1b[m [x]\n").runCheck checkByF treeWithF).ending = .exit 1 ∧
      parseReport ((reporting "1:1:1: error: \x1b[m [x]\n").runCheck checkByF treeWithF).stdout = [] := by
  decide +kernel

end SqlTidy.CommandLine.Surroundings
