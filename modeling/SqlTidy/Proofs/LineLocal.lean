import SqlTidy.Proofs.ReportGrammar

/-!
# Reports line by line

What ends a line (`LineEnd`) cuts a report in two that are read apart (`parseReport_append`). It does not
matter that a carriage return in front of the cut and a line feed behind it make up one end: between them
lies an empty line, which says nothing. So a line that is no finding takes nothing from the lines around it
and adds nothing to them (`parseReport_line_local`).
-/

namespace SqlTidy

/-- What ends a line. -/
inductive LineEnd where
  | lineFeed
  | carriageReturn
  | returnAndFeed
  | lineTabulation
  | formFeed
  | fileSeparator
  | groupSeparator
  | recordSeparator
  | nextLine
  | lineSeparator
  | paragraphSeparator
deriving DecidableEq, Repr

namespace LineEnd

def chars : LineEnd → List Char
  | .lineFeed => ['\n']
  | .carriageReturn => ['\r']
  | .returnAndFeed => ['\r', '\n']
  | .lineTabulation => ['\x0b']
  | .formFeed => ['\x0c']
  | .fileSeparator => ['\x1c']
  | .groupSeparator => ['\x1d']
  | .recordSeparator => ['\x1e']
  | .nextLine => ['\u0085']
  | .lineSeparator => ['\u2028']
  | .paragraphSeparator => ['\u2029']

def text (e : LineEnd) : String := String.ofList e.chars

/-- All but one are a single boundary. -/
theorem chars_cases (e : LineEnd) :
    (∃ b, isLineBoundary b = true ∧ e.chars = [b]) ∨ e.chars = ['\r', '\n'] := by
  cases e with
  | returnAndFeed => exact .inr rfl
  | _ => exact .inl ⟨_, by decide, rfl⟩

end LineEnd

/-! ## Lines that are not empty -/

/-- The lines of a text that are not empty, the current one given by the characters read so far. -/
def filledFrom (line cs : List Char) : List (List Char) := (linesFrom line cs).filter fun l => !l.isEmpty

section Filled

variable {b c : Char}

theorem filter_reverse_cons (line : List Char) (ls : List (List Char)) :
    (line.reverse :: ls).filter (fun l => !l.isEmpty) = filledFrom line [] ++ ls.filter fun l => !l.isEmpty := by
  cases line with
  | nil => rfl
  | cons c line =>
    have hne : (!(c :: line).reverse.isEmpty) = true := by simp
    have hline : filledFrom (c :: line) [] = [(c :: line).reverse] := List.filter_cons_of_pos hne
    rw [hline, List.singleton_append]
    exact List.filter_cons_of_pos hne

theorem filledFrom_boundary (hb : isLineBoundary b = true) (line rest : List Char) :
    filledFrom line (b :: rest) = filledFrom line [] ++ filledFrom [] rest := by
  by_cases hpair : b = '\r' ∧ rest.head? = some '\n'
  · -- The line feed is read with the carriage return, where alone it would end an empty line.
    obtain ⟨rfl, hrest⟩ := hpair
    obtain ⟨more, rfl⟩ := List.head?_eq_some_iff.1 hrest
    have hempty : filledFrom [] ('\n' :: more) = filledFrom [] more := by
      rw [filledFrom, linesFrom_cons (by decide), if_pos (by decide), filter_reverse_cons]
      rfl
    rw [hempty, filledFrom, linesFrom_pair, filter_reverse_cons, ← filledFrom]
  · rw [filledFrom, linesFrom_single hb hpair, filter_reverse_cons, ← filledFrom]

theorem filledFrom_inside (hc : isLineBoundary c = false) (line rest : List Char) :
    filledFrom line (c :: rest) = filledFrom (c :: line) rest := by
  have hr : c ≠ '\r' := by
    rintro rfl
    exact absurd hc (by decide)
  rw [filledFrom, linesFrom_cons hr, hc]
  rfl

/-- A boundary cuts a text in two, whatever stands on its two sides. -/
theorem filledFrom_append (hb : isLineBoundary b = true) (line before rest : List Char) :
    filledFrom line (before ++ b :: rest) = filledFrom line before ++ filledFrom [] rest := by
  induction before generalizing line with
  | nil => exact filledFrom_boundary hb line rest
  | cons c before ih =>
    rw [List.cons_append]
    cases hc : isLineBoundary c with
    | true => rw [filledFrom_boundary hc, filledFrom_boundary hc, ih, List.append_assoc]
    | false => rw [filledFrom_inside hc, filledFrom_inside hc, ih]

theorem filledFrom_append_chars (before rest : List Char) (e : LineEnd) :
    filledFrom [] (before ++ e.chars ++ rest) = filledFrom [] before ++ filledFrom [] rest := by
  rcases e.chars_cases with ⟨b, hb, he⟩ | he
  · rw [he, List.append_assoc, List.singleton_append, filledFrom_append hb]
  · -- A carriage return and a line feed are two cuts with nothing between them.
    rw [he, List.append_assoc, List.cons_append, List.singleton_append, filledFrom_append (by decide),
      filledFrom_boundary (by decide)]
    rfl

end Filled

/-! ## Reports -/

theorem parseReport_eq_filterMap (text : String) :
    parseReport text = (filledFrom [] text.toList).filterMap fun line => Finding.ofLine? (stripChars line) := by
  rw [filledFrom, List.filterMap_filter, parseReport, lines]
  refine congrArg (List.filterMap · _) (funext fun line => ?_)
  cases line with
  | nil => rfl
  | cons c line => rfl

theorem parseReport_append (a b : String) (e : LineEnd) :
    parseReport (a ++ e.text ++ b) = parseReport a ++ parseReport b := by
  have hchars : (a ++ e.text ++ b).toList = a.toList ++ e.chars ++ b.toList := by
    rw [String.toList_append, String.toList_append, LineEnd.text, String.toList_ofList]
  simp only [parseReport_eq_filterMap, hchars, filledFrom_append_chars, List.filterMap_append]

theorem parseReport_eq_nil {line : String} (hline : Unbroken line.toList)
    (hnone : ∀ p : LineParts, ¬p.Spells (stripChars line.toList)) : parseReport line = [] := by
  by_cases hempty : line.toList = []
  · rw [parseReport, hempty]
    rfl
  · have hcut := Cut.last hline hempty
    rw [parseReport, hcut.lines_eq]
    exact List.filterMap_cons_none (Finding.ofLine?_eq_none_iff.2 hnone)

/-- What ends a line cuts a report in two that are read apart. So a line that is malformed, whose numbers are
too long or that breaks off leaves what the other lines say as it is. -/
theorem parseReport_line_local (a b : String) (e : LineEnd) :
    parseReport (a ++ e.text ++ b) = parseReport a ++ parseReport b ∧
    ∀ (line : String) (e' : LineEnd), Unbroken line.toList →
      (∀ p : LineParts, ¬p.Spells (stripChars line.toList)) →
      parseReport (a ++ e.text ++ line ++ e'.text ++ b) = parseReport a ++ parseReport b := by
  refine ⟨parseReport_append a b e, fun line e' hline hnone => ?_⟩
  rw [parseReport_append, parseReport_append, parseReport_eq_nil hline hnone, List.append_nil]

/-- A line that breaks off between two findings, with a line feed behind a carriage return at both of its ends. -/
theorem parseReport_line_local_broken_off :
    Unbroken "2:1:3: info: cut [co".toList ∧
    (∀ p : LineParts, ¬p.Spells (stripChars "2:1:3: info: cut [co".toList)) ∧
    parseReport ("1:1:2: error: a [b]\r" ++ LineEnd.lineFeed.text ++ "2:1:3: info: cut [co" ++
        LineEnd.carriageReturn.text ++ "\n3:1:1: info: c [d]") =
      [⟨0, 0, 1, .error, "a", "b", by decide⟩, ⟨2, 0, 0, .info, "c", "d", by decide⟩] := by
  have hline : Unbroken "2:1:3: info: cut [co".toList := by simp [Unbroken, isLineBoundary]
  have hnone : ∀ p : LineParts, ¬p.Spells (stripChars "2:1:3: info: cut [co".toList) :=
    Finding.ofLine?_eq_none_iff.1 (by decide +kernel)
  refine ⟨hline, hnone, ?_⟩
  rw [(parseReport_line_local _ _ _).2 _ .carriageReturn hline hnone]
  decide +kernel

end SqlTidy
