import SqlTidy.Proofs.Lives

/-!
# Two checks of a layout

The numbers of a layout are checked twice: when settings are made or changed, and when a layout is made.
Both times a number has to keep to the same bounds (`LayoutNumber.check`), but settings take a switch for
the number 0 or 1 and a layout takes none. The bounds of an indent refuse 0 and 1 anyway, so for an indent
the checks are one. The width of a line may be 1, so there is one value that settings let through and a
layout does not: a switch that is on (`layout_checks_part_at_switch`).
-/

namespace SqlTidy

open Entries

/-! ## Numbers in bounds -/

section Numbers

variable {v : Value} {lo hi n : Nat}

/-- The two readers of numbers differ in switches alone. -/
theorem readInt_eq_ok_iff {m : Int} :
    readInt v = .ok m ↔ readPlainInt v = .ok m ∨ ∃ b, v = .bool b ∧ m = if b then 1 else 0 := by
  cases v with
  | bool b => simp [readInt, readPlainInt, eq_comm]
  | _ => simp [readPlainInt]

theorem readPositive_readInt_iff : readPositive readInt v = .ok n ↔
    readPositive readPlainInt v = .ok n ∨ v = .bool true ∧ n = 1 := by
  simp only [readPositive_eq_ok_iff, readInt_eq_ok_iff]
  constructor
  · rintro ⟨hplain | ⟨b, rfl, hn⟩, hpos⟩
    · exact .inl ⟨hplain, hpos⟩
    · cases b with
      | false =>
        simp only [Bool.false_eq_true, if_false] at hn
        omega
      | true =>
        simp only [if_true] at hn
        exact .inr ⟨rfl, by omega⟩
  · rintro (⟨hplain, hpos⟩ | ⟨rfl, rfl⟩)
    · exact ⟨.inl hplain, hpos⟩
    · exact ⟨.inr ⟨true, rfl, rfl⟩, by omega⟩

theorem readBetween_readInt_iff (hlo : 2 ≤ lo) :
    readBetween lo hi readInt v = .ok n ↔ readBetween lo hi readPlainInt v = .ok n := by
  simp only [readBetween_eq_ok_iff, readInt_eq_ok_iff]
  constructor
  · rintro ⟨hplain | ⟨b, -, hn⟩, hbounds⟩
    · exact ⟨hplain, hbounds⟩
    · split at hn <;> omega
  · rintro ⟨hplain, hbounds⟩
    exact ⟨.inl hplain, hbounds⟩

end Numbers

/-! ## One number at a time -/

/-- A number that settings and layouts have in common, with the bounds that it is kept in. -/
structure LayoutNumber where
  name : String
  check : (Value → Except Fault Int) → Value → Except Fault Nat
  ofSettings : Settings → Nat
  ofLayout : Layout → Nat

namespace LayoutNumber

def width : LayoutNumber := ⟨"line_width", readPositive, Settings.lineWidth, Layout.lineWidth⟩

def indent : LayoutNumber := ⟨"indent", readBetween 2 4, Settings.indent, Layout.indent⟩

/-- Settings can be made from the value and store the number. -/
def MadeAs (f : LayoutNumber) (v : Value) (n : Nat) : Prop :=
  ∃ s, Settings.ofTable [(f.name, v)] = .ok s ∧ f.ofSettings s = n

/-- The settings can be given the value and store the number. -/
def AssignedAs (f : LayoutNumber) (s : Settings) (v : Value) (n : Nat) : Prop :=
  ∃ s', s.assign f.name v = .ok s' ∧ f.ofSettings s' = n

/-- A layout can be made from the value and stores the number. -/
def LaidAs (f : LayoutNumber) (v : Value) (n : Nat) : Prop :=
  ∃ l, Layout.ofTable [(f.name, v)] = .ok l ∧ f.ofLayout l = n

end LayoutNumber

theorem Layout.ofTable_eq_ok_iff {t : Table} {l : Layout} : Layout.ofTable t = .ok l ↔
    Yields (readPositive readPlainInt) 88 (get? t "line_width") l.lineWidth ∧
      Yields (readBetween 2 4 readPlainInt) 2 (get? t "indent") l.indent ∧
      Yields readBool true (get? t "uppercase_keywords") l.uppercaseKeywords := by
  simp only [Layout.ofTable, Checked.app_eq_ok_iff, field_eq_ok_iff, yields_ofFault_iff]
  constructor
  · rintro ⟨_, _, ⟨_, _, ⟨_, _, ⟨⟩, hwidth, rfl⟩, hindent, rfl⟩, hcase, rfl⟩
    exact ⟨hwidth, hindent, hcase⟩
  · rintro ⟨hwidth, hindent, hcase⟩
    exact ⟨_, _, ⟨_, _, ⟨_, _, rfl, hwidth, rfl⟩, hindent, rfl⟩, hcase, rfl⟩

namespace Settings

variable {s : Settings} {name : String} {v : Value}

theorem exists_assign {f : ScalarField} (hf : f ∈ scalarFields) {x : f.type} (h : f.read v = .ok x)
    (s : Settings) : ∃ s', s.assign f.name v = .ok s' ∧ f.get s' = x := by
  simp only [scalarFields, List.mem_cons, List.not_mem_nil, or_false] at hf
  rcases hf with rfl | rfl | rfl | rfl | rfl | rfl | rfl
  all_goals
    -- No name of a field is that of a note or a view, so what is left of the assignment is the reader.
    have hread := ofFault_eq_ok_iff.2 h
    exact ⟨_, congrArg (fun r => Except.mapError AssignError.invalid (Except.mapError (within _)
      (Except.map _ r))) hread, rfl⟩

/-- Settings that are made from one value are the default settings with that value. -/
theorem ofTable_of_changes (h : default.Changes name v s) (hname : name ∈ fieldNames) :
    ofTable [(name, v)] = .ok s := by
  refine ofTable_eq_ok_iff.2 ⟨by simpa using hname, fun f hf => ?_, ?_⟩
  · rw [get?_cons]
    split
    · next heq => exact (h.scalar f hf).1 heq
    · next hne => exact (h.scalar f hf).2 hne
  · rw [get?_cons]
    split
    · next heq => exact h.diagnostics.1 heq
    · next hne => exact h.diagnostics.2 hne

end Settings

namespace LayoutNumber

variable {f : LayoutNumber} {v : Value} {n : Nat}

theorem mem_scalarFields (hf : f = width ∨ f = indent) :
    ⟨Nat, f.name, f.check readInt, f.ofSettings⟩ ∈ scalarFields := by
  rcases hf with rfl | rfl <;> simp [scalarFields, width, indent]

theorem assignedAs_iff (hf : f = width ∨ f = indent) (s : Settings) :
    f.AssignedAs s v n ↔ f.check readInt v = .ok n := by
  constructor
  · rintro ⟨s', hs', rfl⟩
    exact ((Settings.changes_of_assign hs').scalar _ (mem_scalarFields hf)).1 rfl
  · exact fun h => Settings.exists_assign (mem_scalarFields hf) h s

theorem madeAs_iff (hf : f = width ∨ f = indent) : f.MadeAs v n ↔ f.check readInt v = .ok n := by
  constructor
  · rintro ⟨s, hs, rfl⟩
    have hyields := (Settings.ofTable_eq_ok_iff.1 hs).2.1 _ (mem_scalarFields hf)
    rw [get?_cons, if_pos rfl] at hyields
    exact hyields
  · intro h
    obtain ⟨s, hs, hn⟩ := (assignedAs_iff hf Settings.default).2 h
    have hname : f.name ∈ Settings.fieldNames := by
      rcases hf with rfl | rfl <;> simp [Settings.fieldNames, width, indent]
    exact ⟨s, Settings.ofTable_of_changes (Settings.changes_of_assign hs) hname, hn⟩

theorem laidAs_iff (hf : f = width ∨ f = indent) : f.LaidAs v n ↔ f.check readPlainInt v = .ok n := by
  simp only [LaidAs, Layout.ofTable_eq_ok_iff]
  rcases hf with rfl | rfl
  · constructor
    · rintro ⟨l, ⟨hwidth, -, -⟩, rfl⟩
      exact hwidth
    · intro h
      exact ⟨⟨n, 2, true⟩, ⟨h, rfl, rfl⟩, rfl⟩
  · constructor
    · rintro ⟨l, ⟨-, hindent, -⟩, rfl⟩
      exact hindent
    · intro h
      exact ⟨⟨88, n, true⟩, ⟨rfl, h, rfl⟩, rfl⟩

end LayoutNumber

/-! ## Whole tables -/

theorem Yields.imp {ε α : Type} {read read' : Value → Except ε α} {default x : α} {o : Option Value}
    (h : Yields read default o x) (hread : ∀ v, o = some v → read v = .ok x → read' v = .ok x) :
    Yields read' default o x := by
  cases o with
  | none => exact h
  | some v => exact hread v rfl h

/-- A table that settings are made from gives the layout of these settings, unless its width is a switch. -/
theorem Settings.ofTable_layout_iff {t : Table} {s : Settings} (hs : Settings.ofTable t = .ok s) :
    Layout.ofTable t = .ok s.layout ↔ get? t "line_width" ≠ some (.bool true) := by
  obtain ⟨-, hscalars, -⟩ := Settings.ofTable_eq_ok_iff.1 hs
  simp only [scalarFields, List.forall_mem_cons] at hscalars
  obtain ⟨-, hwidth, hindent, hcase, -⟩ := hscalars
  rw [Layout.ofTable_eq_ok_iff]
  constructor
  · rintro ⟨hlaid, -⟩ hswitch
    rw [hswitch] at hlaid
    cases hlaid
  · intro hswitch
    refine ⟨hwidth.imp fun v hv hread => ?_, hindent.imp fun v _ hread => ?_, hcase⟩
    · rcases readPositive_readInt_iff.1 hread with hplain | ⟨rfl, -⟩
      · exact hplain
      · exact absurd hv hswitch
    · exact (readBetween_readInt_iff (by omega)).1 hread

/-- The two checks of a layout. Settings take the same values for an indent as a layout does, and store the same
numbers. For the width of lines they also take a switch that is on, and store 1. An assignment takes what settings
can be made from. A table that settings are made from makes up the layout that they show, unless its width is that
switch. -/
theorem layout_checks_part_at_switch (v : Value) (n : Nat) :
    (LayoutNumber.width.MadeAs v n ↔ LayoutNumber.width.LaidAs v n ∨ v = .bool true ∧ n = 1) ∧
    (LayoutNumber.indent.MadeAs v n ↔ LayoutNumber.indent.LaidAs v n) ∧
    (∀ s : Settings, (LayoutNumber.width.AssignedAs s v n ↔ LayoutNumber.width.MadeAs v n) ∧
      (LayoutNumber.indent.AssignedAs s v n ↔ LayoutNumber.indent.MadeAs v n)) ∧
    ∀ (t : Table) (s : Settings), Settings.ofTable t = .ok s →
      (Layout.ofTable t = .ok s.layout ↔ get? t "line_width" ≠ some (.bool true)) := by
  refine ⟨?_, ?_, fun s => ⟨?_, ?_⟩, fun t s => Settings.ofTable_layout_iff⟩
  · rw [LayoutNumber.madeAs_iff (.inl rfl), LayoutNumber.laidAs_iff (.inl rfl)]
    exact readPositive_readInt_iff
  · rw [LayoutNumber.madeAs_iff (.inr rfl), LayoutNumber.laidAs_iff (.inr rfl)]
    exact readBetween_readInt_iff (by omega)
  · rw [LayoutNumber.assignedAs_iff (.inl rfl), LayoutNumber.madeAs_iff (.inl rfl)]
  · rw [LayoutNumber.assignedAs_iff (.inr rfl), LayoutNumber.madeAs_iff (.inr rfl)]

/-- A switch for the width of lines: settings take it, and a layout refuses it. -/
theorem layout_checks_part_at_switch_on :
    Settings.ofTable [("line_width", .bool true)] = .ok { Settings.default with lineWidth := 1 } ∧
    Layout.ofTable [("line_width", .bool true)] =
      .error [⟨["line_width"], .refused "expected an integer, not a boolean"⟩] ∧
    LayoutNumber.width.MadeAs (.bool true) 1 ∧
    Layout.ofTable [("line_width", .bool true)] ≠ .ok { Settings.default with lineWidth := 1 }.layout := by
  have hmade : Settings.ofTable [("line_width", .bool true)] = .ok { Settings.default with lineWidth := 1 } := by
    decide +kernel
  obtain ⟨hwidth, -, -, htable⟩ := layout_checks_part_at_switch (.bool true) 1
  exact ⟨hmade, by decide +kernel, hwidth.2 (.inr ⟨rfl, rfl⟩), fun hlaid => (htable _ _ hmade).1 hlaid rfl⟩

end SqlTidy
