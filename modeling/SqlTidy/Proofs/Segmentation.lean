import SqlTidy.Proofs.Dependence
import SqlTidy.Proofs.ReportGrammar

/-!
# Cutting a text at its references

A text is cut into characters that stand for themselves and references (`Segmented`). A name without braces
goes as far as its characters do, a name in braces goes up to the first closing brace, and a dollar sign stands
for itself only where no reference starts. There is one way to cut a text, the one that `segments` finds
(`segmented_iff`).

Replacing the references in a value means to replace those of every text in it, and nothing else
(`Value.expands_iff`).
-/

namespace SqlTidy

open Entries

/-! ## References -/

/-- A reference can be read in front of a text: a name without braces ends there, a name in braces does not
hold the closing one. -/
def Readable (name : List Char) : Bool → List Char → Prop
  | false, after => name ≠ [] ∧ (∀ c ∈ name, isWordChar c = true) ∧
      ∀ c, after.head? = some c → isWordChar c = false
  | true, _ => name ≠ [] ∧ '\x7d' ∉ name

/-- A reference starts at a dollar sign with these characters behind it. -/
def StartsReference (behind : List Char) : Prop :=
  ∃ name braced after, '$' :: behind = (Segment.reference name braced).source ++ after ∧
    Readable name braced after

/-- What may be cut off in front of a text. -/
def Segment.Fits (after : List Char) : Segment → Prop
  | .plain c => c = '$' → ¬StartsReference after
  | .reference name braced => Readable name braced after

/-- Segments that a text can be cut into. -/
inductive Segmented : List Char → List Segment → Prop
  | nil : Segmented [] []
  | cons {s : Segment} {after : List Char} {more : List Segment} : s.Fits after → Segmented after more →
      Segmented (s.source ++ after) (s :: more)

variable {cs after name : List Char} {s : Segment} {braced : Bool}

theorem takeWhile_append_eq {p : Char → Bool} {before rest : List Char} (hbefore : ∀ c ∈ before, p c = true)
    (hrest : ∀ c, rest.head? = some c → p c = false) : (before ++ rest).takeWhile p = before := by
  rw [List.takeWhile_append_of_pos hbefore]
  cases rest with
  | nil => simp
  | cons c rest => simp [hrest c rfl]

theorem reference?_eq_some (h : reference? cs = some (s, after)) : ∃ name braced, s = .reference name braced ∧
    '$' :: cs = s.source ++ after ∧ Readable name braced after := by
  unfold reference? at h
  split at h
  · next c name htake =>
    cases h
    have hword : ∀ d ∈ c :: name, isWordChar d = true := by
      rw [← htake]
      exact fun d hd => List.all_eq_true.1 List.all_takeWhile d hd
    refine ⟨_, false, rfl, ?_, by simp, hword, fun d hd => head?_dropWhile_eq_some hd⟩
    rw [Segment.source, ← htake, List.cons_append, List.takeWhile_append_dropWhile]
  · split at h
    · next rest _ =>
      split at h
      · next c name d after' htake hdrop =>
        cases h
        have hname : '\x7d' ∉ c :: name := by
          rw [← htake]
          intro hm
          have := List.all_eq_true.1 List.all_takeWhile _ hm
          simp at this
        have hd : d = '\x7d' := by
          have := @head?_dropWhile_eq_some (· != '\x7d') rest d (by rw [hdrop]; rfl)
          simpa using this
        have hrest := @List.takeWhile_append_dropWhile _ (· != '\x7d') rest
        rw [htake, hdrop, hd] at hrest
        refine ⟨_, true, rfl, ?_, by simp, hname⟩
        simp [Segment.source, ← hrest]
      · cases h
    · cases h

theorem reference?_of_readable (h : '$' :: cs = (Segment.reference name braced).source ++ after)
    (hread : Readable name braced after) : reference? cs = some (.reference name braced, after) := by
  cases braced with
  | false =>
    obtain ⟨hne, hword, hafter⟩ := hread
    obtain rfl : cs = name ++ after := by simpa [Segment.source] using h
    unfold reference?
    rw [takeWhile_append_eq hword hafter, dropWhile_append_eq hword hafter]
    cases name with
    | nil => exact absurd rfl hne
    | cons c name => rfl
  | true =>
    obtain ⟨hne, hfree⟩ := hread
    obtain rfl : cs = '\x7b' :: (name ++ '\x7d' :: after) := by simpa [Segment.source] using h
    have hbrace : isWordChar '\x7b' = false := by decide +kernel
    have hname : ∀ c ∈ name, (c != '\x7d') = true := by
      intro c hc
      simpa using fun heq : c = '\x7d' => hfree (heq ▸ hc)
    have hclose : ∀ c, ('\x7d' :: after).head? = some c → (c != '\x7d') = false := by simp
    unfold reference?
    rw [List.takeWhile_cons_of_neg (by simp [hbrace])]
    simp only [takeWhile_append_eq hname hclose, dropWhile_append_eq hname hclose]
    cases name with
    | nil => exact absurd rfl hne
    | cons c name => rfl

theorem startsReference_iff : StartsReference cs ↔ reference? cs ≠ none := by
  constructor
  · rintro ⟨name, braced, after, h, hread⟩
    simp [reference?_of_readable h hread]
  · intro h
    obtain ⟨⟨s, after⟩, hs⟩ := Option.ne_none_iff_exists'.1 h
    obtain ⟨name, braced, rfl, hsource, hread⟩ := reference?_eq_some hs
    exact ⟨name, braced, after, hsource, hread⟩

/-! ## One way to cut a text -/

theorem segments_of_reference (h : reference? cs = some (s, after)) :
    segments ('$' :: cs) = s :: segments after := by
  rw [segments]
  split
  · next h' =>
    rw [h] at h'
    cases h'
    rfl
  · next h' =>
    rw [h] at h'
    cases h'

theorem segments_of_none (h : reference? cs = none) : segments ('$' :: cs) = .plain '$' :: segments cs := by
  rw [segments]
  split
  · next h' =>
    rw [h] at h'
    cases h'
  · rfl

theorem segments_of_ne {c : Char} (h : c ≠ '$') (cs : List Char) :
    segments (c :: cs) = .plain c :: segments cs := by
  rw [segments]
  exact h

theorem segmented_segments (cs : List Char) : Segmented cs (segments cs) := by
  fun_induction segments cs with
  | case1 => exact .nil
  | case2 rest s after h ih =>
    obtain ⟨name, braced, rfl, hsource, hread⟩ := reference?_eq_some h
    rw [hsource]
    exact .cons hread ih
  | case3 rest h ih =>
    have hfits : (Segment.plain '$').Fits rest := fun _ hstarts => startsReference_iff.1 hstarts h
    exact .cons hfits ih
  | case4 c rest hc ih =>
    have hfits : (Segment.plain c).Fits rest := fun heq => absurd heq hc
    exact .cons hfits ih

theorem Segmented.eq_segments {ss : List Segment} (h : Segmented cs ss) : ss = segments cs := by
  induction h with
  | nil => rw [segments]
  | @cons s after more hfits _ ih =>
    subst ih
    cases s with
    | plain c =>
      by_cases hc : c = '$'
      · subst hc
        have hnone : reference? after = none :=
          Decidable.of_not_not fun hsome => hfits rfl (startsReference_iff.2 hsome)
        exact (segments_of_none hnone).symm
      · exact (segments_of_ne hc after).symm
    | reference name braced =>
      obtain ⟨rest, hrest⟩ : ∃ rest, (Segment.reference name braced).source ++ after = '$' :: rest := by
        cases braced <;> exact ⟨_, rfl⟩
      rw [hrest]
      exact (segments_of_reference (reference?_of_readable hrest.symm hfits)).symm

/-- There is one way to cut a text. -/
theorem segmented_iff {ss : List Segment} : Segmented cs ss ↔ ss = segments cs :=
  ⟨Segmented.eq_segments, fun h => h ▸ segmented_segments cs⟩

/-! ## Values -/

/-- What comes in the place of a segment: the value of the variable it refers to, if that is set. -/
def Segment.replaced (env : Environment) (s : Segment) : List Char :=
  (s.name?.bind (get? env)).elim s.source String.toList

theorem Segment.replaced_eq (env : Environment) (s : Segment) : s.replaced env = s.expand env := by
  cases s with
  | plain c => rfl
  | reference name braced =>
    rw [replaced, expand, name?, Option.bind_some]
    cases get? env (String.ofList name) <;> rfl

theorem toList_expandText (env : Environment) (text : String) :
    (expandText env text).toList = (segments text.toList).flatMap (Segment.replaced env) := by
  rw [expandText, String.toList_ofList, funext (Segment.replaced_eq env)]

mutual

/-- A value and what it comes to with the references in its texts replaced. Lists keep their length, tables
their keys in their order, and what is no text stays as it is. -/
inductive Value.Expands (env : Environment) : Value → Value → Prop
  | text {text text' : String} {ss : List Segment} : Segmented text.toList ss →
      text'.toList = ss.flatMap (Segment.replaced env) → Value.Expands env (.text text) (.text text')
  | list {items items' : List Value} : ItemsExpand env items items' →
      Value.Expands env (.list items) (.list items')
  | table {es es' : List (String × Value)} : EntriesExpand env es es' →
      Value.Expands env (.table es) (.table es')
  | null : Value.Expands env .null .null
  | bool (b : Bool) : Value.Expands env (.bool b) (.bool b)
  | int (n : Int) : Value.Expands env (.int n) (.int n)
  | float (x : Double) : Value.Expands env (.float x) (.float x)
  | date (d : Date) : Value.Expands env (.date d) (.date d)
  | time (t : TimeOfDay) : Value.Expands env (.time t) (.time t)
  | moment (m : Moment) : Value.Expands env (.moment m) (.moment m)

inductive ItemsExpand (env : Environment) : List Value → List Value → Prop
  | nil : ItemsExpand env [] []
  | cons {v v' : Value} {items items' : List Value} : v.Expands env v' → ItemsExpand env items items' →
      ItemsExpand env (v :: items) (v' :: items')

inductive EntriesExpand (env : Environment) : List (String × Value) → List (String × Value) → Prop
  | nil : EntriesExpand env [] []
  | cons {key : String} {v v' : Value} {es es' : List (String × Value)} : v.Expands env v' →
      EntriesExpand env es es' → EntriesExpand env ((key, v) :: es) ((key, v') :: es')

end

section Expansion

variable {env : Environment}

mutual

theorem Value.expands_expand (env : Environment) : ∀ v : Value, v.Expands env (v.expand env)
  | .text text => by
    rw [Value.expand]
    exact .text (segmented_segments _) (toList_expandText env text)
  | .list items => by
    rw [Value.expand]
    exact .list (itemsExpand_expandItems env items)
  | .table es => by
    rw [Value.expand]
    exact .table (entriesExpand_expandEntries env es)
  | .null => .null
  | .bool b => .bool b
  | .int n => .int n
  | .float x => .float x
  | .date d => .date d
  | .time t => .time t
  | .moment m => .moment m

theorem itemsExpand_expandItems (env : Environment) : ∀ items : List Value,
    ItemsExpand env items (expandItems env items)
  | [] => .nil
  | v :: items => .cons (v.expands_expand env) (itemsExpand_expandItems env items)

theorem entriesExpand_expandEntries (env : Environment) : ∀ es : List (String × Value),
    EntriesExpand env es (expandEntries env es)
  | [] => .nil
  | (_, v) :: es => .cons (v.expands_expand env) (entriesExpand_expandEntries env es)

end

mutual

theorem Value.Expands.eq_expand : ∀ {v w : Value}, v.Expands env w → w = v.expand env
  | .text text, _, .text hs ht => by
    rw [hs.eq_segments, ← toList_expandText] at ht
    rw [Value.expand, String.toList_inj.1 ht]
  | .list _, _, .list h => by rw [Value.expand, h.eq_expandItems]
  | .table _, _, .table h => by rw [Value.expand, h.eq_expandEntries]
  | _, _, .null | _, _, .bool _ | _, _, .int _ | _, _, .float _ | _, _, .date _ | _, _, .time _
  | _, _, .moment _ => by rw [Value.expand]

theorem ItemsExpand.eq_expandItems : ∀ {items items' : List Value}, ItemsExpand env items items' →
    items' = expandItems env items
  | _, _, .nil => rfl
  | _, _, .cons hv h => by rw [expandItems, hv.eq_expand, h.eq_expandItems]

theorem EntriesExpand.eq_expandEntries : ∀ {es es' : List (String × Value)}, EntriesExpand env es es' →
    es' = expandEntries env es
  | _, _, .nil => rfl
  | _, _, .cons hv h => by rw [expandEntries, hv.eq_expand, h.eq_expandEntries]

end

theorem Value.expands_iff {v w : Value} : v.Expands env w ↔ w = v.expand env :=
  ⟨Value.Expands.eq_expand, fun h => h ▸ v.expands_expand env⟩

/-! ## Nothing to replace -/

theorem Segmented.flatMap_source {ss : List Segment} (h : Segmented cs ss) :
    ss.flatMap Segment.source = cs := by
  induction h with
  | nil => rfl
  | cons _ _ ih => rw [List.flatMap_cons, ih]

theorem Segment.replaced_nil (s : Segment) : s.replaced [] = s.source := by
  cases s <;> rfl

theorem expandText_nil (text : String) : expandText [] text = text := by
  rw [← String.toList_inj, toList_expandText, funext Segment.replaced_nil]
  exact (segmented_segments text.toList).flatMap_source

mutual

theorem Value.expand_nil : ∀ v : Value, v.expand [] = v
  | .text text => by rw [Value.expand, expandText_nil]
  | .list items => by rw [Value.expand, expandItems_nil]
  | .table es => by rw [Value.expand, expandEntries_nil]
  | .null | .bool _ | .int _ | .float _ | .date _ | .time _ | .moment _ => by rw [Value.expand]

theorem expandItems_nil : ∀ items : List Value, expandItems [] items = items
  | [] => rfl
  | v :: items => by rw [expandItems, v.expand_nil, expandItems_nil items]

theorem expandEntries_nil : ∀ es : List (String × Value), expandEntries [] es = es
  | [] => rfl
  | (key, v) :: es => by rw [expandEntries, v.expand_nil, expandEntries_nil es]

end

/-- A text is cut in one way, and comes to its segments with the references to set variables replaced. A value
has all its texts replaced in this way and nothing else, so it stays as it is where no variable is set that it
refers to. -/
theorem expand_replaces_references (env : Environment) :
    (∀ text : String, ∃ ss, Segmented text.toList ss ∧ (∀ ss', Segmented text.toList ss' → ss' = ss) ∧
      (expandText env text).toList = ss.flatMap (Segment.replaced env) ∧
      textReferences text = ss.filterMap Segment.name?) ∧
    (∀ v w : Value, v.Expands env w ↔ w = v.expand env) ∧
    (∀ v : Value, (∀ name ∈ v.references, get? env name = none) → v.expand env = v) := by
  refine ⟨fun text => ?_, fun v w => Value.expands_iff, fun v h => ?_⟩
  · exact ⟨segments text.toList, segmented_segments _, fun ss' h => h.eq_segments,
      toList_expandText env text, rfl⟩
  · have hagree : Agree v.references env [] := h
    rw [Value.expand_congr hagree, v.expand_nil]

/-- What a variable holds is not looked at again, a reference in braces may hold a dollar sign, and one that
is not closed is none. -/
theorem expand_replaces_references_dollars :
    Value.expand [("A", "$B"), ("B", "x")] (.table [("$B", .list [.text "$$A$\x7b$A\x7d$\x7bB", .int 2])]) =
      .table [("$B", .list [.text "$$B$\x7b$A\x7d$\x7bB", .int 2])] ∧
    Value.expand [("B", "x")] (.text "$$A$\x7b$A\x7d$\x7bB") = .text "$$A$\x7b$A\x7d$\x7bB" := by
  have hsegments : Segmented "$$A$\x7b$A\x7d$\x7bB".toList [.plain '$', .reference ['A'] false,
      .reference ['$', 'A'] true, .plain '$', .plain '\x7b', .plain 'B'] :=
    segmented_iff.2 (by decide +kernel)
  constructor
  · refine (((expand_replaces_references [("A", "$B"), ("B", "x")]).2.1 _ _).1 ?_).symm
    exact .table (.cons (.list (.cons (.text hsegments (by decide +kernel)) (.cons (.int 2) .nil))) .nil)
  · exact (expand_replaces_references [("B", "x")]).2.2 _ (by decide +kernel)

end Expansion

end SqlTidy
