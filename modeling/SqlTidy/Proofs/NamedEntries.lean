import SqlTidy.Value

/-!
# Entries by name

Looking a name up in entries after names were given values: the last value given counts
(`get?_putAll`), and every name stands in the entries once (`nodup_put`). Entries that are laid over
others keep those that they do not mention (`get?_overlayEntries`), and the order of names too
(`names_overlayEntries`).
-/

namespace SqlTidy

namespace Entries

variable {α : Type} {es new : Entries α} {n m : String} {v : α}

/-- The value of the last entry with a name. -/
def last? (es : Entries α) (name : String) : Option α := get? es.reverse name

@[simp]
theorem get?_nil : get? ([] : Entries α) m = none := rfl

theorem get?_cons (e : String × α) (es : Entries α) (m : String) :
    get? (e :: es) m = if m = e.1 then some e.2 else get? es m := by
  obtain ⟨n, v⟩ := e
  by_cases h : m = n
  · simp [get?, h]
  · simp [get?, List.lookup_cons, beq_false_of_ne h, h]

theorem get?_append (es es' : Entries α) (m : String) :
    get? (es ++ es') m = (get? es m).or (get? es' m) := by
  induction es with
  | nil => simp
  | cons e es ih =>
    rw [List.cons_append, get?_cons, get?_cons, ih]
    split <;> simp

@[simp]
theorem last?_nil : last? ([] : Entries α) m = none := rfl

theorem last?_append (es es' : Entries α) (m : String) :
    last? (es ++ es') m = (last? es' m).or (last? es m) := by
  rw [last?, List.reverse_append, get?_append]
  rfl

theorem last?_cons (e : String × α) (es : Entries α) (m : String) :
    last? (e :: es) m = (last? es m).or (if m = e.1 then some e.2 else none) := by
  have hlast : last? [e] m = if m = e.1 then some e.2 else none := get?_cons e [] m
  rw [← List.singleton_append, last?_append, hlast]

theorem get?_put (es : Entries α) (n : String) (v : α) (m : String) :
    get? (put es n v) m = if m = n then some v else get? es m := by
  induction es with
  | nil => rw [put, get?_cons]
  | cons e es ih =>
    obtain ⟨k, w⟩ := e
    rw [put]
    split
    · next h =>
      subst h
      simp only [get?_cons]
      split <;> rfl
    · next h =>
      simp only [get?_cons, ih]
      by_cases hk : m = k
      · rw [if_pos hk, if_pos hk, if_neg (hk ▸ h)]
      · rw [if_neg hk, if_neg hk]

/-- The last of several values counts. -/
theorem get?_putAll (es new : Entries α) (m : String) :
    get? (putAll es new) m = (last? new m).or (get? es m) := by
  induction new generalizing es with
  | nil => simp [putAll]
  | cons e new ih =>
    have hstep : putAll es (e :: new) = putAll (put es e.1 e.2) new := rfl
    rw [hstep, ih, get?_put, last?_cons]
    cases last? new m with
    | some w => rfl
    | none => by_cases h : m = e.1 <;> simp [h]

theorem get?_putNew (es : Entries α) (n : String) (v : α) (m : String) :
    get? (putNew es n v) m = (get? es m).or (if m = n then some v else none) := by
  rw [putNew]
  by_cases h : m = n
  · subst h
    cases hm : get? es m <;> simp [hm, get?_put]
  · split <;> simp [get?_put, h]

@[simp]
theorem names_nil : names ([] : Entries α) = [] := rfl

@[simp]
theorem names_cons (e : String × α) (es : Entries α) : names (e :: es) = e.1 :: names es := rfl

theorem get?_eq_none_iff : get? es m = none ↔ m ∉ names es := by
  induction es with
  | nil => simp
  | cons e es ih =>
    rw [get?_cons]
    split
    · next h => simp [h]
    · next h => simpa [h] using ih

theorem names_put (es : Entries α) (n : String) (v : α) :
    names (put es n v) = if n ∈ names es then names es else names es ++ [n] := by
  induction es with
  | nil => rfl
  | cons e es ih =>
    obtain ⟨k, w⟩ := e
    rw [put]
    split
    · next h => simp [h]
    · next h =>
      have hn : ¬n = k := fun hnk => h hnk.symm
      simp only [names_cons, List.mem_cons, hn, false_or, ih]
      split <;> rfl

/-- Names stay where they are, and new ones come behind them. -/
theorem prefix_names_put (es : Entries α) (n : String) (v : α) : names es <+: names (put es n v) := by
  rw [names_put]
  split
  · exact List.prefix_rfl
  · exact List.prefix_append _ _

theorem prefix_names_putAll (es new : Entries α) : names es <+: names (putAll es new) := by
  induction new generalizing es with
  | nil => exact List.prefix_rfl
  | cons e new ih => exact (prefix_names_put es e.1 e.2).trans (ih (put es e.1 e.2))

/-- A name that is given a value stands in the entries once. -/
theorem nodup_put (h : (names es).Nodup) (n : String) (v : α) : (names (put es n v)).Nodup := by
  rw [names_put]
  split
  · exact h
  · next hn =>
    refine List.nodup_append.2 ⟨h, by simp, fun a ha b hb hab => hn ?_⟩
    rwa [← List.mem_singleton.1 hb, ← hab]

theorem nodup_putAll (h : (names es).Nodup) (new : Entries α) : (names (putAll es new)).Nodup := by
  induction new generalizing es with
  | nil => exact h
  | cons e new ih => exact ih (nodup_put h e.1 e.2)

theorem nodup_putNew (h : (names es).Nodup) (n : String) (v : α) : (names (putNew es n v)).Nodup := by
  rw [putNew]
  split
  · exact h
  · exact nodup_put h n v

/-- Where every name stands once, the last entry with a name is the only one. -/
theorem last?_eq_get? (h : (names es).Nodup) (m : String) : last? es m = get? es m := by
  induction es with
  | nil => rfl
  | cons e es ih =>
    have hnodup := List.nodup_cons.1 h
    rw [last?_cons, get?_cons, ih hnodup.2]
    split
    · next hm =>
      subst hm
      rw [get?_eq_none_iff.2 hnodup.1]
      rfl
    · simp

theorem get?_of_mem (h : (names es).Nodup) (hm : (n, v) ∈ es) : get? es n = some v := by
  induction es with
  | nil => cases hm
  | cons e es ih =>
    have hnodup := List.nodup_cons.1 h
    rw [get?_cons]
    rcases List.mem_cons.1 hm with rfl | hm
    · rw [if_pos rfl]
    · rw [if_neg, ih hnodup.2 hm]
      rintro rfl
      exact hnodup.1 (List.mem_map.2 ⟨(e.1, v), hm, rfl⟩)

theorem mem_of_get? (h : get? es n = some v) : (n, v) ∈ es := by
  induction es with
  | nil => cases h
  | cons e es ih =>
    rw [get?_cons] at h
    split at h
    · next hn =>
      subst hn
      cases h
      exact List.mem_cons_self
    · exact List.mem_cons_of_mem e (ih h)

/-- Entries with the same names in the same order are the same if every name has the same value. -/
theorem ext_get? {es es' : Entries α} (hnodup : (names es).Nodup)
    (hnames : names es = names es') (hget : ∀ name, get? es name = get? es' name) : es = es' := by
  induction es generalizing es' with
  | nil => exact (List.map_eq_nil_iff.1 hnames.symm).symm
  | cons e es ih =>
    cases es' with
    | nil => cases hnames
    | cons e' es' =>
      rw [names_cons] at hnodup
      rw [names_cons, names_cons, List.cons.injEq] at hnames
      obtain ⟨hfirst, hrest⟩ := hnames
      obtain ⟨hmem, hnodup⟩ := List.nodup_cons.1 hnodup
      have hvalue : some e.2 = some e'.2 := by
        have h := hget e.1
        rwa [get?_cons, if_pos rfl, get?_cons, if_pos hfirst] at h
      have hbehind : es = es' := by
        refine ih hnodup hrest fun name => ?_
        by_cases hname : name = e.1
        · -- The first name stands in neither rest.
          rw [hname, get?_eq_none_iff.2 hmem, get?_eq_none_iff.2 (hrest ▸ hmem)]
        · have h := hget name
          rwa [get?_cons, if_neg hname, get?_cons, if_neg (hfirst ▸ hname)] at h
      rw [Prod.ext hfirst (Option.some.inj hvalue), hbehind]

end Entries

/-! ## Overlays -/

section Overlay

open Entries

variable {base top : List (String × Value)}

/-- A value laid over what is there, if anything is. -/
def Value.onto (w : Value) : Option Value → Value
  | some v => v.overlay w
  | none => w

theorem overlayEntries_cons (base : List (String × Value)) (e : String × Value) :
    overlayEntries base (e :: top) =
      overlayEntries (put base e.1 (e.2.onto (get? base e.1))) top := by
  rw [overlayEntries]
  cases get? base e.1 <;> rfl

/-- Entries that are laid over others keep what they do not mention. -/
theorem get?_overlayEntries (h : (names top).Nodup) (base : List (String × Value)) (key : String) :
    get? (overlayEntries base top) key =
      match get? top key with
      | none => get? base key
      | some w => some (w.onto (get? base key)) := by
  induction top generalizing base with
  | nil => simp [overlayEntries]
  | cons e top ih =>
    have hnodup := List.nodup_cons.1 h
    rw [overlayEntries_cons, ih hnodup.2, get?_cons, get?_put]
    by_cases hk : key = e.1
    · subst hk
      have hnone : get? top e.1 = none := get?_eq_none_iff.2 hnodup.1
      simp only [hnone, if_true]
    · simp only [if_neg hk]

theorem nodup_overlayEntries (h : (names base).Nodup) (top : List (String × Value)) :
    (names (overlayEntries base top)).Nodup := by
  induction top generalizing base with
  | nil => exact h
  | cons e top ih =>
    rw [overlayEntries_cons]
    exact ih (nodup_put h _ _)

/-- The names of the entries below come first, then the new ones in their order. -/
theorem names_overlayEntries (h : (names top).Nodup) (base : List (String × Value)) :
    names (overlayEntries base top) = names base ++ (names top).filter (· ∉ names base) := by
  induction top generalizing base with
  | nil => simp [overlayEntries]
  | cons e top ih =>
    rw [names_cons] at h
    obtain ⟨hmem, hnodup⟩ := List.nodup_cons.1 h
    rw [overlayEntries_cons, ih hnodup, names_put, names_cons, List.filter_cons]
    by_cases he : e.1 ∈ names base
    · simp [he]
    · have hrest : (names top).filter (· ∉ names base ++ [e.1]) = (names top).filter (· ∉ names base) := by
        refine List.filter_congr fun key hkey => ?_
        have hne : key ≠ e.1 := fun h => hmem (h ▸ hkey)
        simp [hne]
      rw [if_neg he, if_pos (by simpa using he), hrest, List.append_assoc, List.singleton_append]

theorem overlayEntries_nil (h : (names top).Nodup) : overlayEntries [] top = top := by
  refine ext_get? (nodup_overlayEntries (by simp) top) ?_ fun key => ?_
  · rw [names_overlayEntries h]
    simp
  · rw [get?_overlayEntries h]
    cases get? top key <;> rfl

end Overlay

end SqlTidy
