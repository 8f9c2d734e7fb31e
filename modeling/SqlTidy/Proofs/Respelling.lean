import SqlTidy.Proofs.Layers
import SqlTidy.Proofs.LowerCase

/-!
# Tables in one spelling

What stands under a key of a table in one spelling depends on what the layer sets that key to, and for the
categories also on their tables and the former switch (`get?_of_normaliseKeys`). Where no two keys of a layer
are spellings of the same one, the order of its entries plays no part in that (`Table.setting?_of_perm`,
`Table.categories?_of_perm`).

A table in one spelling is left as it is, and its keys stay in their order
(`Table.OneSpelling.normaliseKeys_eq`).
-/

namespace SqlTidy

open Entries

namespace Table

variable {t t' : Table} {key : String} {v : Value}

/-- The entries of a layer with their keys in the one spelling. -/
def respelled (t : Table) : Table := t.map fun e => (snakeCase e.1, e.2)

/-- What a layer comes to under the key of the categories: the union of its tables for them, with the former
switch where they leave its category open. -/
def categories? (t : Table) : Option Value :=
  match t.setting? formerUnusedKey, t.setting? diagnosticsKey with
  | none, none => none
  | none, some _ => some (.table (ofList t.switches))
  | some v, _ => some (.table (putNew (ofList t.switches) unusedVariable v))

theorem setting?_eq_last? (t : Table) (key : String) : t.setting? key = last? t.respelled key := by
  induction t with
  | nil => rfl
  | cons e t ih =>
    have hcons : respelled (e :: t) = (snakeCase e.1, e.2) :: respelled t := rfl
    simp only [setting?_cons, hcons, last?_cons, ih, eq_comm]

theorem categories?_eq_none_iff :
    t.categories? = none ↔ t.setting? formerUnusedKey = none ∧ t.setting? diagnosticsKey = none := by
  rw [categories?]
  split <;> simp [*]

/-! ## Layers without two spellings of a key -/

theorem setting?_eq_some_iff (h : (names t.respelled).Nodup) :
    t.setting? key = some v ↔ (key, v) ∈ t.respelled := by
  rw [setting?_eq_last?, last?_eq_get? h]
  exact ⟨mem_of_get?, get?_of_mem h⟩

theorem setting?_of_perm (h : (names t.respelled).Nodup) (hp : t'.Perm t) (key : String) :
    t'.setting? key = t.setting? key := by
  have hp' : t'.respelled.Perm t.respelled := hp.map _
  have h' : (names t'.respelled).Nodup := (hp'.map _).nodup_iff.2 h
  refine Option.ext fun v => ?_
  rw [setting?_eq_some_iff h, setting?_eq_some_iff h', hp'.mem_iff]

/-- There is at most one table for the categories. -/
theorem switches_eq_entries (h : (names t.respelled).Nodup) :
    t.switches = (t.setting? diagnosticsKey).elim [] Value.entries := by
  induction t with
  | nil => rfl
  | cons e t ih =>
    obtain ⟨hnew, hnodup⟩ : snakeCase e.1 ∉ names (respelled t) ∧ (names (respelled t)).Nodup :=
      List.nodup_cons.1 h
    rw [switches_cons, setting?_cons, ih hnodup]
    split
    · next hd =>
      have hnone : setting? t diagnosticsKey = none := by
        rw [setting?_eq_last?, last?_eq_get? hnodup]
        exact get?_eq_none_iff.2 (hd ▸ hnew)
      simp [hnone]
    · simp

theorem categories?_of_perm (h : (names t.respelled).Nodup) (hp : t'.Perm t) :
    t'.categories? = t.categories? := by
  have h' : (names t'.respelled).Nodup := ((hp.map _).map _).nodup_iff.2 h
  simp only [categories?, switches_eq_entries h, switches_eq_entries h', setting?_of_perm h hp]

theorem tablesOnly_of_perm (hp : t'.Perm t) : t'.TablesOnly ↔ t.TablesOnly :=
  forall_congr' fun _ => imp_congr_left hp.mem_iff

end Table

/-! ## What stands under a key -/

namespace KeyFold

variable {origin : String} {acc acc' : KeyFold} {e : String × Value} {t : Table} {error : ConfigError}

theorem add_eq_error (h : add origin acc e = .error error) : error = .diagnosticsNotTable origin := by
  rw [add] at h
  split at h
  · cases h
  split at h
  · split at h
    · cases h
    · cases h
      rfl
  · cases h

theorem foldlM_eq_error (h : t.foldlM (add origin) acc = .error error) :
    error = .diagnosticsNotTable origin := by
  induction t generalizing acc with
  | nil => cases h
  | cons e t ih =>
    cases hadd : add origin acc e with
    | error error' =>
      rw [foldlM_cons_of_error hadd] at h
      cases h
      exact add_eq_error hadd
    | ok acc' =>
      rw [foldlM_cons_of_ok hadd] at h
      exact ih h

/-- One entry joins its switches to those for the categories, whose key is there from the first table on. -/
theorem categories_of_add (h : add origin acc e = .ok acc') :
    tableAt acc'.table diagnosticsKey = putAll (tableAt acc.table diagnosticsKey) (Table.switches [e]) ∧
      (get? acc'.table diagnosticsKey = none ↔
        snakeCase e.1 ≠ diagnosticsKey ∧ get? acc.table diagnosticsKey = none) := by
  have hswitches : Table.switches [e] = if snakeCase e.1 = diagnosticsKey then e.2.entries else [] := by
    rw [Table.switches_cons, Table.switches_nil, List.append_nil]
  rcases add_cases h with ⟨hf, rfl⟩ | ⟨hd, es, hes, rfl⟩ | ⟨-, hd, rfl⟩
  · have hd : snakeCase e.1 ≠ diagnosticsKey := hf ▸ former_ne_diagnostics
    simp [hswitches, hd, putAll]
  · simp [hswitches, hd, hes, tableAt_put_self, get?_put, Value.entries]
  · simp [hswitches, hd, tableAt_put_of_ne (Ne.symm hd), get?_put, Ne.symm hd, putAll]

theorem foldlM_categories (h : t.foldlM (add origin) acc = .ok acc') :
    tableAt acc'.table diagnosticsKey = putAll (tableAt acc.table diagnosticsKey) t.switches ∧
      (get? acc'.table diagnosticsKey = none ↔
        t.setting? diagnosticsKey = none ∧ get? acc.table diagnosticsKey = none) := by
  induction t generalizing acc with
  | nil =>
    cases h
    simp [putAll]
  | cons e t ih =>
    cases hadd : add origin acc e with
    | error error =>
      rw [foldlM_cons_of_error hadd] at h
      cases h
    | ok acc₁ =>
      rw [foldlM_cons_of_ok hadd] at h
      obtain ⟨hstep, hstepNone⟩ := categories_of_add hadd
      obtain ⟨htable, hnone⟩ := ih h
      constructor
      · have hcons : Table.switches (e :: t) = Table.switches [e] ++ Table.switches t := by
          simp [Table.switches_cons]
        rw [htable, hstep, hcons, putAll, putAll, putAll, List.foldl_append]
      · rw [hnone, hstepNone, Table.setting?_eq_none_iff, Table.setting?_eq_none_iff, List.forall_mem_cons,
          and_assoc, and_left_comm]

theorem get?_finish_diagnostics (h : t.foldlM (add origin) ⟨[], none⟩ = .ok acc) :
    get? acc.finish diagnosticsKey = t.categories? := by
  obtain ⟨htakes, hsound⟩ := foldlM_takes h
  obtain ⟨htable, hnone⟩ := foldlM_categories h
  have hformer : acc.former = t.setting? formerUnusedKey := htakes.former.trans Option.or_none
  have hunion : tableAt acc.table diagnosticsKey = ofList t.switches := htable
  rw [finish, Table.categories?, hformer]
  cases t.setting? formerUnusedKey with
  | some v => simp only [get?_put, if_pos, hunion]
  | none =>
    dsimp only
    cases hd : t.setting? diagnosticsKey with
    | none => exact hnone.2 ⟨hd, rfl⟩
    | some v =>
      cases hget : get? acc.table diagnosticsKey with
      | none => exact absurd ((hnone.1 hget).1.symm.trans hd) (by simp)
      | some w =>
        obtain ⟨d, rfl, -⟩ := (hsound sound_empty).table w hget
        rw [← hunion, tableAt, hget]

end KeyFold

theorem normaliseKeys_eq_error {origin : String} {t : Table} {error : ConfigError}
    (h : normaliseKeys origin t = .error error) : error = .diagnosticsNotTable origin := by
  rw [normaliseKeys] at h
  cases hfold : t.foldlM (KeyFold.add origin) ⟨[], none⟩ with
  | ok acc =>
    rw [hfold] at h
    cases h
  | error error' =>
    rw [hfold] at h
    cases h
    exact KeyFold.foldlM_eq_error hfold

theorem get?_of_normaliseKeys {origin : String} {t n : Table} (h : normaliseKeys origin t = .ok n)
    (key : String) : get? n key = if key = diagnosticsKey then t.categories?
      else if key = formerUnusedKey then none else t.setting? key := by
  have hn := normalised_of_normaliseKeys h
  split
  · next hd =>
    subst hd
    obtain ⟨acc, hfold, rfl⟩ := map_eq_ok_iff.1 h
    exact KeyFold.get?_finish_diagnostics hfold
  next hd =>
  split
  · next hf => exact hf ▸ hn.former
  · next hf => exact hn.setting key hd hf

/-- Outcomes that are the same mapping or the same error. -/
inductive SameReading : Except ConfigError Table → Except ConfigError Table → Prop
  | ok {n n' : Table} (h : ∀ key, get? n key = get? n' key) : SameReading (.ok n) (.ok n')
  | error (error : ConfigError) : SameReading (.error error) (.error error)

theorem sameReading_of_perm (origin : String) {t t' : Table} (h : (names t.respelled).Nodup) (hp : t'.Perm t) :
    SameReading (normaliseKeys origin t') (normaliseKeys origin t) := by
  have hiff : (∃ n, normaliseKeys origin t' = .ok n) ↔ ∃ n, normaliseKeys origin t = .ok n := by
    rw [normaliseKeys_isOk_iff, normaliseKeys_isOk_iff, Table.tablesOnly_of_perm hp]
  cases hn : normaliseKeys origin t with
  | ok n =>
    obtain ⟨n', hn'⟩ := hiff.2 ⟨n, hn⟩
    rw [hn']
    refine .ok fun key => ?_
    rw [get?_of_normaliseKeys hn, get?_of_normaliseKeys hn', Table.categories?_of_perm h hp,
      Table.setting?_of_perm h hp]
  | error error =>
    cases hn' : normaliseKeys origin t' with
    | ok n' =>
      obtain ⟨n, hok⟩ := hiff.1 ⟨n', hn'⟩
      rw [hn] at hok
      cases hok
    | error error' =>
      rw [normaliseKeys_eq_error hn, normaliseKeys_eq_error hn']
      exact .error _

/-- A table in one spelling as a mapping. Layers are refused only for categories that are no table; otherwise
the last spelling of a key counts, and the categories come from all their tables and the former switch. -/
theorem normaliseKeys_as_mapping (origin : String) (t : Table) :
    ((∃ error, normaliseKeys origin t = .error error) ↔
        ∃ e ∈ t, snakeCase e.1 = diagnosticsKey ∧ ∀ es, e.2 ≠ .table es) ∧
      (∀ error, normaliseKeys origin t = .error error → error = .diagnosticsNotTable origin) ∧
      (∀ n, normaliseKeys origin t = .ok n →
        (names n).Nodup ∧
        (∀ key, key ≠ diagnosticsKey → key ≠ formerUnusedKey → get? n key = t.setting? key) ∧
        formerUnusedKey ∉ names n ∧
        (diagnosticsKey ∈ names n ↔
          ∃ e ∈ t, snakeCase e.1 = diagnosticsKey ∨ snakeCase e.1 = formerUnusedKey) ∧
        ∀ v, get? n diagnosticsKey = some v →
          ∃ d, v = .table d ∧ (names d).Nodup ∧ ∀ code, get? d code = t.flag? code) ∧
      ((names t.respelled).Nodup →
        ∀ t' : Table, t'.Perm t → SameReading (normaliseKeys origin t') (normaliseKeys origin t)) := by
  refine ⟨?_, fun error h => normaliseKeys_eq_error h, fun n h => ?_,
    fun h t' hp => sameReading_of_perm origin h hp⟩
  · have hrefused : (∃ error, normaliseKeys origin t = .error error) ↔
        ¬∃ n, normaliseKeys origin t = .ok n := by
      cases normaliseKeys origin t <;> simp
    rw [hrefused, normaliseKeys_isOk_iff]
    simp [Table.TablesOnly]
  · have hn := normalised_of_normaliseKeys h
    have hpresent : diagnosticsKey ∈ names n ↔
        ∃ e ∈ t, snakeCase e.1 = diagnosticsKey ∨ snakeCase e.1 = formerUnusedKey := by
      have hget := get?_of_normaliseKeys h diagnosticsKey
      rw [if_pos rfl] at hget
      rw [← Decidable.not_iff_not, ← get?_eq_none_iff, hget, Table.categories?_eq_none_iff,
        Table.setting?_eq_none_iff, Table.setting?_eq_none_iff]
      grind
    exact ⟨hn.nodup, hn.setting, get?_eq_none_iff.1 hn.former, hpresent, hn.table⟩

theorem normaliseKeys_as_mapping_reversed :
    let t : Table := [("lineWidth", .int 80), ("enable-unusedVariable-diagnostics", .bool false),
      ("DIAGNOSTICS", .table [("duplicate-variable", .bool true)])]
    (names t.respelled).Nodup ∧ t.reverse.Perm t ∧
      SameReading (normaliseKeys "file" t.reverse) (normaliseKeys "file" t) := by
  intro t
  have hnodup : (names t.respelled).Nodup := by decide +kernel
  exact ⟨hnodup, List.reverse_perm t,
    (normaliseKeys_as_mapping "file" t).2.2.2 hnodup t.reverse (List.reverse_perm t)⟩

/-! ## The spelling settles -/

/-- Every key stands once and in the one spelling, the former switch is gone, and the categories are a table in
which every one stands once. -/
structure Table.OneSpelling (n : Table) : Prop where
  nodup : (names n).Nodup
  spelled : ∀ key ∈ names n, snakeCase key = key
  former : formerUnusedKey ∉ names n
  categories : ∀ v, get? n diagnosticsKey = some v → ∃ d, v = .table d ∧ (names d).Nodup

theorem oneSpelling_of_normaliseKeys {origin : String} {t n : Table} (h : normaliseKeys origin t = .ok n) :
    n.OneSpelling := by
  have hn := normalised_of_normaliseKeys h
  have hformer : formerUnusedKey ∉ names n := get?_eq_none_iff.1 hn.former
  refine ⟨hn.nodup, fun key hkey => ?_, hformer, fun v hv => ?_⟩
  · by_cases hd : key = diagnosticsKey
    · subst hd
      decide +kernel
    have hf : key ≠ formerUnusedKey := by
      rintro rfl
      exact hformer hkey
    have hsome : t.setting? key ≠ none := by
      rw [← hn.setting key hd hf]
      intro hnone
      exact get?_eq_none_iff.1 hnone hkey
    -- The key is the one spelling of some key of the layer.
    obtain ⟨e, -, rfl⟩ : ∃ e ∈ t, snakeCase e.1 = key := by
      simpa [Table.setting?_eq_none_iff] using hsome
    exact snakeCase_snakeCase e.1
  · obtain ⟨d, hd, hnodup, -⟩ := hn.table v hv
    exact ⟨d, hd, hnodup⟩

namespace Entries

variable {α : Type} {es new : Entries α} {n : String}

theorem put_of_not_mem (h : n ∉ names es) (v : α) : put es n v = es ++ [(n, v)] := by
  induction es with
  | nil => rfl
  | cons e es ih =>
    obtain ⟨hne, hnot⟩ := not_or.1 (fun hmem => h (List.mem_cons.2 hmem))
    rw [put, if_neg (Ne.symm hne), ih hnot, List.cons_append]

theorem not_mem_of_nodup {e : String × α} (h : (names (es ++ e :: new)).Nodup) : e.1 ∉ names es := by
  intro hmem
  rw [names, List.map_append, List.nodup_append] at h
  exact h.2.2 e.1 hmem e.1 List.mem_cons_self rfl

theorem putAll_of_nodup (h : (names (es ++ new)).Nodup) : putAll es new = es ++ new := by
  induction new generalizing es with
  | nil => simp [putAll]
  | cons e new ih =>
    have hsplit : es ++ e :: new = (es ++ [e]) ++ new := by simp
    have hstep : putAll es (e :: new) = putAll (put es e.1 e.2) new := rfl
    rw [hstep, put_of_not_mem (not_mem_of_nodup h), hsplit, ih (hsplit ▸ h)]

end Entries

/-- Reading on in a table in one spelling, every entry is put behind those before it. -/
theorem KeyFold.foldlM_of_oneSpelling (origin : String) {before after : Table}
    (h : Table.OneSpelling (before ++ after)) :
    after.foldlM (add origin) ⟨before, none⟩ = .ok ⟨before ++ after, none⟩ := by
  induction after generalizing before with
  | nil => simp [pure, Except.pure]
  | cons e after ih =>
    have hsplit : before ++ e :: after = (before ++ [e]) ++ after := by simp
    have hmem : e.1 ∈ names (before ++ e :: after) := by simp [names]
    have hnew : e.1 ∉ names before := not_mem_of_nodup h.nodup
    have hformer : e.1 ≠ formerUnusedKey := by
      intro heq
      exact h.former (heq ▸ hmem)
    have hstep : add origin ⟨before, none⟩ e = .ok ⟨before ++ [e], none⟩ := by
      rw [add, h.spelled e.1 hmem, if_neg hformer]
      split
      · next hd =>
        have hget : get? (before ++ e :: after) diagnosticsKey = some e.2 := by
          rw [get?_append, ← hd, get?_eq_none_iff.2 hnew, get?_cons, if_pos rfl]
          rfl
        obtain ⟨d, hes, hnodup⟩ := h.categories e.2 hget
        have htable : tableAt before e.1 = [] := by
          rw [tableAt, get?_eq_none_iff.2 hnew]
        have hunion : putAll [] d = d := putAll_of_nodup hnodup
        rw [htable, hes]
        simp only [hunion, put_of_not_mem hnew, ← hes]
      · rw [put_of_not_mem hnew]
    rw [foldlM_cons_of_ok hstep, hsplit, ih (hsplit ▸ h)]

theorem Table.OneSpelling.normaliseKeys_eq {n : Table} (h : n.OneSpelling) (origin : String) :
    normaliseKeys origin n = .ok n := by
  rw [normaliseKeys, @KeyFold.foldlM_of_oneSpelling origin [] n h]
  rfl

/-- Bringing a table to one spelling a second time changes nothing, not even the order of its keys. The tables
that stay as they are are those in one spelling. -/
theorem normaliseKeys_settles :
    (∀ key, snakeCase (snakeCase key) = snakeCase key) ∧
      (∀ origin origin' t n, normaliseKeys origin t = .ok n → normaliseKeys origin' n = .ok n) ∧
      ∀ origin n, normaliseKeys origin n = .ok n ↔ n.OneSpelling :=
  ⟨snakeCase_snakeCase, fun _ origin' _ _ h => (oneSpelling_of_normaliseKeys h).normaliseKeys_eq origin',
    fun origin _ => ⟨oneSpelling_of_normaliseKeys, fun h => h.normaliseKeys_eq origin⟩⟩

/-- The former switch comes out as a category, behind the keys before it, and is read as one again. -/
theorem normaliseKeys_settles_former :
    let t : Table := [("Auto-Build", .bool true), ("enableUnusedVariableDiagnostics", .bool false)]
    let n : Table := [("auto_build", .bool true), (diagnosticsKey, .table [(unusedVariable, .bool false)])]
    normaliseKeys "file" t = .ok n ∧ normaliseKeys "again" n = .ok n := by
  intro t n
  have h : normaliseKeys "file" t = .ok n := by
    have hbuild : snakeCase "Auto-Build" = "auto_build" := by decide +kernel
    have hformer : snakeCase "enableUnusedVariableDiagnostics" = formerUnusedKey := by decide +kernel
    simp only [t, n, normaliseKeys, List.foldlM, KeyFold.add, hbuild, hformer]
    rfl
  exact ⟨h, normaliseKeys_settles.2.1 "file" "again" t n h⟩

end SqlTidy
