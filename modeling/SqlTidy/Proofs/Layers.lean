import SqlTidy.Proofs.NamedEntries
import SqlTidy.Proofs.Outcome
import SqlTidy.Settings.Load

/-!
# Layers of settings

A layer is a table whose keys may be spelled in several ways. `Table.setting?` says what a layer sets a
key to, `Table.flag?` what it sets a category of findings to. Once its keys are in one spelling, a layer
gives just that (`normalised_of_normaliseKeys`), and layers laid over one another give what the highest
of them sets (`Merged.overlay`).

A value laid over another is the upper one, except where both are tables. For settings that are no tables
the exception does not matter: a merged table is refused like any other (`Value.Alike`).
-/

namespace SqlTidy

open Entries

/-- The entries of a table; other values have none. -/
def Value.entries : Value → Entries Value
  | .table es => es
  | _ => []

namespace Table

/-- What a layer sets a key to: the value of its last entry that has this key in the one spelling. -/
def setting? (t : Table) (key : String) : Option Value :=
  (t.reverse.find? fun e => snakeCase e.1 = key).map (·.2)

/-- The switches in the tables of categories of a layer, in their order. -/
def switches (t : Table) : Entries Value :=
  t.flatMap fun e => if snakeCase e.1 = diagnosticsKey then e.2.entries else []

/-- What a layer sets a category to: its last switch in the tables, or else, for unused variables, the
former switch. -/
def flag? (t : Table) (code : String) : Option Value :=
  (last? t.switches code).or (if code = unusedVariable then t.setting? formerUnusedKey else none)

/-- Everything that stands for the categories is a table. -/
def TablesOnly (t : Table) : Prop :=
  ∀ e ∈ t, snakeCase e.1 = diagnosticsKey → ∃ es, e.2 = .table es

@[simp]
theorem setting?_nil (key : String) : setting? [] key = none := rfl

@[simp]
theorem switches_nil : switches [] = [] := rfl

theorem setting?_cons (e : String × Value) (t : Table) (key : String) :
    setting? (e :: t) key = (setting? t key).or (if snakeCase e.1 = key then some e.2 else none) := by
  by_cases h : snakeCase e.1 = key <;>
    simp [setting?, List.find?_append, h]

theorem setting?_eq_none_iff {t : Table} {key : String} :
    setting? t key = none ↔ ∀ e ∈ t, snakeCase e.1 ≠ key := by
  simp [setting?, List.find?_eq_none]

theorem switches_cons (e : String × Value) (t : Table) :
    switches (e :: t) = (if snakeCase e.1 = diagnosticsKey then e.2.entries else []) ++ switches t := rfl

end Table

theorem former_ne_diagnostics : formerUnusedKey ≠ diagnosticsKey := by decide

/-! ## One spelling -/

theorem tableAt_put_self (t : Table) (key : String) (es : Entries Value) :
    tableAt (put t key (.table es)) key = es := by
  simp [tableAt, get?_put]

theorem tableAt_put_of_ne {key key' : String} (h : key ≠ key') (t : Table) (v : Value) :
    tableAt (put t key' v) key = tableAt t key := by
  simp [tableAt, get?_put, h]

namespace KeyFold

variable {origin : String} {acc acc' acc'' : KeyFold} {e : String × Value} {t : Table}

/-- What taking in one entry can do. -/
theorem add_cases (h : add origin acc e = .ok acc') :
    (snakeCase e.1 = formerUnusedKey ∧ acc' = { acc with former := some e.2 }) ∨
      (snakeCase e.1 = diagnosticsKey ∧ ∃ es, e.2 = .table es ∧
        acc' = { acc with
          table := put acc.table diagnosticsKey
            (.table (putAll (tableAt acc.table diagnosticsKey) es)) }) ∨
      (snakeCase e.1 ≠ formerUnusedKey ∧ snakeCase e.1 ≠ diagnosticsKey ∧
        acc' = { acc with table := put acc.table (snakeCase e.1) e.2 }) := by
  rw [add] at h
  split at h
  · next hf =>
    cases h
    exact .inl ⟨hf, rfl⟩
  next hf =>
  split at h
  · next hd =>
    split at h
    · next es hes =>
      cases h
      exact .inr (.inl ⟨hd, es, hes, by rw [hd]⟩)
    · cases h
  · next hd =>
    cases h
    exact .inr (.inr ⟨hf, hd, rfl⟩)

theorem add_isOk_iff : (∃ acc', add origin acc e = .ok acc') ↔
    (snakeCase e.1 = diagnosticsKey → ∃ es, e.2 = .table es) := by
  constructor
  · rintro ⟨acc', h⟩ hd
    rcases add_cases h with ⟨hf, -⟩ | ⟨-, es, hes, -⟩ | ⟨-, hd', -⟩
    · exact absurd (hf.symm.trans hd) former_ne_diagnostics
    · exact ⟨es, hes⟩
    · exact absurd hd hd'
  · intro h
    rw [add]
    split
    · exact ⟨_, rfl⟩
    split
    · next hd =>
      obtain ⟨es, hes⟩ := h hd
      rw [hes]
      exact ⟨_, rfl⟩
    · exact ⟨_, rfl⟩

/-- A table in the making in which every key stands once, and every category of findings too. -/
structure Sound (acc : KeyFold) : Prop where
  nodup : (names acc.table).Nodup
  table : ∀ v, get? acc.table diagnosticsKey = some v → ∃ d, v = .table d ∧ (names d).Nodup

theorem sound_empty : Sound ⟨[], none⟩ := ⟨by simp, by simp⟩

theorem Sound.nodup_tableAt (h : acc.Sound) : (names (tableAt acc.table diagnosticsKey)).Nodup := by
  rw [tableAt]
  split
  · next d hd =>
    obtain ⟨d', heq, hnodup⟩ := h.table _ hd
    cases heq
    exact hnodup
  · simp

theorem Sound.add (h : acc.Sound) (hadd : add origin acc e = .ok acc') : acc'.Sound := by
  rcases add_cases hadd with ⟨-, rfl⟩ | ⟨-, es, -, rfl⟩ | ⟨-, hd, rfl⟩
  · exact ⟨h.nodup, h.table⟩
  · refine ⟨nodup_put h.nodup _ _, fun v hv => ?_⟩
    rw [get?_put, if_pos rfl] at hv
    cases hv
    exact ⟨_, rfl, nodup_putAll h.nodup_tableAt es⟩
  · refine ⟨nodup_put h.nodup _ _, fun v hv => h.table v ?_⟩
    rwa [get?_put, if_neg (Ne.symm hd)] at hv

/-- What taking in the entries of a layer does: later entries count before earlier ones. -/
structure Takes (acc : KeyFold) (t : Table) (acc' : KeyFold) : Prop where
  former : acc'.former = (t.setting? formerUnusedKey).or acc.former
  get?_former : get? acc'.table formerUnusedKey = get? acc.table formerUnusedKey
  setting : ∀ key, key ≠ diagnosticsKey → key ≠ formerUnusedKey →
    get? acc'.table key = (t.setting? key).or (get? acc.table key)
  switches : ∀ code, get? (tableAt acc'.table diagnosticsKey) code =
    (last? t.switches code).or (get? (tableAt acc.table diagnosticsKey) code)

theorem takes_nil (acc : KeyFold) : acc.Takes [] acc :=
  ⟨rfl, rfl, fun _ _ _ => rfl, fun _ => rfl⟩

theorem takes_of_add (h : add origin acc e = .ok acc') : acc.Takes [e] acc' := by
  have hsetting : ∀ key, Table.setting? [e] key = if snakeCase e.1 = key then some e.2 else none := by
    intro key
    rw [Table.setting?_cons, Table.setting?_nil, Option.none_or]
  have hswitches : Table.switches [e] = if snakeCase e.1 = diagnosticsKey then e.2.entries else [] := by
    rw [Table.switches_cons, Table.switches_nil, List.append_nil]
  rcases add_cases h with ⟨hf, rfl⟩ | ⟨hd, es, hes, rfl⟩ | ⟨hf, hd, rfl⟩
  · refine ⟨by simp [hsetting, hf], rfl, fun key _ hkey => ?_, fun code => ?_⟩
    · simp [hsetting, hf, Ne.symm hkey]
    · simp [hswitches, hf, former_ne_diagnostics]
  · refine ⟨?_, ?_, fun key hkey _ => ?_, fun code => ?_⟩
    · simp [hsetting, hd, Ne.symm former_ne_diagnostics]
    · simp [get?_put, former_ne_diagnostics]
    · simp [hsetting, hd, get?_put, hkey, Ne.symm hkey]
    · rw [tableAt_put_self, get?_putAll, hswitches, if_pos hd, hes]
      rfl
  · refine ⟨by simp [hsetting, hf], by simp [get?_put, Ne.symm hf], fun key _ _ => ?_, fun code => ?_⟩
    · rw [hsetting, get?_put]
      by_cases hk : key = snakeCase e.1
      · simp [hk]
      · simp [hk, Ne.symm hk]
    · rw [tableAt_put_of_ne (Ne.symm hd), hswitches, if_neg hd]
      rfl

theorem Takes.cons (h : acc.Takes [e] acc') (h' : acc'.Takes t acc'') : acc.Takes (e :: t) acc'' where
  former := by
    rw [h'.former, h.former, ← Option.or_assoc, Table.setting?_cons e [], Table.setting?_nil,
      Option.none_or, ← Table.setting?_cons]
  get?_former := h'.get?_former.trans h.get?_former
  setting key hd hf := by
    rw [h'.setting key hd hf, h.setting key hd hf, ← Option.or_assoc, Table.setting?_cons e [],
      Table.setting?_nil, Option.none_or, ← Table.setting?_cons]
  switches code := by
    rw [h'.switches, h.switches, ← Option.or_assoc, ← last?_append, Table.switches_cons e [],
      Table.switches_nil, List.append_nil, ← Table.switches_cons]

theorem foldlM_cons_of_ok (h : add origin acc e = .ok acc') (t : Table) :
    (e :: t).foldlM (add origin) acc = t.foldlM (add origin) acc' := by
  rw [List.foldlM_cons, h]
  rfl

theorem foldlM_cons_of_error {error : ConfigError} (h : add origin acc e = .error error) (t : Table) :
    (e :: t).foldlM (add origin) acc = .error error := by
  rw [List.foldlM_cons, h]
  rfl

theorem foldlM_takes (h : t.foldlM (add origin) acc = .ok acc') :
    acc.Takes t acc' ∧ (acc.Sound → acc'.Sound) := by
  induction t generalizing acc with
  | nil =>
    cases h
    exact ⟨takes_nil _, id⟩
  | cons e t ih =>
    cases hadd : add origin acc e with
    | error error =>
      rw [foldlM_cons_of_error hadd] at h
      cases h
    | ok acc₁ =>
      rw [foldlM_cons_of_ok hadd] at h
      obtain ⟨htakes, hsound⟩ := ih h
      exact ⟨(takes_of_add hadd).cons htakes, fun hacc => hsound (hacc.add hadd)⟩

theorem foldlM_isOk_iff : (∃ acc', t.foldlM (add origin) acc = .ok acc') ↔ t.TablesOnly := by
  induction t generalizing acc with
  | nil =>
    refine iff_of_true ⟨acc, rfl⟩ ?_
    simp [Table.TablesOnly]
  | cons e t ih =>
    have hstep := @add_isOk_iff origin acc e
    cases hadd : add origin acc e with
    | error error =>
      rw [foldlM_cons_of_error hadd]
      refine iff_of_false (by simp) fun h => ?_
      obtain ⟨acc₁, h⟩ := hstep.2 (h e List.mem_cons_self)
      rw [hadd] at h
      cases h
    | ok acc₁ =>
      rw [foldlM_cons_of_ok hadd, ih]
      exact ⟨fun h => List.forall_mem_cons.2 ⟨hstep.1 ⟨acc₁, hadd⟩, h⟩,
        fun h => (List.forall_mem_cons.1 h).2⟩

end KeyFold

/-- A layer and what it comes to with its keys in one spelling: every key stands once, the former switch
is gone, and the categories have a table if the layer speaks of any. -/
structure Normalised (t n : Table) : Prop where
  nodup : (names n).Nodup
  setting : ∀ key, key ≠ diagnosticsKey → key ≠ formerUnusedKey → get? n key = t.setting? key
  former : get? n formerUnusedKey = none
  table : ∀ v, get? n diagnosticsKey = some v →
    ∃ d, v = .table d ∧ (names d).Nodup ∧ ∀ code, get? d code = t.flag? code
  silent : get? n diagnosticsKey = none → ∀ code, t.flag? code = none

theorem KeyFold.Takes.normalised {t : Table} {acc : KeyFold} (h : KeyFold.Takes ⟨[], none⟩ t acc)
    (hs : acc.Sound) : Normalised t acc.finish := by
  have hformer : acc.former = t.setting? formerUnusedKey := h.former.trans Option.or_none
  have hswitch : ∀ code, get? (tableAt acc.table diagnosticsKey) code = last? t.switches code :=
    fun code => (h.switches code).trans Option.or_none
  have hsetting : ∀ key, key ≠ diagnosticsKey → key ≠ formerUnusedKey →
      get? acc.table key = t.setting? key :=
    fun key hd hf => (h.setting key hd hf).trans Option.or_none
  rw [finish]
  cases hacc : acc.former with
  | none =>
    have hflag : ∀ code, t.flag? code = get? (tableAt acc.table diagnosticsKey) code := by
      intro code
      rw [Table.flag?, ← hformer, hacc, ite_self, Option.or_none, hswitch]
    refine ⟨hs.nodup, hsetting, h.get?_former, fun v hv => ?_, fun hnone code => ?_⟩
    · obtain ⟨d, rfl, hd⟩ := hs.table v hv
      refine ⟨d, rfl, hd, fun code => ?_⟩
      simp [hflag, tableAt, hv]
    · simp [hflag, tableAt, hnone]
  | some w =>
    refine ⟨nodup_put hs.nodup _ _, fun key hd hf => ?_, ?_, fun v hv => ?_, fun hnone => ?_⟩
    · rw [get?_put, if_neg hd, hsetting key hd hf]
    · rw [get?_put, if_neg former_ne_diagnostics]
      exact h.get?_former
    · rw [get?_put, if_pos rfl] at hv
      cases hv
      refine ⟨_, rfl, nodup_putNew hs.nodup_tableAt _ _, fun code => ?_⟩
      rw [get?_putNew, hswitch, Table.flag?, ← hformer, hacc]
    · rw [get?_put, if_pos rfl] at hnone
      cases hnone

theorem normalised_of_normaliseKeys {origin : String} {t n : Table} (h : normaliseKeys origin t = .ok n) :
    Normalised t n := by
  rw [normaliseKeys] at h
  cases hfold : t.foldlM (KeyFold.add origin) ⟨[], none⟩ with
  | error error =>
    rw [hfold] at h
    cases h
  | ok acc =>
    rw [hfold] at h
    cases h
    obtain ⟨htakes, hsound⟩ := KeyFold.foldlM_takes hfold
    exact htakes.normalised (hsound KeyFold.sound_empty)

theorem normaliseKeys_isOk_iff {origin : String} {t : Table} :
    (∃ n, normaliseKeys origin t = .ok n) ↔ t.TablesOnly := by
  rw [← @KeyFold.foldlM_isOk_iff origin ⟨[], none⟩ t, normaliseKeys]
  cases t.foldlM (KeyFold.add origin) ⟨[], none⟩ <;> simp [Except.map]

/-! ## Layers over one another -/

/-- Holds for values that are the same unless both are tables. -/
inductive Value.Alike : Value → Value → Prop
  | refl (v : Value) : Alike v v
  | table (es es' : Entries Value) : Alike (.table es) (.table es')

/-- A value laid over another is the upper one, except where both are tables. -/
theorem Value.alike_onto (w : Value) : ∀ o : Option Value, (w.onto o).Alike w
  | none => .refl w
  | some v => by
    rw [onto, Value.overlay.eq_def]
    split
    · exact .table _ _
    · exact .refl _

/-- What the highest layer that sets a key sets it to. The highest layer comes first. -/
def effective (layers : List Table) (key : String) : Option Value := layers.findSome? (·.setting? key)

/-- What the highest layer that speaks of a category sets it to. -/
def effectiveFlag (layers : List Table) (code : String) : Option Value := layers.findSome? (·.flag? code)

theorem effective_cons (t : Table) (layers : List Table) (key : String) :
    effective (t :: layers) key = (t.setting? key).or (effective layers key) := by
  rw [effective, List.findSome?_cons]
  cases t.setting? key <;> rfl

theorem effectiveFlag_cons (t : Table) (layers : List Table) (code : String) :
    effectiveFlag (t :: layers) code = (t.flag? code).or (effectiveFlag layers code) := by
  rw [effectiveFlag, List.findSome?_cons]
  cases t.flag? code <;> rfl

theorem effective_eq_none_iff {layers : List Table} {key : String} :
    effective layers key = none ↔ ∀ t ∈ layers, ∀ e ∈ t, snakeCase e.1 ≠ key := by
  simp only [effective, List.findSome?_eq_none_iff, Table.setting?_eq_none_iff]

/-- A table that layers come to. -/
structure Merged (layers : List Table) (m : Table) : Prop where
  setting : ∀ key, key ≠ diagnosticsKey → key ≠ formerUnusedKey →
    Option.Rel Value.Alike (get? m key) (effective layers key)
  former : get? m formerUnusedKey = none
  table : ∀ v, get? m diagnosticsKey = some v → ∃ d, v = .table d ∧ (names d).Nodup ∧
    ∀ code, Option.Rel Value.Alike (get? d code) (effectiveFlag layers code)
  silent : get? m diagnosticsKey = none → ∀ code, effectiveFlag layers code = none

theorem merged_nil : Merged [] [] where
  setting _ _ _ := .none
  former := rfl
  table _ h := by cases h
  silent _ _ := rfl

theorem rel_refl : ∀ o : Option Value, Option.Rel Value.Alike o o
  | none => .none
  | some v => .some (.refl v)

theorem rel_eq_none_iff {o o' : Option Value} (h : Option.Rel Value.Alike o o') : o = none ↔ o' = none := by
  cases h <;> simp

/-- Entries that are laid over others count where they say something. -/
theorem rel_overlayEntries {base top : Entries Value} {key : String} {o o' : Option Value}
    (hn : (names top).Nodup) (htop : get? top key = o) (hbase : Option.Rel Value.Alike (get? base key) o') :
    Option.Rel Value.Alike (get? (overlayEntries base top) key) (o.or o') := by
  rw [get?_overlayEntries hn, htop]
  cases o with
  | none => exact hbase
  | some w => exact .some (w.alike_onto _)

/-- One more layer over those below it. -/
theorem Merged.overlay {layers : List Table} {m t n : Table} (hm : Merged layers m) (h : Normalised t n) :
    Merged (t :: layers) (overlayEntries m n) where
  setting key hd hf := by
    rw [effective_cons]
    exact rel_overlayEntries h.nodup (h.setting key hd hf) (hm.setting key hd hf)
  former := by
    rw [get?_overlayEntries h.nodup, h.former]
    exact hm.former
  table v hv := by
    rw [get?_overlayEntries h.nodup] at hv
    simp only [effectiveFlag_cons]
    cases hn : get? n diagnosticsKey with
    | none =>
      -- This layer says nothing about the categories.
      rw [hn] at hv
      obtain ⟨d, hd, hnodup, hflag⟩ := hm.table v hv
      refine ⟨d, hd, hnodup, fun code => ?_⟩
      rw [h.silent hn code]
      exact hflag code
    | some w =>
      obtain ⟨top, rfl, htop, htopFlag⟩ := h.table w hn
      rw [hn] at hv
      cases hbase : get? m diagnosticsKey with
      | none =>
        rw [hbase] at hv
        cases hv
        refine ⟨top, rfl, htop, fun code => ?_⟩
        rw [hm.silent hbase code, Option.or_none, htopFlag]
        exact rel_refl _
      | some u =>
        obtain ⟨base, rfl, hbaseNodup, hbaseFlag⟩ := hm.table u hbase
        rw [hbase] at hv
        cases hv
        exact ⟨overlayEntries base top, by rw [Value.onto, Value.overlay], nodup_overlayEntries hbaseNodup top,
          fun code => rel_overlayEntries htop (htopFlag code) (hbaseFlag code)⟩
  silent hnone code := by
    rw [get?_overlayEntries h.nodup] at hnone
    cases hn : get? n diagnosticsKey with
    | none =>
      rw [hn] at hnone
      rw [effectiveFlag_cons, h.silent hn code, hm.silent hnone code]
      rfl
    | some w =>
      rw [hn] at hnone
      cases hnone

end SqlTidy
