import SqlTidy.Proofs.NamedEntries

/-!
# Overlays path by path

A path of keys leads through tables to a value (`Value.at?`). What an overlay has at a path depends only on
what the two values have there (`Value.at?_overlay`): where the upper one has a value, that is laid over the
lower one's; where it has none, the lower one's is kept, unless the upper one has something on the way that
cannot be entered (`Value.bars`) and so hides all that was behind it.

All this is about tables in which every key stands once, at every depth (`Value.KeysOnce`). An overlay of such
tables is one again, and one of them laid over itself is the same (`Value.overlay_self`).
-/

namespace SqlTidy

open Entries

namespace Value

variable {u v w : Value} {key : String} {path rest : List String} {a b es : Entries Value}

def isTable : Value → Bool
  | .table _ => true
  | _ => false

/-- The value at the end of a path of keys. -/
def at? : Value → List String → Option Value
  | v, [] => some v
  | .table es, key :: rest => (get? es key).bind (·.at? rest)
  | _, _ :: _ => none

/-- Something before the end of the path is no table. -/
def bars : Value → List String → Bool
  | _, [] => false
  | .table es, key :: rest => (get? es key).any (·.bars rest)
  | _, _ :: _ => true

/-- Every key stands once in its table, at every depth that a path can lead to. -/
inductive KeysOnce : Value → Prop
  | plain {v : Value} : v.isTable = false → KeysOnce v
  | table {es : Entries Value} : (names es).Nodup → (∀ e ∈ es, KeysOnce e.2) → KeysOnce (.table es)

/-! ## Paths -/

@[simp]
theorem at?_nil (v : Value) : v.at? [] = some v := by rw [at?]

@[simp]
theorem at?_table_cons : (Value.table es).at? (key :: rest) = (get? es key).bind (·.at? rest) := by rw [at?]

@[simp]
theorem bars_nil (v : Value) : v.bars [] = false := by rw [bars]

@[simp]
theorem bars_table_cons : (Value.table es).bars (key :: rest) = (get? es key).any (·.bars rest) := by rw [bars]

theorem at?_cons_of_not_table (h : v.isTable = false) : v.at? (key :: rest) = none := by
  cases v <;> first | rfl | cases h

theorem bars_cons_of_not_table (h : v.isTable = false) : v.bars (key :: rest) = true := by
  cases v <;> first | rfl | cases h

theorem exists_table (h : v.isTable = true) : ∃ es, v = .table es := by
  cases v <;> first | exact ⟨_, rfl⟩ | cases h

/-- A path is barred by what stands at one of its beginnings. -/
theorem bars_iff : v.bars path = true ↔
    ∃ front u, front <+: path ∧ front ≠ path ∧ v.at? front = some u ∧ u.isTable = false := by
  induction path generalizing v with
  | nil =>
    refine iff_of_false (by simp) ?_
    rintro ⟨front, u, hfront, hne, -⟩
    exact hne (List.prefix_nil.1 hfront)
  | cons key rest ih =>
    cases hv : v.isTable with
    | false =>
      exact iff_of_true (bars_cons_of_not_table hv) ⟨[], v, List.nil_prefix, by simp, at?_nil v, hv⟩
    | true =>
      obtain ⟨es, rfl⟩ := exists_table hv
      rw [bars_table_cons]
      constructor
      · intro h
        cases hkey : get? es key with
        | none => simp [hkey] at h
        | some w =>
          rw [hkey, Option.any_some] at h
          obtain ⟨front, u, hfront, hne, hat, hu⟩ := ih.1 h
          refine ⟨key :: front, u, List.cons_prefix_cons.2 ⟨rfl, hfront⟩, by simpa using hne, ?_, hu⟩
          rw [at?_table_cons, hkey, Option.bind_some, hat]
      · rintro ⟨front, u, hfront, hne, hat, hu⟩
        cases front with
        | nil =>
          -- The table itself bars nothing.
          rw [at?_nil] at hat
          cases hat
          cases hu
        | cons key' front =>
          obtain ⟨rfl, hrest⟩ := List.cons_prefix_cons.1 hfront
          rw [at?_table_cons] at hat
          obtain ⟨w, hkey, hat⟩ := Option.bind_eq_some_iff.1 hat
          rw [hkey, Option.any_some]
          exact ih.2 ⟨front, u, hrest, by simpa using hne, hat, hu⟩

theorem bars_table_eq_false_iff : (Value.table es).bars path = false ↔
    ∀ front u, front <+: path → front ≠ path → front ≠ [] → (Value.table es).at? front = some u →
      u.isTable = true := by
  rw [← Bool.not_eq_true, bars_iff]
  constructor
  · intro h front u hfront hne _ hat
    rw [← Bool.not_eq_false]
    exact fun hu => h ⟨front, u, hfront, hne, hat, hu⟩
  · rintro h ⟨front, u, hfront, hne, hat, hu⟩
    have hnil : front ≠ [] := by
      rintro rfl
      cases hat
      cases hu
    cases hu.symm.trans (h front u hfront hne hnil hat)

theorem KeysOnce.nodup (h : (Value.table es).KeysOnce) : (names es).Nodup := by
  cases h with
  | plain h => cases h
  | table hnodup _ => exact hnodup

theorem KeysOnce.of_get? (h : (Value.table es).KeysOnce) (hkey : get? es key = some v) : v.KeysOnce := by
  cases h with
  | plain h => cases h
  | table _ hes => exact hes _ (mem_of_get? hkey)

theorem KeysOnce.of_at? (h : v.KeysOnce) (hat : v.at? path = some w) : w.KeysOnce := by
  induction path generalizing v with
  | nil =>
    cases hat
    exact h
  | cons key rest ih =>
    cases hv : v.isTable with
    | false =>
      rw [at?_cons_of_not_table hv] at hat
      cases hat
    | true =>
      obtain ⟨es, rfl⟩ := exists_table hv
      rw [at?_table_cons] at hat
      obtain ⟨u, hkey, hat⟩ := Option.bind_eq_some_iff.1 hat
      exact ih (h.of_get? hkey) hat

/-! ## Overlays -/

theorem overlay_table : (Value.table a).overlay (.table b) = .table (overlayEntries a b) := by rw [overlay]

theorem overlay_of_top (h : w.isTable = false) (v : Value) : v.overlay w = w := by
  cases v <;> cases w <;> first | rfl | cases h

theorem overlay_of_base (h : v.isTable = false) (w : Value) : v.overlay w = w := by
  cases v <;> cases w <;> first | rfl | cases h

/-- A value other than a table comes from above. -/
theorem onto_eq_iff (hu : u.isTable = false) (o : Option Value) : w.onto o = u ↔ w = u := by
  cases o with
  | none => rfl
  | some v =>
    cases hw : w.isTable with
    | false => rw [onto, overlay_of_top hw]
    | true =>
      cases hv : v.isTable with
      | false => rw [onto, overlay_of_base hv]
      | true =>
        obtain ⟨a, rfl⟩ := exists_table hv
        obtain ⟨b, rfl⟩ := exists_table hw
        rw [onto, overlay_table]
        exact iff_of_false (fun h => by rw [← h] at hu; cases hu) (fun h => by rw [← h] at hu; cases hu)

/-- What an overlay has at a path. -/
theorem at?_overlay (hw : w.KeysOnce) (v : Value) (path : List String) :
    (v.overlay w).at? path =
      match w.at? path with
      | some u => some (u.onto (v.at? path))
      | none => if w.bars path then none else v.at? path := by
  induction path generalizing v w with
  | nil => rfl
  | cons key rest ih =>
    cases htop : w.isTable with
    | false => simp [overlay_of_top htop, at?_cons_of_not_table htop, bars_cons_of_not_table htop]
    | true =>
      cases hbase : v.isTable with
      | false =>
        rw [overlay_of_base hbase, at?_cons_of_not_table hbase]
        cases w.at? (key :: rest) <;> simp [onto]
      | true =>
        obtain ⟨a, rfl⟩ := exists_table hbase
        obtain ⟨b, rfl⟩ := exists_table htop
        rw [overlay_table, at?_table_cons, get?_overlayEntries hw.nodup, at?_table_cons, at?_table_cons,
          bars_table_cons]
        -- Only a key that both tables have leads into another overlay.
        cases hb : get? b key with
        | none => simp
        | some w' =>
          cases ha : get? a key with
          | none => cases hat : w'.at? rest <;> simp [onto, hat]
          | some v' => simpa [onto] using ih (hw.of_get? hb) v'

/-- An overlay of tables without repeated keys repeats none either. -/
theorem KeysOnce.overlay (hv : v.KeysOnce) (hw : w.KeysOnce) : (v.overlay w).KeysOnce := by
  induction hw generalizing v with
  | plain hw =>
    rw [overlay_of_top hw]
    exact .plain hw
  | @table b hb hbs ih =>
    cases hv with
    | plain hv =>
      rw [overlay_of_base hv]
      exact .table hb hbs
    | @table a ha has =>
      rw [overlay_table]
      have hnodup := nodup_overlayEntries ha b
      refine .table hnodup fun e he => ?_
      have hkey := get?_of_mem hnodup he
      rw [get?_overlayEntries hb] at hkey
      cases htop : get? b e.1 with
      | none =>
        rw [htop] at hkey
        exact has _ (mem_of_get? hkey)
      | some w =>
        rw [htop] at hkey
        cases hbase : get? a e.1 with
        | none =>
          rw [hbase] at hkey
          exact Option.some.inj hkey ▸ hbs _ (mem_of_get? htop)
        | some v =>
          rw [hbase] at hkey
          exact Option.some.inj hkey ▸ ih _ (mem_of_get? htop) (has _ (mem_of_get? hbase))

theorem overlay_self (h : v.KeysOnce) : v.overlay v = v := by
  induction h with
  | plain h => exact overlay_of_top h _
  | @table es hnodup _ ih =>
    rw [overlay_table]
    refine congrArg _ (ext_get? (nodup_overlayEntries hnodup es) ?_ fun key => ?_)
    · rw [names_overlayEntries hnodup, List.filter_eq_nil_iff.2 (by simp), List.append_nil]
    · rw [get?_overlayEntries hnodup]
      cases hkey : get? es key with
      | none => rfl
      | some w => exact congrArg some (ih _ (mem_of_get? hkey))

end Value

open Value

/-- Laying tables over one another joins them path by path. A value that is no table is at a path of the result if
the upper table has it there, or if the lower one does and the upper one has nothing there and no way to it that ends
early. At every path that leads to a table in both, the keys of the lower table come first and the new keys of the
upper one behind them, and no key stands twice. The empty table and a table laid over itself change nothing. -/
theorem overlayEntries_by_path (a b : Table) (ha : (Value.table a).KeysOnce) (hb : (Value.table b).KeysOnce) :
    (∀ (path : List String) (v : Value), v.isTable = false →
      ((Value.table (overlayEntries a b)).at? path = some v ↔
        (Value.table b).at? path = some v ∨
          (Value.table a).at? path = some v ∧ (Value.table b).at? path = none ∧
            ∀ front u, front <+: path → front ≠ path → front ≠ [] → (Value.table b).at? front = some u →
              u.isTable = true)) ∧
    names (overlayEntries a b) = names a ++ (names b).filter (· ∉ names a) ∧
    (∀ (path : List String) (a' b' : Table), (Value.table a).at? path = some (.table a') →
      (Value.table b).at? path = some (.table b') →
        (Value.table (overlayEntries a b)).at? path = some (.table (overlayEntries a' b')) ∧
        names (overlayEntries a' b') = names a' ++ (names b').filter (· ∉ names a')) ∧
    (Value.table (overlayEntries a b)).KeysOnce ∧
    overlayEntries a [] = a ∧ overlayEntries [] b = b ∧ overlayEntries a a = a := by
  refine ⟨fun path v hv => ?_, names_overlayEntries hb.nodup a, fun path a' b' hata hatb => ⟨?_, ?_⟩,
    overlay_table ▸ ha.overlay hb, ?_, overlayEntries_nil hb.nodup, ?_⟩
  · rw [← overlay_table, at?_overlay hb]
    cases hatb : (Value.table b).at? path with
    | some u => simp [onto_eq_iff hv]
    | none =>
      rw [← bars_table_eq_false_iff]
      cases (Value.table b).bars path <;> simp
  · rw [← overlay_table, at?_overlay hb, hatb, hata]
    exact congrArg some overlay_table
  · exact names_overlayEntries (hb.of_at? hatb).nodup a'
  · rw [overlayEntries]
  · have hself := overlay_self ha
    rw [overlay_table] at hself
    exact Value.table.inj hself

/-- A layer with a table inside a table. -/
def lowerLayer : Table :=
  [("diagnostics", .table [("kept", .bool true), ("deep", .table [("lost", .int 1)])]), ("path", .text "p")]

/-- A layer with a number in place of the inner table. -/
def upperLayer : Table := [("version", .text "2"), ("diagnostics", .table [("deep", .int 5)])]

/-- The switch beside the number is kept, what the inner table held is lost behind it. -/
theorem overlayEntries_by_path_shadowed :
    (Value.table lowerLayer).KeysOnce ∧ (Value.table upperLayer).KeysOnce ∧
    (Value.table (overlayEntries lowerLayer upperLayer)).at? ["diagnostics", "kept"] = some (.bool true) ∧
    (Value.table (overlayEntries lowerLayer upperLayer)).at? ["diagnostics", "deep", "lost"] ≠ some (.int 1) ∧
    names (overlayEntries lowerLayer upperLayer) = ["diagnostics", "path", "version"] := by
  have hlower : (Value.table lowerLayer).KeysOnce := by
    refine .table (by decide) ?_
    simp only [lowerLayer, List.forall_mem_cons]
    refine ⟨.table (by decide) ?_, .plain rfl, by simp⟩
    simp only [List.forall_mem_cons]
    refine ⟨.plain rfl, .table (by decide) ?_, by simp⟩
    simp only [List.forall_mem_cons]
    exact ⟨.plain rfl, by simp⟩
  have hupper : (Value.table upperLayer).KeysOnce := by
    refine .table (by decide) ?_
    simp only [upperLayer, List.forall_mem_cons]
    refine ⟨.plain rfl, .table (by decide) ?_, by simp⟩
    simp only [List.forall_mem_cons]
    exact ⟨.plain rfl, by simp⟩
  obtain ⟨hvalues, hnames, -⟩ := overlayEntries_by_path lowerLayer upperLayer hlower hupper
  refine ⟨hlower, hupper, ?_, fun hlost => ?_, hnames.trans rfl⟩
  · exact (hvalues ["diagnostics", "kept"] _ rfl).2 (.inr ⟨rfl, rfl, bars_table_eq_false_iff.1 rfl⟩)
  · rcases (hvalues ["diagnostics", "deep", "lost"] _ rfl).1 hlost with hat | ⟨-, -, hway⟩
    · cases hat
    · cases hway ["diagnostics", "deep"] (.int 5) ⟨["lost"], rfl⟩ (by simp) (by simp) rfl

end SqlTidy
