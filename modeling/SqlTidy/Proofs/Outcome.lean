import SqlTidy.Download

/-!
# Outcomes of actions

The outcome of an action that is made of others comes from their outcomes (`outcome_bind` and the
equations around it). An action that is done for every member of a list fails at the first member that
it fails for, with the error and the tree that this member leaves (`forM_error_iff`).
-/

namespace SqlTidy

instance decidableEqOutcome {ε α : Type} [DecidableEq ε] [DecidableEq α] : DecidableEq (Except ε α)
  | .ok a, .ok b => decidable_of_iff (a = b) (by simp)
  | .error e, .error e' => decidable_of_iff (e = e') (by simp)
  | .ok _, .error _ => isFalse (by simp)
  | .error _, .ok _ => isFalse (by simp)

@[simp]
theorem mapError_ok {ε δ α : Type} (f : ε → δ) (a : α) :
    (Except.ok a : Except ε α).mapError f = .ok a := rfl

@[simp]
theorem mapError_error {ε δ α : Type} (f : ε → δ) (e : ε) :
    (Except.error e : Except ε α).mapError f = .error (f e) := rfl

theorem mapError_eq_ok_iff {ε δ α : Type} {x : Except ε α} {f : ε → δ} {a : α} :
    x.mapError f = .ok a ↔ x = .ok a := by
  cases x <;> simp

theorem map_eq_ok_iff {ε α β : Type} {x : Except ε α} {f : α → β} {b : β} :
    x.map f = .ok b ↔ ∃ a, x = .ok a ∧ f a = b := by
  cases x <;> simp [Except.map]

theorem bind_eq_ok_iff {ε α β : Type} {x : Except ε α} {f : α → Except ε β} {b : β} :
    (x >>= f) = .ok b ↔ ∃ a, x = .ok a ∧ f a = .ok b := by
  cases x <;> simp [bind, Except.bind]

theorem exists_of_isOk {ε α : Type} {x : Except ε α} (h : x.isOk = true) : ∃ a, x = .ok a := by
  cases x with
  | ok a => exact ⟨a, rfl⟩
  | error e => cases h

theorem eq_ok_of_toOption {ε α : Type} {x : Except ε α} {a : α} (h : x.toOption = some a) : x = .ok a := by
  cases x with
  | ok b =>
    cases h
    rfl
  | error e => cases h

namespace Act

variable {ε δ α β : Type} {t t' : FileTree}

@[simp]
theorem outcome_pure (a : α) : (pure a : Act ε α).outcome t = (.ok a, t) := rfl

@[simp]
theorem outcome_ofOutcome (f : FileTree → Except ε α × FileTree) : (ofOutcome f).outcome t = f t := rfl

@[simp]
theorem outcome_look (f : FileTree → α) : (look f : Act ε α).outcome t = (.ok (f t), t) := rfl

@[simp]
theorem outcome_fail (e : ε) : (fail e : Act ε α).outcome t = (.error e, t) := rfl

@[simp]
theorem outcome_attempt (f : FileTree → Except Cause FileTree) :
    (attempt f : Act ε Unit).outcome t = (.ok (), (f t).toOption.getD t) := rfl

@[simp]
theorem outcome_mapError (f : ε → δ) (x : Act ε α) :
    (x.mapError f).outcome t = ((x.outcome t).1.mapError f, (x.outcome t).2) := rfl

@[simp]
theorem outcome_thenAlways (x : Act ε α) (after : Act ε Unit) :
    outcome (thenAlways x after) t = ((x.outcome t).1, (after.outcome (x.outcome t).2).2) := rfl

theorem exists_outcome {x : Act ε α} {r : Except ε α} (h : (x.outcome t).1 = r) :
    ∃ t', x.outcome t = (r, t') := ⟨_, Prod.ext h rfl⟩

theorem outcome_bind (x : Act ε α) (f : α → Act ε β) :
    (x >>= f).outcome t =
      match x.outcome t with
      | (.ok a, t) => (f a).outcome t
      | (.error e, t) => (.error e, t) := by
  change (ExceptT.bindCont f (x.outcome t).1 : StateM FileTree _) (x.outcome t).2 = _
  rcases x.outcome t with ⟨_ | _, _⟩ <;> rfl

theorem outcome_bind_of_ok {x : Act ε α} {a : α} (h : x.outcome t = (.ok a, t')) (f : α → Act ε β) :
    (x >>= f).outcome t = (f a).outcome t' := by
  rw [outcome_bind, h]

theorem outcome_bind_of_error {x : Act ε α} {e : ε} (h : x.outcome t = (.error e, t'))
    (f : α → Act ε β) : (x >>= f).outcome t = (.error e, t') := by
  rw [outcome_bind, h]

section ForM

variable {f : α → Act ε PUnit} {x : α} {xs : List α} {e : ε}

@[simp]
theorem outcome_forM_nil (f : α → Act ε PUnit) : (List.forM [] f).outcome t = (.ok ⟨⟩, t) := rfl

theorem forM_cons_of_ok (h : (f x).outcome t = (.ok ⟨⟩, t')) :
    (List.forM (x :: xs) f).outcome t = (List.forM xs f).outcome t' := by
  rw [List.forM, outcome_bind_of_ok h]

theorem forM_cons_of_error (h : (f x).outcome t = (.error e, t')) :
    (List.forM (x :: xs) f).outcome t = (.error e, t') := by
  rw [List.forM, outcome_bind_of_error h]

theorem forM_append_of_ok {after : List α} : ∀ {before : List α} {t : FileTree},
    (List.forM before f).outcome t = (.ok ⟨⟩, t') →
      (List.forM (before ++ after) f).outcome t = (List.forM after f).outcome t'
  | [], t, h => by
    rw [outcome_forM_nil] at h
    cases h
    rfl
  | x :: before, t, h => by
    rcases hx : (f x).outcome t with ⟨e | _, t₁⟩
    · rw [forM_cons_of_error hx] at h
      cases h
    · rw [forM_cons_of_ok hx] at h
      rw [List.cons_append, forM_cons_of_ok hx, forM_append_of_ok h]

theorem exists_first_error : ∀ {xs : List α} {t : FileTree},
    (List.forM xs f).outcome t = (.error e, t') → ∃ before x after t₁, xs = before ++ x :: after ∧
      (List.forM before f).outcome t = (.ok ⟨⟩, t₁) ∧ (f x).outcome t₁ = (.error e, t')
  | [], t, h => by cases h
  | x :: xs, t, h => by
    rcases hx : (f x).outcome t with ⟨e | _, t₁⟩
    · rw [forM_cons_of_error hx] at h
      cases h
      exact ⟨[], x, xs, t, rfl, rfl, hx⟩
    · rw [forM_cons_of_ok hx] at h
      obtain ⟨before, y, after, t₂, rfl, hb, hy⟩ := exists_first_error h
      exact ⟨x :: before, y, after, t₂, rfl, (forM_cons_of_ok hx).trans hb, hy⟩

/-- What is done for every member of a list fails at the first member that it fails for. -/
theorem forM_error_iff : (List.forM xs f).outcome t = (.error e, t') ↔
    ∃ before x after t₁, xs = before ++ x :: after ∧
      (List.forM before f).outcome t = (.ok ⟨⟩, t₁) ∧ (f x).outcome t₁ = (.error e, t') := by
  refine ⟨exists_first_error, ?_⟩
  rintro ⟨before, x, after, t₁, rfl, hb, hx⟩
  rw [forM_append_of_ok hb, forM_cons_of_error hx]

end ForM

end Act

/-- A response that is handled is closed once more, whether or not the handling fails. -/
theorem Handling.run_thenAlways_close {ε α : Type} (x : Act ε α) (t : FileTree) (closings : Nat) :
    (thenAlways (ofAct x) close).run.run (t, closings) =
      ((x.outcome t).1, (x.outcome t).2, closings + 1) := rfl

end SqlTidy
