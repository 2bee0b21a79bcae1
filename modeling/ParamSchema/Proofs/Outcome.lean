/-!
Contract: outcomes of computations that may fail.

Owns:
- when an outcome is a success or a failure, for the ways in which outcomes are made from others.

Does not own: any computation of the model.
-/

namespace ParamSchema

variable {ε δ α β : Type} {outcome : Except ε α}

theorem Except.map_eq_ok_iff {function : α → β} {result : β} :
    outcome.map function = .ok result ↔ ∃ value, outcome = .ok value ∧ function value = result := by
  cases outcome with
  | error error => simp [Except.map]
  | ok value => simp [Except.map]

theorem Except.map_eq_error_iff {function : α → β} {error : ε} :
    outcome.map function = .error error ↔ outcome = .error error := by
  cases outcome with
  | error other => simp [Except.map]
  | ok value => simp [Except.map]

theorem Except.bind_eq_ok_iff {next : α → Except ε β} {result : β} :
    outcome.bind next = .ok result ↔ ∃ value, outcome = .ok value ∧ next value = .ok result := by
  cases outcome with
  | error other => simp [Except.bind]
  | ok value => simp [Except.bind]

theorem Except.bind_eq_error_iff {next : α → Except ε β} {error : ε} :
    outcome.bind next = .error error ↔
      outcome = .error error ∨ ∃ value, outcome = .ok value ∧ next value = .error error := by
  cases outcome with
  | error other => simp [Except.bind]
  | ok value => simp [Except.bind]

theorem Except.mapError_eq_ok_iff {function : ε → δ} {value : α} :
    outcome.mapError function = .ok value ↔ outcome = .ok value := by
  cases outcome with
  | error source => exact iff_of_false nofun nofun
  | ok result =>
      change Except.ok result = .ok value ↔ _
      simp

theorem Except.mapError_eq_error_iff {function : ε → δ} {error : δ} :
    outcome.mapError function = .error error ↔
      ∃ source, outcome = .error source ∧ function source = error := by
  cases outcome with
  | error source =>
      change Except.error (function source) = .error error ↔ _
      simp
  | ok value => exact iff_of_false nofun fun ⟨_, same, _⟩ => nomatch same

section Collected

variable {outcomes : List (Except ε α)} {values : List α}

theorem Except.mapM_id_cons_ok (value : α) (outcomes : List (Except ε α)) :
    (.ok value :: outcomes).mapM id = (outcomes.mapM id).map (value :: ·) := by
  rw [List.mapM_cons]
  cases outcomes.mapM id <;> rfl

theorem Except.mapM_id_cons_error (error : ε) (outcomes : List (Except ε α)) :
    (.error error :: outcomes).mapM id = .error error := by
  rw [List.mapM_cons]
  rfl

/-- Outcomes taken together are a success when each of them is one. -/
theorem Except.mapM_id_eq_ok_iff : outcomes.mapM id = .ok values ↔ outcomes = values.map .ok := by
  induction outcomes generalizing values with
  | nil => cases values <;> simp [pure, Except.pure]
  | cons first others inductionHypothesis =>
      cases first with
      | error error =>
          rw [mapM_id_cons_error]
          cases values <;> simp
      | ok value =>
          rw [mapM_id_cons_ok, map_eq_ok_iff]
          constructor
          · rintro ⟨collected, rest, rfl⟩
            rw [inductionHypothesis.mp rest, List.map_cons]
          · intro same
            obtain ⟨head, tail, rfl, sameHead, sameTail⟩ := List.map_eq_cons_iff.mp same.symm
            cases sameHead
            exact ⟨tail, inductionHypothesis.mpr sameTail.symm, rfl⟩

/-- Outcomes taken together fail as the first failure among them does. -/
theorem Except.mapM_id_eq_error_iff {error : ε} :
    outcomes.mapM id = .error error ↔
      ∃ (before : List α) (behind : List (Except ε α)),
        outcomes = before.map .ok ++ .error error :: behind := by
  induction outcomes with
  | nil => simp [pure, Except.pure]
  | cons first others inductionHypothesis =>
      cases first with
      | error other =>
          rw [mapM_id_cons_error]
          constructor
          · rintro ⟨⟩
            exact ⟨[], others, rfl⟩
          · rintro ⟨before, behind, same⟩
            cases before <;> cases same
            rfl
      | ok value =>
          rw [mapM_id_cons_ok, map_eq_error_iff, inductionHypothesis]
          constructor
          · rintro ⟨before, behind, rfl⟩
            exact ⟨value :: before, behind, rfl⟩
          · rintro ⟨before, behind, same⟩
            cases before with
            | nil => cases same
            | cons head tail =>
                cases same
                exact ⟨tail, behind, rfl⟩

end Collected

end ParamSchema
