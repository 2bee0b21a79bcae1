import ParamSchema.Proofs.TypeName.Coercion

/-!
Contract: the table of conversions against the conversion itself.

Owns:
- the values that the table lists for a type;
- the ways in which a conversion ends, and what the table says about each of them;
- that conversion follows the table, except where an integer is asked for in place of a float that
  is not finite.

Does not own: which of the values that the table lists are converted.
-/

namespace ParamSchema.TypeName

/-! ## What the table lists -/

section Listed

variable {target source : TypeName} {value : Value} {number : Binary64}

/-- A value is of a type from which the table allows conversion. A value of no type is not. -/
def Listed (target : TypeName) (value : Value) : Prop :=
  ∃ source, classify value = some source ∧ target.canCoerceFrom source = true

theorem not_listed (ofSource : classify value = some source)
    (barred : target.canCoerceFrom source = false) : ¬Listed target value := by
  simp [Listed, ofSource, barred]

/-- A float has a type only if it is finite. -/
theorem listed_float_iff :
    Listed target (.float number) ↔
      number.isFinite = true ∧ target.canCoerceFrom .float = true := by
  simp [Listed, classify]

theorem not_listed_float (barred : target.canCoerceFrom .float = false) :
    ¬Listed target (.float number) := by
  simp [listed_float_iff, barred]

theorem not_listed_of_not_finite (notFinite : number.isFinite = false) :
    ¬Listed target (.float number) := by
  simp [listed_float_iff, notFinite]

end Listed

/-! ## Ends of conversions -/

/-- An integer is asked for in place of a float that is not finite. -/
def Strays (target : TypeName) (value : Value) : Prop :=
  target = .integer ∧ ∃ number, value = .float number ∧ number.isFinite = false

/-- How a conversion ends. -/
inductive Ends (target : TypeName) (value : Value) : Except CoercionError Value → Prop where
  | converted {result : Value} (listed : Listed target value) : Ends target value (.ok result)
  | refused (listed : Listed target value) : Ends target value (.error (.invalid value target))
  | unsupported (unlisted : ¬Listed target value) :
      Ends target value (.error (.unsupported (classify value) target))
  /-- A value of no type is refused as if the table listed it. -/
  | strayed (strays : Strays target value) : Ends target value (.error (.invalid value target))

theorem ends_orInvalid {target : TypeName} {value : Value} (listed : Listed target value)
    (converted : Option Value) : Ends target value (orInvalid target value converted) := by
  cases converted with
  | none => exact .refused listed
  | some result => exact .converted listed

theorem coerce_of_strays {target : TypeName} {value : Value} (strays : Strays target value) :
    target.coerce value = .error (.invalid value target) := by
  obtain ⟨rfl, number, rfl, notFinite⟩ := strays
  have unread : number.toInt? = none := by
    rw [Option.eq_none_iff_forall_ne_some]
    intro read isRead
    rw [(Binary64.toInt?_eq_some_iff.mp isRead).1] at notFinite
    cases notFinite
  rw [coerce, unread]
  rfl

/-- Every conversion ends in one of these ways. The cases are those of the value, which says where
in the table to look, and of the type that is asked for. -/
theorem coerce_ends (target : TypeName) (value : Value) :
    Ends target value (target.coerce value) := by
  cases value with
  | nil | seq | map =>
      have unlisted : ∀ source ∈ [.nil, .array, .object], target.canCoerceFrom source = false := by
        cases target <;> decide
      cases target <;> exact .unsupported (not_listed rfl (unlisted _ (by decide)))
  | boolean flag =>
      cases target with
      | string => exact .converted ⟨.boolean, rfl, rfl⟩
      | nil | boolean | integer | float | object | array =>
          exact .unsupported (not_listed rfl rfl)
  | integer number =>
      cases target with
      | boolean => exact ends_orInvalid ⟨.integer, rfl, rfl⟩ _
      | float | string => exact .converted ⟨.integer, rfl, rfl⟩
      | nil | integer | object | array => exact .unsupported (not_listed rfl rfl)
  | text text =>
      cases target with
      | boolean | integer | float => exact ends_orInvalid ⟨.string, rfl, rfl⟩ _
      | nil | string | object | array => exact .unsupported (not_listed rfl rfl)
  | float number =>
      cases target with
      | integer =>
          cases finite : number.isFinite with
          | true => exact ends_orInvalid ⟨.float, classify_float finite, rfl⟩ _
          | false =>
              have strays : Strays .integer (.float number) := ⟨rfl, number, rfl, finite⟩
              rw [coerce_of_strays strays]
              exact .strayed strays
      | string =>
          rw [coerce]
          cases finite : number.isFinite with
          | true => exact .converted ⟨.float, classify_float finite, rfl⟩
          | false => exact .unsupported (not_listed_of_not_finite finite)
      | nil | boolean | float | object | array => exact .unsupported (not_listed_float rfl)

/-! ## Conversion and table -/

/-- For a type and a value, conversion and table agree on whether there is a conversion. -/
structure FollowsTable (target : TypeName) (value : Value) : Prop where
  unsupported_iff : (∃ source named, target.coerce value = .error (.unsupported source named)) ↔
    ¬Listed target value
  /-- What is listed is converted, or is refused for what it is. -/
  attempted : Listed target value →
    (∃ result, target.coerce value = .ok result) ∨
      ∃ held named, target.coerce value = .error (.invalid held named)

theorem not_followsTable_of_strays {target : TypeName} {value : Value}
    (strays : Strays target value) : ¬FollowsTable target value := by
  intro follows
  have unlisted : ¬Listed target value := by
    obtain ⟨-, number, rfl, notFinite⟩ := strays
    exact not_listed_of_not_finite notFinite
  obtain ⟨source, named, unsupported⟩ := follows.unsupported_iff.mpr unlisted
  cases (coerce_of_strays strays).symm.trans unsupported

/-- Conversion follows the table for every type and every value but a float that is not finite where
an integer is asked for. Such a float is of no type, and yet it is refused as one that the table
lists. -/
theorem followsTable_iff (target : TypeName) (value : Value) :
    FollowsTable target value ↔ ¬Strays target value := by
  refine ⟨fun follows strays => not_followsTable_of_strays strays follows, fun keeps => ?_⟩
  have ends := coerce_ends target value
  generalize outcome : target.coerce value = ended at ends
  cases ends with
  | converted listed => exact ⟨by simp [outcome, listed], fun _ => .inl ⟨_, outcome⟩⟩
  | refused listed => exact ⟨by simp [outcome, listed], fun _ => .inr ⟨_, _, outcome⟩⟩
  | unsupported unlisted =>
      exact ⟨by simp [outcome, unlisted], fun listed => absurd listed unlisted⟩
  | strayed strays => exact absurd strays keeps

/-- Where an integer is asked for, what is not a number is refused like a number with a fraction. -/
theorem not_always_followsTable :
    ¬∀ (target : TypeName) (value : Value), FollowsTable target value := by
  intro follows
  have strays : Strays .integer (.float ⟨0x7ff8000000000000⟩) := ⟨rfl, _, rfl, by decide⟩
  exact not_followsTable_of_strays strays (follows _ _)

end ParamSchema.TypeName
