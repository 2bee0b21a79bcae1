import ParamSchema.Proofs.Validation.Resemblance

/-!
Contract: values that differ at places of a given kind.

Owns:
- the order of the steps within a container, and of places that part from each other;
- the order of the parts of a value;
- revisions of a value at allowed places;
- what a revision behind a place leaves alone.

Does not own: what a walk makes of a revised value (`Proofs.Validation.Stability`).
-/

namespace ParamSchema

/-! ## Order of places -/

/-- Within a container smaller keys and smaller indices come first. -/
inductive Segment.Before : Segment → Segment → Prop where
  | field {key later : String} (less : key < later) : Before (.field key) (.field later)
  | index {index later : Nat} (less : index < later) : Before (.index index) (.index later)

/-- A place comes behind another when the two part from each other within some container, and the
step to it is the later one. -/
inductive Path.Behind : Path → Path → Prop where
  | parts {segment later : Segment} {rest beyond : Path} (before : segment.Before later) :
      Behind (segment :: rest) (later :: beyond)
  | beneath {segment : Segment} {rest beyond : Path} (behind : Behind rest beyond) :
      Behind (segment :: rest) (segment :: beyond)

theorem Segment.Before.irrefl (segment : Segment) : ¬segment.Before segment := by
  intro before
  cases before with
  | field less => exact String.lt_irrefl _ less
  | index less => exact Nat.lt_irrefl _ less

theorem Segment.Before.asymm {segment later : Segment} (before : segment.Before later) :
    ¬later.Before segment := by
  intro after
  cases before with
  | field less =>
      cases after with
      | field more => exact String.lt_irrefl _ (String.lt_trans less more)
  | index less =>
      cases after with
      | index more => exact Nat.lt_irrefl _ (Nat.lt_trans less more)

namespace Path.Behind

variable {segment other : Segment} {rest place : Path}

theorem not_nil : ¬Path.Behind (segment :: rest) [] := nofun

theorem nil_not : ¬Path.Behind [] place := nofun

theorem cons_iff : Path.Behind (segment :: rest) (segment :: place) ↔ Path.Behind rest place := by
  constructor
  · intro behind
    cases behind with
    | parts before => exact absurd before (Segment.Before.irrefl segment)
    | beneath behind => exact behind
  · exact .beneath

/-- Nothing under an earlier step comes behind. -/
theorem not_of_before (before : other.Before segment) :
    ¬Path.Behind (segment :: rest) (other :: place) := by
  intro behind
  cases behind with
  | parts after => exact before.asymm after
  | beneath => exact Segment.Before.irrefl _ before

end Path.Behind

/-! ## Ordered values -/

namespace Value

theorem orderedElements_iff {elements : List Value} :
    OrderedElements elements ↔ ∀ element ∈ elements, element.Ordered := by
  induction elements with
  | nil => simp [OrderedElements]
  | cons element rest inductionHypothesis => simp [OrderedElements, inductionHypothesis]

theorem orderedEntries_iff {entries : List (String × Value)} :
    OrderedEntries entries ↔ ∀ entry ∈ entries, entry.2.Ordered := by
  induction entries with
  | nil => simp [OrderedEntries]
  | cons entry rest inductionHypothesis =>
      obtain ⟨key, value⟩ := entry
      simp [OrderedEntries, inductionHypothesis]

theorem Ordered.of_part {value part : Value} {segment : Segment} (ordered : value.Ordered)
    (isPart : value.Part segment part) : part.Ordered := by
  cases isPart with
  | entry member =>
      rw [Ordered] at ordered
      exact orderedEntries_iff.mp ordered.2 _ member
  | element held =>
      rw [Ordered] at ordered
      exact orderedElements_iff.mp ordered _ (List.mem_of_getElem? held)

/-- The parts of an ordered value come in the order of the steps to them. -/
theorem Ordered.pairwise_parts {value : Value} (ordered : value.Ordered) :
    value.parts.Pairwise fun earlier later => earlier.1.Before later.1 := by
  cases value with
  | map entries =>
      rw [Ordered] at ordered
      rw [parts, List.pairwise_map]
      exact ordered.1.imp .field
  | seq elements =>
      rw [parts, partsFrom, List.pairwise_map]
      have ascending : elements.zipIdx.Pairwise fun earlier later => earlier.2 < later.2 := by
        rw [← List.pairwise_map (f := Prod.snd), List.zipIdx_map_snd]
        exact List.pairwise_lt_range'
      exact ascending.imp .index
  | nil | boolean | integer | float | text => exact .nil

/-! ## Revisions -/

/-- A value in which any number of values at allowed places are replaced by values that resemble
them. Places are given by the way from the value. -/
inductive Revised : (Path → Prop) → Value → Value → Prop where
  | same (Allowed : Path → Prop) (value : Value) : Revised Allowed value value
  | replaced {Allowed : Path → Prop} {value other : Value} (here : Allowed [])
      (resembles : value.Resembles other) : Revised Allowed value other
  | map {Allowed : Path → Prop} {entries others : List (String × Value)}
      (keys : others.map Prod.fst = entries.map Prod.fst)
      (revised : ∀ (index : Nat) key part other, entries[index]? = some (key, part) →
        others[index]? = some (key, other) →
          Revised (fun place => Allowed (.field key :: place)) part other) :
      Revised Allowed (.map entries) (.map others)
  | seq {Allowed : Path → Prop} {elements others : List Value}
      (length : others.length = elements.length)
      (revised : ∀ (index : Nat) part other, elements[index]? = some part →
        others[index]? = some other →
          Revised (fun place => Allowed (.index index :: place)) part other) :
      Revised Allowed (.seq elements) (.seq others)

namespace Revised

variable {Allowed : Path → Prop} {value other : Value}

theorem resembles (revised : value.Revised Allowed other) : value.Resembles other := by
  cases revised with
  | same => exact ⟨rfl, rfl⟩
  | replaced here resembles => exact resembles
  | map keys revised =>
      have length := congrArg List.length keys
      rw [List.length_map, List.length_map] at length
      exact ⟨rfl, isEmpty_eq_of_length_eq length⟩
  | seq length revised => exact ⟨rfl, isEmpty_eq_of_length_eq length⟩

/-- A value that is not itself replaced stays of its type. -/
theorem classify_eq (revised : value.Revised Allowed other) (notHere : ¬Allowed []) :
    TypeName.classify other = TypeName.classify value := by
  cases revised with
  | replaced here => exact absurd here notHere
  | same | map | seq => rfl

/-- Where no place is allowed nothing is replaced. -/
theorem eq_of_never (revised : value.Revised Allowed other) (never : ∀ place, ¬Allowed place) :
    other = value := by
  induction revised with
  | same => rfl
  | replaced here => exact absurd here (never [])
  | map keys revised inductionHypothesis =>
      have related := forall₂_entries keys fun index key part other held otherHeld =>
        inductionHypothesis index key part other held otherHeld fun place => never _
      have same := related.imp fun entry other agree => Prod.ext agree.1.symm agree.2.symm
      rw [List.forall₂_eq_eq_eq] at same
      rw [same]
  | seq length revised inductionHypothesis =>
      have same := forall₂_iff_getElem?.mpr ⟨length.symm, fun index part other held otherHeld =>
        (inductionHypothesis index part other held otherHeld fun place => never _).symm⟩
      rw [List.forall₂_eq_eq_eq] at same
      rw [same]

/-- Parts under the same steps, one of which is a revision of the other. -/
structure OfPart (Allowed : Path → Prop) (part other : Segment × Value) : Prop where
  segment : other.1 = part.1
  revised : part.2.Revised (fun place => Allowed (part.1 :: place)) other.2

/-- A map that is not itself replaced keeps its keys. -/
theorem of_map {entries : List (String × Value)} (notHere : ¬Allowed [])
    (revised : Revised Allowed (.map entries) other) :
    ∃ others, other = .map others ∧
      List.Forall₂ (OfPart Allowed) (Value.map entries).parts (Value.map others).parts := by
  suffices lined : ∃ others, other = .map others ∧ List.Forall₂ (fun entry other =>
      other.1 = entry.1 ∧ entry.2.Revised (fun place => Allowed (.field entry.1 :: place)) other.2)
        entries others by
    obtain ⟨others, same, related⟩ := lined
    refine ⟨others, same, ?_⟩
    rw [parts, parts, List.forall₂_map_left_iff, List.forall₂_map_right_iff]
    exact related.imp fun entry other agree => ⟨congrArg Segment.field agree.1, agree.2⟩
  cases revised with
  | same => exact ⟨entries, rfl, List.forall₂_same.mpr fun entry _ => ⟨rfl, .same _ _⟩⟩
  | replaced here => exact absurd here notHere
  | map keys revised => exact ⟨_, rfl, forall₂_entries keys revised⟩

/-- A list that is not itself replaced keeps its length. -/
theorem of_seq {elements : List Value} (notHere : ¬Allowed [])
    (revised : Revised Allowed (.seq elements) other) :
    ∃ others, other = .seq others ∧
      List.Forall₂ (OfPart Allowed) (Value.seq elements).parts (Value.seq others).parts := by
  suffices lined : ∃ others, other = .seq others ∧ others.length = elements.length ∧
      ∀ (index : Nat) part other, elements[index]? = some part → others[index]? = some other →
        part.Revised (fun place => Allowed (.index index :: place)) other by
    obtain ⟨others, same, length, related⟩ := lined
    refine ⟨others, same, forall₂_iff_getElem?.mpr ⟨?_, ?_⟩⟩
    · simp [parts, partsFrom, length]
    · intro index part other held otherHeld
      rw [parts, getElem?_partsFrom, Nat.zero_add, Option.map_eq_some_iff] at held otherHeld
      obtain ⟨source, isElement, rfl⟩ := held
      obtain ⟨result, isOther, rfl⟩ := otherHeld
      exact ⟨rfl, related index source result isElement isOther⟩
  cases revised with
  | same =>
      refine ⟨elements, rfl, rfl, fun index part other held otherHeld => ?_⟩
      cases held.symm.trans otherHeld
      exact .same _ _
  | replaced here => exact absurd here notHere
  | seq length revised => exact ⟨_, rfl, length, revised⟩

theorem OfPart.elements_resemble {elements others : List Value}
    (related : List.Forall₂ (OfPart Allowed) (Value.seq elements).parts (Value.seq others).parts) :
    others.length = elements.length ∧ ∀ (index : Nat) part other, elements[index]? = some part →
      others[index]? = some other → part.Resembles other := by
  obtain ⟨length, agree⟩ := forall₂_iff_getElem?.mp related
  constructor
  · simpa [parts, partsFrom] using length.symm
  · intro index part other held otherHeld
    have isPart : (Value.seq elements).parts[index]? = some (.index index, part) := by
      simp [parts, getElem?_partsFrom, held]
    have isOther : (Value.seq others).parts[index]? = some (.index index, other) := by
      simp [parts, getElem?_partsFrom, otherHeld]
    exact (agree index _ _ isPart isOther).revised.resembles

end Revised

end Value

end ParamSchema
