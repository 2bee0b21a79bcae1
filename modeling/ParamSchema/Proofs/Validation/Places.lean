import ParamSchema.Proofs.Validation.Blame

/-!
Contract: where the values of an output stand.

Owns:
- the places within containers beneath which nothing is declared;
- that every place of an output is a declared position or within such a container;
- the depth of both under a limit, and the containers of the input that go into an output as they
  are.

Does not own: what follows for the limit (`Proofs.Validation.DepthLimit`) and for numbers
(`Proofs.Validation.Finiteness`).
-/

namespace ParamSchema

namespace Schema

/-! ## Places of an output -/

/-- A place within a container beneath which nothing is declared: the container stands at a declared
position, and a route of at least one step leads from it to the value. -/
structure Enclosed (schema : Schema) (value : Value) (above : Path) (id : NodeId)
    (container : Value) (route : Path) (target : Value) : Prop where
  position : schema.Position root value above id container
  undeclared : (schema.node id).children.isUndeclared = true
  within : container.Reaches route target
  below : route ≠ []

section Places

variable {schema : Schema} {limit depth : Nat} {id found : NodeId} {value part target : Value}
  {input output container : Value} {above route path : Path} {segment : Segment}

/-- Where a value satisfies its node, what stands in it is declared unless nothing is. -/
theorem Satisfies.isUndeclared_or_declaredPart (coherent : schema.Coherent)
    (satisfies : schema.Satisfies id value) (within : value.Part segment part) :
    (schema.node id).children.isUndeclared = true ∨
      ∃ child, schema.DeclaredPart id value segment child part := by
  have children := coherent.ofType id
  cases satisfies.fits with
  | nil => cases within
  | ofType ofType =>
      cases within with
      | entry member =>
          have isObject : (schema.node id).type = .object := (Option.some.inj ofType).symm
          cases declared : (schema.node id).children with
          | keyed fields =>
              by_cases undeclared : fields = []
              · exact .inl (by rw [undeclared]; rfl)
              · obtain ⟨child, isField⟩ :=
                  satisfies.keys fields _ declared undeclared rfl _ _ member
                have found := coherent.lookup_eq_some declared isField
                exact .inr ⟨child, declaredPart_field declared found member⟩
          | scalar =>
              rw [declared, isObject] at children
              cases children.of_scalar
          | positional | homogeneous =>
              rw [declared, isObject] at children
              cases children
      | @element elements index _ held =>
          have isArray : (schema.node id).type = .array := (Option.some.inj ofType).symm
          cases declared : (schema.node id).children with
          | positional items =>
              by_cases undeclared : items = []
              · exact .inl (by rw [undeclared]; rfl)
              · obtain ⟨inElements, -⟩ := List.getElem?_eq_some_iff.mp held
                have notMore := satisfies.length items elements declared undeclared rfl
                have isItem := List.getElem?_eq_getElem (Nat.lt_of_lt_of_le inElements notMore)
                exact .inr ⟨_, declaredPart_item declared isItem held⟩
          | homogeneous template => exact .inr ⟨template, declaredPart_element declared held⟩
          | scalar =>
              rw [declared, isArray] at children
              cases children.of_scalar
          | keyed =>
              rw [declared, isArray] at children
              cases children

/-- Where a value satisfies its schema, each of its places is a declared position or within a
container beneath which nothing is declared. -/
theorem declared_or_enclosed (coherent : schema.Coherent)
    (satisfies : ∀ path id part, schema.Position root output path id part →
      schema.Satisfies id part)
    (reaches : value.Reaches route target) :
    ∀ {above : Path} {id : NodeId}, schema.Position root output above id value →
      (∃ found, schema.Position root output (above ++ route) found target) ∨
        ∃ place found container inner, above ++ route = place ++ inner ∧
          schema.Enclosed output place found container inner target := by
  induction reaches with
  | here value =>
      intro above id position
      rw [List.append_nil]
      exact .inl ⟨id, position⟩
  | @beneath value part target segment route first rest inductionHypothesis =>
      intro above id position
      rcases (satisfies above id value position).isUndeclared_or_declaredPart coherent first with
        undeclared | ⟨child, isPart⟩
      · exact .inr ⟨above, id, value, segment :: route, rfl, position, undeclared,
          .beneath first rest, List.cons_ne_nil _ _⟩
      · have onwards := inductionHypothesis (position.snoc isPart)
        rw [List.append_assoc, List.singleton_append] at onwards
        exact onwards

/-- What a whole visit gives satisfies the schema at every declared position. -/
theorem satisfies_of_position (coherent : schema.Coherent) (plain : schema.Plain)
    (reduced : schema.visit limit 0 root input [] = .ok output)
    (position : schema.Position root output path id part) : schema.Satisfies id part := by
  rcases origin_of_position plain position reduced with
    ⟨rfl, optional⟩ | ⟨-, source, sourcePath, -, -, visited⟩
  · exact satisfies_nil (.nil (.inr (.inl optional)))
  · exact (visitStep_of_visit plain visited).2.satisfies coherent

/-- Every place of what a whole visit gives is a declared position or within a container beneath
which nothing is declared. -/
theorem place_of_reaches (coherent : schema.Coherent) (plain : schema.Plain)
    (reduced : schema.visit limit 0 root input [] = .ok output)
    (reaches : output.Reaches path target) :
    (∃ id, schema.Position root output path id target) ∨
      ∃ above id container route, path = above ++ route ∧
        schema.Enclosed output above id container route target :=
  declared_or_enclosed coherent
    (fun _ _ _ position => satisfies_of_position coherent plain reduced position) reaches
    (.here root output)

/-! ## Where places come from -/

/-- A container beneath which nothing is declared has gone into the output as it is, from a position
of the input that is visited at the same depth. -/
theorem Enclosed.visited (plain : schema.Plain)
    (reduced : schema.visit limit 0 root input [] = .ok output)
    (enclosed : schema.Enclosed output above id container route target) :
    ∃ source sourcePath, schema.Visited root input source id container ∧
      source.length = above.length ∧
        schema.visit limit above.length id container sourcePath = .ok container := by
  obtain ⟨position, undeclared, within, below⟩ := enclosed
  have isContainer : container.isScalar = false := by
    by_contra scalar
    exact below (within.of_isScalar (by simpa using scalar)).1
  rcases origin_of_position plain position reduced with
    ⟨rfl, -⟩ | ⟨source, value, sourcePath, descends, sameLength, visited⟩
  · cases isContainer
  · rw [Nat.zero_add] at visited
    have step := (visitStep_of_visit plain visited).2
    obtain ⟨rfl, -⟩ := (step.rebuilds_of_container (.inr isContainer)).of_isUndeclared undeclared
    exact ⟨source, sourcePath, descends, sameLength, visited⟩

end Places

end Schema

end ParamSchema
