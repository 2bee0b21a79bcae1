import ParamSchema.Proofs.Document.Declaring
import ParamSchema.Proofs.Schema.Coherence

/-!
Contract: the nodes that are declared beneath a definition.

Owns:
- fields and items side by side, and templates;
- that an object takes fields only, and an array items or a template;
- that the declarations beneath every definition succeed exactly when its tree is valid.

Does not own: the root of a document (`Proofs.Document.Mirror`).
-/

namespace ParamSchema

namespace ParamDefinition

variable {arena : Arena} {parent id : NodeId} {definition : ParamDefinition}

/-! ## Definitions side by side -/

theorem fieldsBody_eq_map (definitions : List ParamDefinition) :
    fieldsBody definitions = definitions.map fun field => field.fieldDeclaration field.body := by
  induction definitions with
  | nil => rfl
  | cons definition rest inductionHypothesis =>
      rw [fieldsBody, inductionHypothesis, List.map_cons]

theorem itemsBody_eq_map (definitions : List ParamDefinition) :
    itemsBody definitions =
      definitions.map fun item => item.declaration .item .itemWith (.item none) item.body := by
  induction definitions with
  | nil => rfl
  | cons definition rest inductionHypothesis =>
      rw [itemsBody, inductionHypothesis, List.map_cons]

/-- The declarations of a definition are those of the definitions beneath it, behind a refusal of
ambiguous arrays. -/
theorem body_eq (definition : ParamDefinition) :
    definition.body = ambiguity definition.items definition.each ++
      (definition.fields.getD []).map (fun field => field.fieldDeclaration field.body) ++
      (definition.items.getD []).map
        (fun item => item.declaration .item .itemWith (.item none) item.body) ++
      definition.each.toList.map
        fun template => template.declaration .items .itemsWith .template template.body := by
  cases definition with
  | mk key typeName optional allowNil allowBlank coerce allowNonScalars inclusion fields items
      each =>
      rw [body]
      have ofFields : fieldBodies fields =
          (fields.getD []).map fun field => field.fieldDeclaration field.body := by
        cases fields with
        | none => rfl
        | some fields => exact fieldsBody_eq_map fields
      have ofItems : itemBodies items = (items.getD []).map fun item =>
          item.declaration .item .itemWith (.item none) item.body := by
        cases items with
        | none => rfl
        | some items => exact itemsBody_eq_map items
      have ofEach : templateBody each = each.toList.map fun template =>
          template.declaration .items .itemsWith .template template.body := by
        cases each <;> rfl
      rw [ofFields, ofItems, ofEach]

theorem runAll_refused {body : List Declaration} {promise : Arena → Prop}
    (refused : ∀ declaration ∈ body, ∃ error,
      (declaration.run parent arena).error = some error) (stays : promise arena) :
    (runAll parent arena body).SucceedsWhen (body = []) promise := by
  cases body with
  | nil => exact .nil rfl stays
  | cons declaration rest =>
      obtain ⟨error, failed⟩ := refused declaration List.mem_cons_self
      rw [runAll, Build.andThen_of_some failed]
      exact .of_failed failed (by simp)

theorem place_field {node : Node} {old : List (String × NodeId)}
    (keyed : node.children = .keyed old) (key : String) (child : NodeId) :
    node.place (.field key) child =
      if key ∈ old.map Prod.fst then .error (.duplicateKey key)
      else .ok (.field key, .keyed (old ++ [(key, child)])) := by
  have isDeclared : (old.lookup key).isSome = true ↔ key ∈ old.map Prod.fst := by
    simp [List.lookup_isSome_iff]
  unfold Node.place
  rw [keyed]
  simp only [isDeclared]

/-- Fields can be declared side by side with some keys taken already. -/
structure FieldsFit (taken : List String) (fields : List ParamDefinition) : Prop where
  valid : ∀ field ∈ fields, field.TreeValid
  keyed : ∀ field ∈ fields, field.key ≠ none
  distinct : (taken ++ fields.filterMap key).Nodup

theorem fieldsFit_cons {taken : List String} {field : ParamDefinition}
    {rest : List ParamDefinition} {key : String} (hasKey : field.key = some key) :
    FieldsFit taken (field :: rest) ↔ field.TreeValid ∧ FieldsFit (taken ++ [key]) rest := by
  constructor
  · rintro ⟨valid, keyed, distinct⟩
    rw [List.forall_mem_cons] at valid keyed
    refine ⟨valid.1, valid.2, keyed.2, ?_⟩
    simpa [hasKey] using distinct
  · rintro ⟨fieldValid, valid, keyed, distinct⟩
    refine ⟨List.forall_mem_cons.mpr ⟨fieldValid, valid⟩,
      List.forall_mem_cons.mpr ⟨by simp [hasKey], keyed⟩, ?_⟩
    simpa [hasKey] using distinct

/-- Fields side by side, beneath an object that has some fields already. -/
theorem fields_run {fields : List ParamDefinition} (runs : ∀ field ∈ fields, field.BodyRuns)
    {old : List (String × NodeId)} (inRange : parent < arena.size)
    (keyed : (arena.node parent).children = .keyed old) (distinct : (old.map Prod.fst).Nodup) :
    (runAll parent arena (fields.map fun field => field.fieldDeclaration field.body)).SucceedsWhen
      (FieldsFit (old.map Prod.fst) fields)
      (Arena.Grows parent (.keyed (old ++ (fields.filterMap key).zip (numbers arena.size fields)))
        fields arena) := by
  -- The keys that are taken grow with every field that is declared.
  induction fields generalizing arena old with
  | nil =>
      rw [List.map_nil]
      exact .nil ⟨by simp, by simp, by simpa using distinct⟩ (.refl (by simp [keyed, numbers]))
  | cons field rest inductionHypothesis =>
      rw [List.map_cons, runAll]
      cases hasKey : field.key with
      | none =>
          have failed : ((field.fieldDeclaration field.body).run parent arena).error =
              some (.invalidDefinition ("field of type " ++ field.typeName ++ " has no key")) := by
            rw [fieldDeclaration, hasKey, Declaration.run]
          rw [Build.andThen_of_some failed]
          exact .of_failed failed fun fit => fit.keyed field List.mem_cons_self hasKey
      | some key =>
          have isDeclaration : field.fieldDeclaration field.body =
              field.declaration .field .fieldWith (.field key) field.body := by
            rw [fieldDeclaration, hasKey]
          have placed := place_field keyed key arena.size
          rw [isDeclaration]
          by_cases isTaken : key ∈ old.map Prod.fst
          · rw [if_pos isTaken] at placed
            obtain ⟨error, failed⟩ :=
              declaration_refused placed .field .fieldWith field.body
            rw [Build.andThen_of_some failed]
            refine .of_failed failed fun fit => ?_
            have apart := (List.nodup_append.mp fit.distinct).2.2
            exact apart key isTaken key (by simp [hasKey]) rfl
          · rw [if_neg isTaken] at placed
            have stillDistinct := nodup_keys_append arena.size distinct isTaken
            have together := placed_andThen (runs field List.mem_cons_self) inRange placed .field
              .fieldWith fun middle stillInRange size children => by
                have later := inductionHypothesis
                  (fun other member => runs other (List.mem_cons_of_mem field member))
                  stillInRange children stillDistinct
                rw [size] at later
                exact later
            refine together.imp ?_ fun after _ grows => ?_
            · rw [fieldsFit_cons hasKey, List.map_append]
              rfl
            · simpa [hasKey, numbers] using grows

theorem place_item {node : Node} {old : List NodeId} (positional : node.children = .positional old)
    (child : NodeId) :
    node.place (.item none) child =
      .ok (.index old.length, .positional (old ++ [child])) := by
  unfold Node.place
  rw [positional]
  simp

/-- Items side by side, beneath an array that has some items already. -/
theorem items_run {items : List ParamDefinition} (runs : ∀ item ∈ items, item.BodyRuns)
    {old : List NodeId} (inRange : parent < arena.size)
    (positional : (arena.node parent).children = .positional old) :
    (runAll parent arena (items.map fun item =>
        item.declaration .item .itemWith (.item none) item.body)).SucceedsWhen
      (∀ item ∈ items, item.TreeValid)
      (Arena.Grows parent (.positional (old ++ numbers arena.size items)) items arena) := by
  induction items generalizing arena old with
  | nil =>
      rw [List.map_nil]
      exact .nil (by simp) (.refl (by simp [positional, numbers]))
  | cons item rest inductionHypothesis =>
      rw [List.map_cons, runAll]
      have together := placed_andThen (runs item List.mem_cons_self) inRange
        (place_item positional arena.size) .item .itemWith
          fun middle stillInRange size children => by
            have later := inductionHypothesis
              (fun other member => runs other (List.mem_cons_of_mem item member))
              stillInRange children
            rw [size] at later
            exact later
      refine together.imp List.forall_mem_cons.symm fun after _ grows => ?_
      simpa [numbers] using grows

/-- A template beneath an array that has nothing yet. -/
theorem template_run {template : ParamDefinition} (runs : template.BodyRuns)
    (inRange : parent < arena.size)
    (positional : (arena.node parent).children = .positional []) :
    (runAll parent arena
        [template.declaration .items .itemsWith .template template.body]).SucceedsWhen
      template.TreeValid
      (Arena.Grows parent (.homogeneous arena.size) [template] arena) := by
  have placed : (arena.node parent).place .template arena.size =
      .ok (.index 0, .homogeneous arena.size) := by
    unfold Node.place
    rw [positional]
  rw [runAll]
  refine (placed_andThen runs inRange placed .items .itemsWith fun middle _ _ children => ?_).imp
    (and_iff_left trivial) fun _ _ grows => grows
  exact .nil trivial (.refl children)

/-! ### Definitions beneath a node of another type -/

theorem declarations_refused {slot : Slot} {refusal : DefinitionError}
    (refused : (arena.node parent).place slot arena.size = .error refusal) (leaf block : Keyword)
    (definitions : List ParamDefinition) {promise : Arena → Prop} (stays : promise arena) :
    (runAll parent arena (definitions.map fun definition =>
        definition.declaration leaf block slot definition.body)).SucceedsWhen
      (definitions = []) promise := by
  refine (runAll_refused (fun declaration member => ?_) stays).imp List.map_eq_nil_iff
    fun _ _ holds => holds
  obtain ⟨definition, -, rfl⟩ := List.mem_map.mp member
  exact declaration_refused refused leaf block definition.body

theorem place_element_of_keyed {node : Node} {fields : List (String × NodeId)}
    (keyed : node.children = .keyed fields) (child : NodeId) :
    node.place (.item none) child = .error (.notAnArray node.type) ∧
      node.place .template child = .error (.notAnArray node.type) := by
  unfold Node.place
  rw [keyed]
  exact ⟨rfl, rfl⟩

theorem fields_refused {items : List NodeId}
    (positional : (arena.node parent).children = .positional items) (fields : List ParamDefinition)
    {promise : Arena → Prop} (stays : promise arena) :
    (runAll parent arena (fields.map fun field => field.fieldDeclaration field.body)).SucceedsWhen
      (fields = []) promise := by
  refine (runAll_refused (fun declaration member => ?_) stays).imp List.map_eq_nil_iff
    fun _ _ holds => holds
  obtain ⟨field, -, rfl⟩ := List.mem_map.mp member
  unfold fieldDeclaration
  cases field.key with
  | none => exact ⟨_, by rw [Declaration.run]⟩
  | some key =>
      have refused : (arena.node parent).place (.field key) arena.size =
          .error (.notAnObject (arena.node parent).type) := by
        unfold Node.place
        rw [positional]
      exact declaration_refused refused .field .fieldWith field.body

/-! ## Whole trees -/

theorem ambiguity_run (items : Option (List ParamDefinition)) (each : Option ParamDefinition)
    (id : NodeId) (arena : Arena) :
    (runAll id arena (ambiguity items each)).SucceedsWhen
      (¬(items.isSome = true ∧ each.isSome = true)) (· = arena) := by
  unfold ambiguity
  by_cases ambiguous : items.isSome = true ∧ each.isSome = true
  · rw [if_pos (Bool.and_eq_true_iff.mpr ambiguous), runAll, Declaration.run,
      Build.andThen_of_some rfl]
    exact .of_failed rfl (not_not_intro ambiguous)
  · rw [if_neg (mt Bool.and_eq_true_iff.mp ambiguous)]
    exact .nil ambiguous rfl

theorem treeValid_iff_of_object (registered : TypeName.lookup definition.typeName = some .object) :
    definition.TreeValid ↔
      ((¬(definition.items.isSome = true ∧ definition.each.isSome = true) ∧
        FieldsFit [] (definition.fields.getD [])) ∧
          definition.items.getD [] = []) ∧ definition.each.toList = [] := by
  rw [treeValid_iff]
  constructor
  · rintro ⟨valid, beneath⟩
    obtain ⟨noItems, noTemplate⟩ := valid.of_object registered
    refine ⟨⟨⟨valid.unambiguous, fun field member => beneath field ?_, valid.keyed, ?_⟩,
      noItems⟩, Option.toList_eq_nil_iff.mpr noTemplate⟩
    · simp [ParamDefinition.beneath, member]
    · simpa using valid.distinct
  · rintro ⟨⟨⟨unambiguous, fit⟩, noItems⟩, noTemplate⟩
    constructor
    · constructor
      case registered => exact ⟨_, registered⟩
      case composite => exact fun _ => .inl registered
      case unambiguous => exact unambiguous
      case ofObject => exact fun _ => registered
      case keyed => exact fit.keyed
      case distinct => simpa using fit.distinct
      case ofArray =>
        rintro (hasItems | hasTemplate)
        · exact absurd noItems hasItems
        · exact absurd (Option.toList_eq_nil_iff.mp noTemplate) hasTemplate
    · intro child member
      rw [ParamDefinition.beneath, noItems, noTemplate, List.append_nil, List.append_nil] at member
      exact fit.valid child member

theorem treeValid_iff_of_array (registered : TypeName.lookup definition.typeName = some .array) :
    definition.TreeValid ↔
      ((¬(definition.items.isSome = true ∧ definition.each.isSome = true) ∧
        definition.fields.getD [] = []) ∧
          ∀ item ∈ definition.items.getD [], item.TreeValid) ∧
            ∀ template ∈ definition.each.toList, template.TreeValid := by
  rw [treeValid_iff]
  constructor
  · rintro ⟨valid, beneath⟩
    have noFields := valid.of_array registered
    refine ⟨⟨⟨valid.unambiguous, noFields⟩, fun item member => beneath item ?_⟩,
      fun template member => beneath template ?_⟩
    · simp [ParamDefinition.beneath, member]
    · simp only [ParamDefinition.beneath, List.mem_append, member, or_true]
  · rintro ⟨⟨⟨unambiguous, noFields⟩, itemsValid⟩, templateValid⟩
    constructor
    · constructor
      case registered => exact ⟨_, registered⟩
      case composite => exact fun _ => .inr registered
      case unambiguous => exact unambiguous
      case ofObject => exact fun hasFields => absurd noFields hasFields
      case keyed => rw [noFields]; simp
      case distinct => rw [noFields]; simp
      case ofArray => exact fun _ => registered
    · intro child member
      rw [ParamDefinition.beneath, noFields, List.nil_append, List.mem_append] at member
      exact member.elim (itemsValid child) (templateValid child)

section Bodies

variable (runs : ∀ child ∈ definition.beneath, child.BodyRuns) (inRange : id < arena.size)

include runs inRange

/-- Beneath an object all fields are declared, and nothing else is taken. -/
theorem body_run_object (registered : TypeName.lookup definition.typeName = some .object)
    (children : (arena.node id).children = .keyed []) :
    (runAll id arena definition.body).SucceedsWhen definition.TreeValid
      (Arena.Grows id (definition.childrenAt .object arena.size) definition.beneath arena) := by
  have fieldRuns : ∀ field ∈ definition.fields.getD [], field.BodyRuns := fun field member =>
    runs field (by simp [beneath, member])
  have withFields := (ambiguity_run definition.items definition.each id arena).append
    fun middle _ same => by
      rw [same]
      exact fields_run fieldRuns inRange children List.nodup_nil
  have withItems := withFields.append fun middle _ grows =>
    declarations_refused (place_element_of_keyed (congrArg Node.children grows.holder) _).1
      .item .itemWith (definition.items.getD []) grows
  have withTemplate := withItems.append fun middle _ grows =>
    declarations_refused (place_element_of_keyed (congrArg Node.children grows.holder) _).2
      .items .itemsWith definition.each.toList grows
  rw [body_eq]
  refine withTemplate.imp (treeValid_iff_of_object registered).symm ?_
  rintro after ⟨⟨-, noItems⟩, noTemplate⟩ grows
  rw [beneath, noItems, noTemplate, List.append_nil, List.append_nil]
  exact grows

/-- Beneath an array all items or the template are declared, and no fields are taken. -/
theorem body_run_array (registered : TypeName.lookup definition.typeName = some .array)
    (children : (arena.node id).children = .positional []) :
    (runAll id arena definition.body).SucceedsWhen definition.TreeValid
      (Arena.Grows id (definition.childrenAt .array arena.size) definition.beneath arena) := by
  have itemRuns : ∀ item ∈ definition.items.getD [], item.BodyRuns := fun item member =>
    runs item (by simp [beneath, member])
  -- A template stands beneath an array without items, as the two exclude each other.
  have eachRun : ∀ {middle : Arena},
      ¬(definition.items.isSome = true ∧ definition.each.isSome = true) →
      Arena.Grows id (.positional ([] ++ numbers arena.size (definition.items.getD [])))
        (definition.items.getD []) arena middle →
      (runAll id middle (definition.each.toList.map fun template =>
          template.declaration .items .itemsWith .template template.body)).SucceedsWhen
        (∀ template ∈ definition.each.toList, template.TreeValid)
        (Arena.Grows id (definition.childrenAt .array arena.size)
          (definition.items.getD [] ++ definition.each.toList) arena) := by
    intro middle unambiguous grows
    cases hasTemplate : definition.each with
    | none =>
        rw [Option.toList_none, List.map_nil, List.append_nil, childrenAt, hasTemplate]
        exact .nil (by simp) grows
    | some template =>
        have noItems : definition.items = none := by
          cases hasItems : definition.items with
          | none => rfl
          | some items => exact absurd ⟨by simp [hasItems], by simp [hasTemplate]⟩ unambiguous
        rw [noItems] at grows ⊢
        have size : middle.size = arena.size := grows.size
        have made := template_run (runs template (by simp [beneath, hasTemplate]))
          (size ▸ inRange) (congrArg Node.children grows.holder)
        refine made.imp (by simp) fun after _ later => ?_
        rw [childrenAt, hasTemplate, ← size]
        exact grows.trans inRange later
  have withFields := (ambiguity_run definition.items definition.each id arena).append
    fun middle _ same => by
      rw [same]
      exact fields_refused children (definition.fields.getD []) (Eq.refl arena)
  have withItems := withFields.append fun middle _ same => by
    rw [← same]
    exact items_run itemRuns inRange children
  have withTemplate := withItems.append fun middle holds grows =>
    eachRun holds.1.1 grows
  rw [body_eq]
  refine withTemplate.imp (treeValid_iff_of_array registered).symm ?_
  rintro after ⟨⟨⟨-, noFields⟩, -⟩, -⟩ grows
  rw [beneath, noFields, List.nil_append]
  exact grows

end Bodies

/-- The declarations beneath every definition succeed exactly when its tree is valid. -/
theorem bodyRuns (definition : ParamDefinition) : definition.BodyRuns := by
  induction definition using beneath_induction with
  | step definition runs =>
      intro arena id type inRange registered composite children
      cases type with
      | object => exact body_run_object runs inRange registered children
      | array => exact body_run_array runs inRange registered children
      | nil | boolean | integer | float | string => cases composite

end ParamDefinition

end ParamSchema
