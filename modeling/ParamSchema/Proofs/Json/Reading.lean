import ParamSchema.Proofs.Json.Numbers
import ParamSchema.Proofs.Json.Strings
import ParamSchema.Proofs.Json.Trees

/-!
Contract: trees that are written as text and read again.

Owns:
- the tokens that a text spells, and those of a tree;
- the draft that the tokens of a tree lead to;
- that the text of a tree is read as the draft of that tree, and is one line.

Does not own: what a draft is read as (`Proofs.Json.Trees`).
-/

namespace ParamSchema.Json

/-! ## Spelling -/

section Spelling

variable {left right text : String} {tokens others : List Token} {token : Token}

/-- A text that spells tokens whatever stands behind it. -/
def Spells (text : String) (tokens : List Token) : Prop :=
  ∀ rest, Token.ofText (text.toList ++ rest) = tokens ++ Token.ofText rest

/-- A text that spells tokens if what stands behind it ends numbers. -/
def SpellsEnded (text : String) (tokens : List Token) : Prop :=
  ∀ rest, EndsNumber rest → Token.ofText (text.toList ++ rest) = tokens ++ Token.ofText rest

/-- A mark is a token of its own, and ends a number in front of it. -/
structure IsMark (text : String) (token : Token) : Prop where
  spells : Spells text [token]
  ends : ∀ rest, EndsNumber (text.toList ++ rest)

theorem Spells.ended (spells : Spells text tokens) : SpellsEnded text tokens :=
  fun rest _ => spells rest

theorem Spells.append (first : Spells left tokens) (second : SpellsEnded right others) :
    SpellsEnded (left ++ right) (tokens ++ others) := by
  intro rest ends
  rw [String.toList_append, List.append_assoc, first, second rest ends, List.append_assoc]

/-- A mark behind a text ends whatever number stands there last. -/
theorem SpellsEnded.closed (spells : SpellsEnded left tokens) (mark : IsMark right token) :
    Spells (left ++ right) (tokens ++ [token]) := by
  intro rest
  rw [String.toList_append, List.append_assoc, spells _ (mark.ends rest), mark.spells,
    List.append_assoc]

/-- The marks of JSON text. -/
def marks : List (String × Token) :=
  [(",", .comma), (":", .colon), ("[", .openList), ("]", .closeList), ("\x7b", .openObject),
    ("\x7d", .closeObject)]

theorem isMark_of_mem (listed : (text, token) ∈ marks) : IsMark text token := by
  simp only [marks, List.mem_cons, List.not_mem_nil, or_false, Prod.mk.injEq] at listed
  rcases listed with ⟨rfl, rfl⟩ | ⟨rfl, rfl⟩ | ⟨rfl, rfl⟩ | ⟨rfl, rfl⟩ | ⟨rfl, rfl⟩ | ⟨rfl, rfl⟩
  all_goals exact ⟨Token.ofText.eq_2 _, fun _ => ⟨rfl, by simp, by simp⟩⟩

/-- Tokens with commas between them. -/
def commaTokens : List (List Token) → List Token
  | [] => []
  | [tokens] => tokens
  | tokens :: rest => tokens ++ [.comma] ++ commaTokens rest

theorem exists_commaTokens_cons (first : List Token) (rest : List (List Token)) :
    ∃ behind, commaTokens (first :: rest) = first ++ behind := by
  cases rest with
  | nil => exact ⟨[], (List.append_nil first).symm⟩
  | cons second rest => exact ⟨_, List.append_assoc _ _ _⟩

theorem spells_commaSeparated {texts : List String} {tokens : List (List Token)}
    (each : List.Forall₂ SpellsEnded texts tokens) :
    SpellsEnded (commaSeparated texts) (commaTokens tokens) := by
  induction each with
  | nil => exact fun _ _ => rfl
  | cons spells others inductionHypothesis =>
      cases others with
      | nil => exact spells
      | cons second others =>
          exact (spells.closed (isMark_of_mem (by simp [marks]))).append inductionHypothesis

/-- The texts of a container between its two marks. -/
theorem spells_enclosed {opening closing : String} {opens closes : Token} {texts : List String}
    {tokens : List (List Token)} (first : (opening, opens) ∈ marks)
    (last : (closing, closes) ∈ marks) (each : List.Forall₂ SpellsEnded texts tokens) :
    Spells (opening ++ commaSeparated texts ++ closing)
      ([opens] ++ commaTokens tokens ++ [closes]) :=
  ((isMark_of_mem first).spells.append (spells_commaSeparated each)).closed (isMark_of_mem last)

theorem spells_quote (text : String) : Spells (quote text) [.string (.ok text)] := by
  intro rest
  have literal : (quote text).toList ++ rest =
      '"' :: (text.toList.flatMap escape ++ '"' :: rest) := by
    simp [toList_quote]
  have next : Token.next '"' (text.toList.flatMap escape ++ '"' :: rest) =
      (.string (.ok text), rest) := ofString_literal text rest
  rw [literal, Token.ofText, if_neg (by decide), next]
  rfl

theorem spells_memberText (key : String) (value : SpellsEnded text tokens) :
    SpellsEnded (memberText key text) ([.string (.ok key), .colon] ++ tokens) :=
  ((spells_quote key).ended.closed (isMark_of_mem (by simp [marks]))).append value

end Spelling

/-! ## Tokens of trees -/

mutual

/-- The tokens of a tree, each number as it is read again. -/
def tokens : Json → List Token
  | .null => [.scalar .null]
  | .boolean value => [.scalar (.boolean value)]
  | .number value => [.scalar (.number value.reread)]
  | .string value => [.string (.ok value)]
  | .array elements => [.openList] ++ commaTokens (elementTokens elements) ++ [.closeList]
  | .object members => [.openObject] ++ commaTokens (memberTokens members) ++ [.closeObject]

def elementTokens : List Json → List (List Token)
  | [] => []
  | element :: rest => element.tokens :: elementTokens rest

def memberTokens : List (String × Json) → List (List Token)
  | [] => []
  | (key, value) :: rest => ([.string (.ok key), .colon] ++ value.tokens) :: memberTokens rest

end

theorem spells_keyword (value : Bool) :
    Spells (if value then "true" else "false") [.scalar (.boolean value)] := by
  intro rest
  cases value <;> exact Token.ofText.eq_2 _ _

mutual

/-- The text of a tree spells its tokens. -/
theorem spells_render : ∀ tree : Json, SpellsEnded tree.render tree.tokens
  | .null => fun _ _ => Token.ofText.eq_2 _ _
  | .boolean value => (spells_keyword value).ended
  | .number value => fun _ ends => ofText_number value ends
  | .string value => (spells_quote value).ended
  | .array elements =>
      (spells_enclosed (by simp [marks]) (by simp [marks]) (spells_elementTexts elements)).ended
  | .object members =>
      (spells_enclosed (by simp [marks]) (by simp [marks]) (spells_memberTexts members)).ended

theorem spells_elementTexts : ∀ elements : List Json,
    List.Forall₂ SpellsEnded (elementTexts elements) (elementTokens elements)
  | [] => .nil
  | element :: rest => .cons (spells_render element) (spells_elementTexts rest)

theorem spells_memberTexts : ∀ members : List (String × Json),
    List.Forall₂ SpellsEnded (memberTexts members) (memberTokens members)
  | [] => .nil
  | (key, value) :: rest =>
      .cons (spells_memberText key (spells_render value)) (spells_memberTexts rest)

end

/-! ## The walk over them -/

/-- A walk that goes on from where a step has led. -/
def Draft.walkOn (place : Draft.Mode × List Draft.Frame) (rest : List Token) : Document :=
  Draft.walk place.1 place.2 rest

open Draft (walk walkOn complete Frame)

/-- The tokens of a tree complete its draft, wherever a value is due. -/
def Completes (tree : Json) : Prop :=
  ∀ frames rest, walk .value frames (tree.tokens ++ rest) =
    walkOn (complete (Draft.ofJson Number.reread tree) frames) rest

/-- The tokens of an element are as good as those of a value that stands elsewhere. -/
theorem walk_element (first : Json) (others : List Json) (before : List Draft)
    (frames : List Frame) (rest : List Token) :
    walk (.element before) frames (commaTokens (elementTokens (first :: others)) ++ rest) =
      walk .value (.list before :: frames)
        (commaTokens (elementTokens (first :: others)) ++ rest) := by
  obtain ⟨behind, split⟩ := exists_commaTokens_cons first.tokens (elementTokens others)
  rw [elementTokens, split]
  cases first <;> rfl

theorem walk_firstElement (first : Json) (others : List Json) (frames : List Frame)
    (rest : List Token) :
    walk .firstElement frames (commaTokens (elementTokens (first :: others)) ++ rest) =
      walk .value (.list [] :: frames) (commaTokens (elementTokens (first :: others)) ++ rest) := by
  obtain ⟨behind, split⟩ := exists_commaTokens_cons first.tokens (elementTokens others)
  rw [elementTokens, split]
  cases first <;> rfl

theorem walk_firstKey (first : String × Json) (others : List (String × Json))
    (frames : List Frame) (rest : List Token) :
    walk .firstKey frames (commaTokens (memberTokens (first :: others)) ++ rest) =
      walk (.key []) frames (commaTokens (memberTokens (first :: others)) ++ rest) := by
  obtain ⟨key, value⟩ := first
  obtain ⟨behind, split⟩ :=
    exists_commaTokens_cons ([.string (.ok key), .colon] ++ value.tokens) (memberTokens others)
  rw [memberTokens, split]
  rfl

/-- Elements with commas between them complete a list, behind those that it has already. -/
theorem walk_elements {first : Json} {others : List Json} {before : List Draft}
    {frames : List Frame} (rest : List Token)
    (each : ∀ element ∈ first :: others, Completes element) :
    walk .value (.list before :: frames)
      (commaTokens (elementTokens (first :: others)) ++ ([.closeList] ++ rest)) =
      walkOn (complete (.array (before.reverse ++
        Draft.ofElements Number.reread (first :: others)) none) frames) rest := by
  obtain ⟨firstCompletes, othersComplete⟩ := List.forall_mem_cons.mp each
  clear each
  induction others generalizing first before with
  | nil =>
      change walk _ _ (first.tokens ++ ([.closeList] ++ rest)) = _
      rw [firstCompletes, Draft.ofElements, Draft.ofElements, ← List.reverse_cons]
      rfl
  | cons second others inductionHypothesis =>
      have secondCompletes := List.forall_mem_cons.mp othersComplete
      change walk _ _ (first.tokens ++ [.comma] ++ commaTokens (elementTokens (second :: others)) ++
        ([.closeList] ++ rest)) = _
      rw [List.append_assoc, List.append_assoc, firstCompletes, Draft.ofElements]
      change walk (.element (Draft.ofJson Number.reread first :: before)) frames
        (commaTokens (elementTokens (second :: others)) ++ ([.closeList] ++ rest)) = _
      rw [walk_element, inductionHypothesis secondCompletes.1 secondCompletes.2,
        List.reverse_cons, List.append_assoc]
      rfl

/-- Members with commas between them complete an object, behind those that it has already. -/
theorem walk_members {first : String × Json} {others : List (String × Json)}
    {before : List (Except Fault String × Draft)} {frames : List Frame} (rest : List Token)
    (each : ∀ member ∈ first :: others, Completes member.2) :
    walk (.key before) frames
      (commaTokens (memberTokens (first :: others)) ++ ([.closeObject] ++ rest)) =
      walkOn (complete (.object (before.reverse ++
        Draft.ofMembers Number.reread (first :: others)) none) frames) rest := by
  obtain ⟨firstCompletes, othersComplete⟩ := List.forall_mem_cons.mp each
  clear each
  obtain ⟨key, value⟩ := first
  induction others generalizing key value before with
  | nil =>
      change walk .value (.object before (.ok key) :: frames)
        (value.tokens ++ ([.closeObject] ++ rest)) = _
      rw [firstCompletes, Draft.ofMembers, Draft.ofMembers, ← List.reverse_cons]
      rfl
  | cons second others inductionHypothesis =>
      obtain ⟨nextKey, next⟩ := second
      have secondCompletes := List.forall_mem_cons.mp othersComplete
      change walk .value (.object before (.ok key) :: frames) (value.tokens ++ [.comma] ++
        commaTokens (memberTokens ((nextKey, next) :: others)) ++ ([.closeObject] ++ rest)) = _
      rw [List.append_assoc, List.append_assoc, firstCompletes, Draft.ofMembers]
      change walk (.key ((.ok key, Draft.ofJson Number.reread value) :: before)) frames
        (commaTokens (memberTokens ((nextKey, next) :: others)) ++ ([.closeObject] ++ rest)) = _
      rw [inductionHypothesis secondCompletes.2 nextKey next secondCompletes.1,
        List.reverse_cons, List.append_assoc]
      rfl

theorem completes (tree : Json) : Completes tree := by
  induction tree using parts_induction with
  | step tree inductionHypothesis =>
      intro frames rest
      cases tree with
      | null | boolean | number | string => rfl
      | array elements =>
          cases elements with
          | nil => rfl
          | cons first others =>
              rw [tokens, List.append_assoc, List.append_assoc]
              change walk .firstElement frames
                (commaTokens (elementTokens (first :: others)) ++ ([.closeList] ++ rest)) = _
              rw [walk_firstElement, walk_elements rest inductionHypothesis]
              rfl
      | object members =>
          cases members with
          | nil => rfl
          | cons first others =>
              rw [tokens, List.append_assoc, List.append_assoc]
              change walk .firstKey frames
                (commaTokens (memberTokens (first :: others)) ++ ([.closeObject] ++ rest)) = _
              rw [walk_firstKey, walk_members rest fun member held =>
                inductionHypothesis member.2 (List.mem_map_of_mem held)]
              rfl

/-! ## Whole texts -/

/-- A text that spells the tokens of a tree is read as the draft of the tree, and nothing of it is
left; so is the same text as a line. -/
theorem ofText_render (tree : Json) :
    Document.ofText tree.render = ⟨Draft.ofJson Number.reread tree, none⟩ ∧
      Document.ofText (tree.render ++ "\n") = ⟨Draft.ofJson Number.reread tree, none⟩ := by
  have read : walk .value [] tree.tokens = ⟨Draft.ofJson Number.reread tree, none⟩ := by
    have walked := completes tree [] []
    rwa [List.append_nil] at walked
  have whole := spells_render tree [] endsNumber_nil
  have line := spells_render tree ['\n'] endsNumber_newline
  have nothing : Token.ofText ['\n'] = [] := by
    rw [Token.ofText, if_pos (by decide), Token.ofText]
  rw [List.append_nil, Token.ofText, List.append_nil] at whole
  rw [nothing, List.append_nil] at line
  constructor
  · rw [Document.ofText, whole]
    exact read
  · rw [Document.ofText, String.toList_append]
    change Document.ofTokens (Token.ofText (tree.render.toList ++ ['\n'])) = _
    rw [line]
    exact read

theorem newline_not_mem_commaSeparated {texts : List String}
    (each : ∀ text ∈ texts, '\n' ∉ text.toList) : '\n' ∉ (commaSeparated texts).toList := by
  induction texts with
  | nil => exact List.not_mem_nil
  | cons first rest inductionHypothesis =>
      obtain ⟨inFirst, inRest⟩ := List.forall_mem_cons.mp each
      cases rest with
      | nil => exact inFirst
      | cons second rest => simp [commaSeparated, inFirst, inductionHypothesis inRest]

theorem newline_not_mem_memberText (key : String) {value : String} (inValue : '\n' ∉ value.toList) :
    '\n' ∉ (memberText key value).toList := by
  simp [memberText, newline_not_mem_quote, inValue]

mutual

/-- The text of a tree is one line, whatever characters its keys and strings have. -/
theorem newline_not_mem_render : ∀ tree : Json, '\n' ∉ tree.render.toList
  | .null | .boolean true | .boolean false => by decide
  | .number value => newline_not_mem_number value
  | .string value => newline_not_mem_quote value
  | .array elements => by
      have inElements := newline_not_mem_commaSeparated (newline_not_mem_elementTexts elements)
      simpa [render, bracketed] using inElements
  | .object members => by
      have inMembers := newline_not_mem_commaSeparated (newline_not_mem_memberTexts members)
      simpa [render, braced] using inMembers

theorem newline_not_mem_elementTexts : ∀ elements : List Json,
    ∀ text ∈ elementTexts elements, '\n' ∉ text.toList
  | [] => List.forall_mem_nil _
  | element :: rest =>
      List.forall_mem_cons.mpr ⟨newline_not_mem_render element, newline_not_mem_elementTexts rest⟩

theorem newline_not_mem_memberTexts : ∀ members : List (String × Json),
    ∀ text ∈ memberTexts members, '\n' ∉ text.toList
  | [] => List.forall_mem_nil _
  | (key, value) :: rest =>
      List.forall_mem_cons.mpr ⟨newline_not_mem_memberText key (newline_not_mem_render value),
        newline_not_mem_memberTexts rest⟩

end

end ParamSchema.Json
