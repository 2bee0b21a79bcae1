import Mathlib.Data.List.TakeWhile
import ParamSchema.CommandLine.Arguments
import ParamSchema.Proofs.Outcome

/-!
Contract: what accepted arguments say.

Owns:
- the texts of options, and that an argument is an option just when it is such a text;
- the options that a list of arguments writes, each with its value;
- that the values of a reading are those that are written, step by step and for a whole run;
- that a command that is accepted stands behind its word and takes its options from there.

Does not own: arguments that are refused.
-/

namespace ParamSchema.CommandLine

/-! ## Texts of options -/

/-- The text of an option, with the value that is attached to it, if there is one. -/
def Flag.text (flag : Flag) : Option String → String
  | none => "--" ++ flag.word
  | some value => "--" ++ flag.word ++ "=" ++ value

section Splitting

variable {word : List Char}

theorem splitAttached_word (noEquals : ∀ character ∈ word, (character != '=') = true) :
    splitAttached word = (String.ofList word, none) := by
  have whole : word.takeWhile (· != '=') = word := List.takeWhile_eq_self_iff.mpr noEquals
  rw [splitAttached, whole, List.drop_length]

theorem splitAttached_value (noEquals : ∀ character ∈ word, (character != '=') = true)
    (value : List Char) :
    splitAttached (word ++ '=' :: value) = (String.ofList word, some (String.ofList value)) := by
  have whole : (word ++ '=' :: value).takeWhile (· != '=') = word := by
    rw [List.takeWhile_append_of_pos noEquals, List.takeWhile_cons_of_neg (by decide),
      List.append_nil]
  rw [splitAttached, whole, List.drop_left]

/-- What is split into the word of an option and a value is the text of that option. -/
theorem eq_of_splitAttached {flag : Flag} {text : List Char} {attached : Option String}
    (split : splitAttached text = (flag.word, attached)) :
    (flag.text attached).toList = '-' :: '-' :: text := by
  have parts := List.takeWhile_append_dropWhile (p := (· != '=')) (l := text)
  have behind : text.drop (text.takeWhile (· != '=')).length = text.dropWhile (· != '=') := by
    have dropped := congrArg (List.drop (text.takeWhile (· != '=')).length) parts
    rw [List.drop_left] at dropped
    exact dropped.symm
  have stop := List.head?_dropWhile_not (· != '=') text
  rw [splitAttached, behind] at split
  generalize text.takeWhile (· != '=') = word at parts split
  generalize text.dropWhile (· != '=') = rest at parts split stop
  subst parts
  cases rest with
  | nil =>
      obtain ⟨sameWord, rfl⟩ := Prod.mk.inj split
      simp [Flag.text, ← sameWord]
  | cons character value =>
      obtain ⟨sameWord, rfl⟩ := Prod.mk.inj split
      have equals : character = '=' := by simpa using stop
      simp [Flag.text, ← sameWord, equals]

end Splitting

theorem noEquals_word (flag : Flag) :
    ∀ character ∈ flag.word.toList, (character != '=') = true :=
  List.all_eq_true.mp (by cases flag <;> decide)

theorem flag?_word (level : Level) (flag : Flag) :
    level.flag? flag.word = if flag ∈ level.flags then some flag else none := by
  rcases level with _ | _ | _ <;> cases flag <;> decide

theorem word_of_flag? {level : Level} {word : String} {flag : Flag}
    (found : level.flag? word = some flag) : flag.word = word :=
  eq_of_beq (List.find?_some (p := fun flag : Flag => flag.word == word) found)

/-- Behind two hyphens and more an argument has the shape of a long option. -/
theorem shape_long {level : Level} {argument : String} {text : List Char} (nonempty : text ≠ [])
    (long : argument.toList = '-' :: '-' :: text) :
    level.shape argument = level.longShape text := by
  obtain ⟨first, rest, rfl⟩ := List.exists_cons_of_ne_nil nonempty
  rw [Level.shape, long]
  rfl

/-- The text of an option has the shape of that option, wherever the option is known. -/
theorem shape_text (level : Level) (flag : Flag) (attached : Option String) :
    level.shape (flag.text attached) =
      if flag ∈ level.flags then .flag flag attached else .unknown := by
  have unasked : flag.word ≠ "help" ∧ flag.word ≠ "version" ∧ flag.word.toList ≠ [] := by
    cases flag <;> decide
  have split : ∃ text, text ≠ [] ∧ (flag.text attached).toList = '-' :: '-' :: text ∧
      splitAttached text = (flag.word, attached) := by
    cases attached with
    | none =>
        have split := splitAttached_word (noEquals_word flag)
        exact ⟨flag.word.toList, unasked.2.2, by simp [Flag.text], by simpa using split⟩
    | some value =>
        have split := splitAttached_value (noEquals_word flag) value.toList
        exact ⟨flag.word.toList ++ '=' :: value.toList, by simp, by simp [Flag.text],
          by simpa using split⟩
  obtain ⟨text, nonempty, long, split⟩ := split
  rw [shape_long nonempty long, Level.longShape, split]
  dsimp only
  rw [flag?_word]
  by_cases known : flag ∈ level.flags
  · simp only [if_pos known]
  · simp [known, unasked]

theorem eq_of_longShape {level : Level} {text : List Char} {flag : Flag} {attached : Option String}
    (isFlag : level.longShape text = .flag flag attached) :
    splitAttached text = (flag.word, attached) := by
  rw [Level.longShape] at isFlag
  cases split : splitAttached text with
  | mk word found =>
      rw [split] at isFlag
      dsimp only at isFlag
      cases known : level.flag? word with
      | some other =>
          rw [known] at isFlag
          cases isFlag
          rw [word_of_flag? known]
      | none =>
          rw [known] at isFlag
          dsimp only at isFlag
          split at isFlag
          · cases isFlag
          · split at isFlag <;> cases isFlag

/-- Only the text of an option has the shape of that option. -/
theorem eq_text_of_shape {level : Level} {argument : String} {flag : Flag}
    {attached : Option String} (isFlag : level.shape argument = .flag flag attached) :
    argument = flag.text attached := by
  rw [← String.toList_inj]
  unfold Level.shape at isFlag
  split at isFlag
  · cases isFlag
  · next text _ long => rw [long, eq_of_splitAttached (eq_of_longShape isFlag)]
  · split at isFlag
    · cases isFlag
    · split at isFlag <;> cases isFlag
  · cases isFlag

/-- The text of an option tells the option and its value. -/
theorem text_eq_text_iff {flag other : Flag} {attached found : Option String} :
    flag.text attached = other.text found ↔ flag = other ∧ attached = found := by
  refine ⟨fun same => ?_, fun ⟨sameFlag, sameValue⟩ => sameFlag ▸ sameValue ▸ rfl⟩
  have known : ∀ flag : Flag, flag ∈ (Level.behind .validate).flags := by
    intro flag
    cases flag <;> decide
  have shapes := congrArg (Level.behind .validate).shape same
  rw [shape_text, shape_text, if_pos (known _), if_pos (known _)] at shapes
  exact Shape.flag.inj shapes

/-! ## What arguments write -/

/-- An argument that no option has as its text. -/
def IsNoOption (argument : String) : Prop :=
  ∀ (flag : Flag) (attached : Option String), argument ≠ flag.text attached

theorem isNoOption_of_shape {level : Level} {argument : String}
    (shape : level.shape argument = .plain ∨ level.shape argument = .escape) :
    IsNoOption argument := by
  rintro flag attached rfl
  rw [shape_text] at shape
  split at shape <;> rcases shape with shape | shape <;> cases shape

/-- An option is written with a value, which is attached to it or is the next argument. -/
inductive Writes (flag : Flag) (value : String) : List String → Prop where
  | attached (rest : List String) : Writes flag value (flag.text (some value) :: rest)
  | separate (rest : List String) : Writes flag value (flag.text none :: value :: rest)
  | later {argument : String} {rest : List String} (written : Writes flag value rest) :
      Writes flag value (argument :: rest)

section Writes

variable {flag other : Flag} {value argument : String} {rest : List String}

theorem writes_cons_iff :
    Writes flag value (argument :: rest) ↔
      argument = flag.text (some value) ∨
        (argument = flag.text none ∧ ∃ others, rest = value :: others) ∨
          Writes flag value rest := by
  constructor
  · intro written
    cases written with
    | attached => exact .inl rfl
    | separate others => exact .inr (.inl ⟨rfl, others, rfl⟩)
    | later written => exact .inr (.inr written)
  · rintro (rfl | ⟨rfl, others, rfl⟩ | written)
    · exact .attached rest
    · exact .separate others
    · exact .later written

theorem writes_noOption (isNone : IsNoOption argument) :
    Writes flag value (argument :: rest) ↔ Writes flag value rest := by
  rw [writes_cons_iff]
  simp [isNone flag]

theorem writes_attached (found : String) :
    Writes flag value (other.text (some found) :: rest) ↔
      (flag = other ∧ value = found) ∨ Writes flag value rest := by
  rw [writes_cons_iff]
  simp [text_eq_text_iff, eq_comm]

theorem writes_separate (isNone : IsNoOption argument) :
    Writes flag value (other.text none :: argument :: rest) ↔
      (flag = other ∧ value = argument) ∨ Writes flag value rest := by
  rw [writes_cons_iff, writes_noOption isNone]
  simp [text_eq_text_iff, eq_comm]

end Writes

/-! ## Readings -/

namespace Reading

/-- The arguments that have been met but not yet settled. -/
def unsettled (reading : Reading) : List String :=
  match reading.pending with
  | none => []
  | some (flag, none) => [flag.text none]
  | some (flag, some value) => [flag.text none, value]

/-- A value that has been met is not the text of an option. -/
def Sound (reading : Reading) : Prop :=
  ∀ flag value, reading.pending = some (flag, some value) → IsNoOption value

/-- What a reading says of an option when arguments are still to come: a value has been given to it,
or is written in what is left. -/
def Says (reading : Reading) (arguments : List String) (flag : Flag) (value : String) : Prop :=
  reading.value? flag = some value ∨ Writes flag value (reading.unsettled ++ arguments)

variable {reading next : Reading} {flag other : Flag} {value : String} {arguments : List String}

theorem give_eq_ok (gives : reading.give other value = .ok next) :
    reading.value? other = none ∧ next = ⟨(other, value) :: reading.given, none⟩ := by
  unfold give at gives
  split at gives
  · cases gives
  · next unset =>
      split at gives
      · cases gives
      · exact ⟨by simpa using unset, (Except.ok.inj gives).symm⟩

theorem value?_of_give {found : String} (gives : reading.give other found = .ok next) :
    next.value? flag = some value ↔
      reading.value? flag = some value ∨ flag = other ∧ value = found := by
  obtain ⟨unset, rfl⟩ := give_eq_ok gives
  unfold value? at *
  rw [List.lookup_cons]
  by_cases same : flag = other
  · subst same
    simp [unset, eq_comm]
  · simp [beq_false_of_ne same, same]

theorem pending_of_give (gives : reading.give other value = .ok next) : next.pending = none := by
  obtain ⟨-, rfl⟩ := give_eq_ok gives
  rfl

theorem says_of_pending_eq_none (nothing : reading.pending = none) :
    reading.Says arguments flag value ↔
      reading.value? flag = some value ∨ Writes flag value arguments := by
  simp [Says, unsettled, nothing]

/-- Settling changes nothing of what a reading says, and leaves nothing pending. -/
theorem says_settle (sound : reading.Sound) (settles : reading.settle = .ok next)
    (arguments : List String) (flag : Flag) (value : String) :
    next.pending = none ∧ (next.Says arguments flag value ↔ reading.Says arguments flag value) := by
  unfold settle at settles
  split at settles
  · next nothing =>
      cases settles
      exact ⟨nothing, Iff.rfl⟩
  · cases settles
  · next other found waits =>
      have settled := pending_of_give settles
      refine ⟨settled, ?_⟩
      rw [says_of_pending_eq_none settled, value?_of_give settles, or_assoc,
        ← writes_separate (sound _ _ waits)]
      simp [Says, unsettled, waits]

/-- An option that is met is added to what a reading says. -/
theorem says_meet {attached : Option String} (sound : reading.Sound)
    (meets : reading.meet other attached = .ok next) :
    next.Sound ∧
      (next.Says arguments flag value ↔
        reading.Says (other.text attached :: arguments) flag value) := by
  obtain ⟨settled, settles, meets⟩ := Except.bind_eq_ok_iff.mp meets
  obtain ⟨nothing, same⟩ :=
    says_settle sound settles (other.text attached :: arguments) flag value
  rw [← same]
  cases attached with
  | none =>
      cases meets
      refine ⟨nofun, ?_⟩
      simp [Says, unsettled, nothing, value?]
  | some found =>
      have given := pending_of_give meets
      refine ⟨fun _ _ pends => absurd (given.symm.trans pends) nofun, ?_⟩
      rw [says_of_pending_eq_none given, says_of_pending_eq_none nothing, value?_of_give meets,
        or_assoc, ← writes_attached]

/-- A value that is met is that of the option that waits for one. -/
theorem says_await {argument : String} (isNone : IsNoOption argument)
    (waits : reading.pending = some (other, none)) :
    ({ reading with pending := some (other, some argument) } : Reading).Sound ∧
      (({ reading with pending := some (other, some argument) } : Reading).Says
          arguments flag value ↔
        reading.Says (argument :: arguments) flag value) := by
  constructor
  · rintro _ _ ⟨⟩
    exact isNone
  · simp [Says, unsettled, waits, value?]

end Reading

/-! ## Runs -/

section Runs

variable {subcommand : Subcommand} {reading final : Reading} {escaped : Bool}
  {arguments : List String}

/-- Once nothing is left, a reading says what it settles as. -/
theorem value?_of_settle (sound : reading.Sound) (settles : reading.settle = .ok final)
    (flag : Flag) (value : String) :
    final.value? flag = some value ↔ reading.Says [] flag value := by
  obtain ⟨nothing, same⟩ := Reading.says_settle sound settles [] flag value
  rw [← same, Reading.says_of_pending_eq_none nothing]
  exact (or_iff_left nofun).symm

theorem says_escape {argument : String} (isNone : IsNoOption argument) (sound : reading.Sound)
    (settles : reading.settle = .ok final) (flag : Flag) (value : String) :
    reading.Says [argument] flag value ↔ reading.Says [] flag value := by
  obtain ⟨nothing, same⟩ := Reading.says_settle sound settles [argument] flag value
  rw [← same, ← value?_of_settle sound settles, Reading.says_of_pending_eq_none nothing,
    writes_noOption isNone]
  exact or_iff_left nofun

/-- Behind two hyphens nothing stands that is accepted. -/
theorem settle_of_readBehind_escaped
    (reads : readBehind subcommand reading true arguments = .ok final) :
    arguments = [] ∧ reading.settle = .ok final := by
  cases arguments with
  | nil => exact ⟨rfl, reads⟩
  | cons argument rest => cases reads

/-- The values of a run behind a command are those that were given before and those that are
written. The induction is on the arguments; a reading with the arguments that are left says the same
at every step. -/
theorem value?_of_readBehind (sound : reading.Sound)
    (reads : readBehind subcommand reading escaped arguments = .ok final) (flag : Flag)
    (value : String) : final.value? flag = some value ↔ reading.Says arguments flag value := by
  induction arguments generalizing reading escaped with
  | nil => exact value?_of_settle sound reads flag value
  | cons argument rest inductionHypothesis =>
      cases escaped with
      | true => cases reads
      | false =>
          simp only [readBehind, if_neg Bool.false_ne_true] at reads
          cases shape : (Level.behind subcommand).shape argument with
          | escape =>
              rw [shape] at reads
              obtain ⟨rfl, settles⟩ := settle_of_readBehind_escaped reads
              rw [value?_of_settle sound settles,
                says_escape (isNoOption_of_shape (.inr shape)) sound settles]
          | flag other attached =>
              rw [shape] at reads
              dsimp only at reads
              rw [eq_text_of_shape shape]
              cases meets : reading.meet other attached with
              | error error =>
                  rw [meets] at reads
                  cases reads
              | ok next =>
                  rw [meets] at reads
                  obtain ⟨nextSound, same⟩ := Reading.says_meet sound meets
                  rw [inductionHypothesis nextSound reads, same]
          | request error attached | unknown =>
              rw [shape] at reads
              cases reads
          | plain =>
              rw [shape] at reads
              dsimp only at reads
              split at reads
              · next other waits =>
                  obtain ⟨nextSound, same⟩ :=
                    Reading.says_await (isNoOption_of_shape (.inl shape)) waits
                  rw [inductionHypothesis nextSound reads, same]
              · cases reads

/-- Behind a command that is accepted, an option has a value exactly when it is written with it. -/
theorem value?_eq_some_iff_writes (reads : readBehind subcommand {} false arguments = .ok final)
    (flag : Flag) (value : String) :
    final.value? flag = some value ↔ Writes flag value arguments := by
  have sound : ({} : Reading).Sound := by
    rintro _ _ ⟨⟩
  rw [value?_of_readBehind sound reads, Reading.says_of_pending_eq_none rfl]
  exact or_iff_right nofun

end Runs

/-! ## Commands -/

/-- What is read up to a command and behind it ends in that command. -/
theorem exists_invocation_of_readTop {reading : Reading} {escaped : Bool} {arguments : List String}
    {result : Invocation} (reads : readTop reading escaped arguments = .ok result) :
    ∃ before word behind subcommand earlier, arguments = before ++ word :: behind ∧
      Subcommand.ofWord? word = some subcommand ∧
      invocation earlier subcommand behind = .ok result := by
  induction arguments generalizing reading escaped with
  | nil => cases reads
  | cons argument rest inductionHypothesis =>
      have further : ∀ {next : Reading} {escapes : Bool}, readTop next escapes rest = .ok result →
          ∃ before word behind subcommand earlier, argument :: rest = before ++ word :: behind ∧
            Subcommand.ofWord? word = some subcommand ∧
            invocation earlier subcommand behind = .ok result := by
        intro next escapes reads
        obtain ⟨before, word, behind, subcommand, earlier, rfl, found⟩ := inductionHypothesis reads
        exact ⟨argument :: before, word, behind, subcommand, earlier, rfl, found⟩
      unfold readTop at reads
      split at reads
      · cases reads
      split at reads
      · cases reads
      split at reads
      · next subcommand isWord =>
          split at isWord
          · cases isWord
          · exact ⟨[], argument, rest, subcommand, reading, rfl, isWord, reads⟩
      · split at reads
        · exact further reads
        · split at reads
          · cases reads
          · exact further reads
        · cases reads
        · cases reads
        · split at reads
          · exact further reads
          · cases reads

/-- An accepted command stands behind its word, and is made of what is read behind it. -/
theorem exists_behind_of_parseArguments {arguments : List String} {result : Invocation}
    (parsed : parseArguments arguments = .ok result) :
    ∃ before word behind subcommand reading, arguments = before ++ word :: behind ∧
      Subcommand.ofWord? word = some subcommand ∧
      readBehind subcommand {} false behind = .ok reading ∧
      subcommand.command reading = .ok result.command := by
  obtain ⟨before, word, behind, subcommand, earlier, split, isWord, invoked⟩ :=
    exists_invocation_of_readTop parsed
  obtain ⟨reading, reads, invoked⟩ := Except.bind_eq_ok_iff.mp invoked
  obtain ⟨command, made, invoked⟩ := Except.bind_eq_ok_iff.mp invoked
  obtain ⟨settled, -, made'⟩ := Except.bind_eq_ok_iff.mp invoked
  cases made'
  exact ⟨before, word, behind, subcommand, reading, split, isWord, reads, made⟩

theorem word_of_subcommand {word : String} {subcommand : Subcommand}
    (isWord : Subcommand.ofWord? word = some subcommand) :
    word = match subcommand with
      | .validate => "validate"
      | .check => "check" := by
  unfold Subcommand.ofWord? at isWord
  split at isWord <;> cases isWord <;> rfl

end ParamSchema.CommandLine
