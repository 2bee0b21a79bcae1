import Mathlib
import ParamSchema.Proofs.Outcome
import ParamSchema.Proofs.Registry.Registrations
import ParamSchema.Proofs.Text.Bytes

/-!
Contract: what loading a directory does.

Owns:
- when the names in a directory are had, and which entry is at fault when they are not;
- the definition files of a directory, in the order of the bytes of their names;
- loading files one after another up to the first that fails, and what is registered on the way;
- that a directory is loaded in this way, in whatever order its names are listed, and not at all
  when an entry of it cannot be read.

Does not own: which documents have schemas (`Proofs.Document.Mirror`).
-/

namespace ParamSchema

/-! ## Names in a directory -/

namespace Files

section Listings

variable {files : Files} {directory : String}

theorem names_eq_ok_iff {names : List String} :
    files.names directory = .ok names ↔ files.listing directory = .ok (names.map .ok) := by
  unfold Files.names
  cases files.listing directory with
  | error fault => exact iff_of_false nofun nofun
  | ok entries =>
      dsimp only
      rw [Except.mapError_eq_ok_iff, Except.mapM_id_eq_ok_iff, Except.ok.injEq]

/-- The first entry that cannot be read is the fault of the whole listing. -/
theorem names_eq_entry_iff {fault : FileFault} :
    files.names directory = .error (.entry fault) ↔
      ∃ (before : List String) (behind : List (Except FileFault String)),
        files.listing directory = .ok (before.map .ok ++ .error fault :: behind) := by
  unfold Files.names
  cases files.listing directory with
  | error other => exact iff_of_false nofun nofun
  | ok entries =>
      dsimp only
      rw [Except.mapError_eq_error_iff]
      simp only [ListingFault.entry.injEq, exists_eq_right, Except.mapM_id_eq_error_iff,
        Except.ok.injEq]

end Listings

/-- A name has the extension `json` when that stands behind a point that is not the first
character. -/
def HasJsonExtension (name : String) : Prop :=
  ∃ stem, stem ≠ "" ∧ name = stem ++ ".json"

/-- The names among some that have the extension, in ascending order of their bytes. -/
structure InByteOrder (names sorted : List String) : Prop where
  mem_iff : ∀ name, name ∈ sorted ↔ name ∈ names ∧ HasJsonExtension name
  ascending : sorted.Pairwise fun left right => Text.bytes left < Text.bytes right

theorem endsWith_iff {text ending : String} :
    text.endsWith ending = true ↔ ∃ stem, text = stem ++ ending := by
  have suffix : text.endsWith ending = true ↔ ending.toList <:+ text.toList := by
    rw [String.endsWith_eq_endsWith_toSlice, String.Slice.endsWith_string_iff,
      String.copy_toSlice]
  rw [suffix]
  constructor
  · rintro ⟨stem, same⟩
    refine ⟨String.ofList stem, String.toList_injective ?_⟩
    rw [String.toList_append, String.toList_ofList, same]
  · rintro ⟨stem, rfl⟩
    exact ⟨stem.toList, String.toList_append.symm⟩

theorem isDefinition_iff {name : String} : isDefinition name = true ↔ HasJsonExtension name := by
  unfold isDefinition HasJsonExtension
  rw [Bool.and_eq_true, endsWith_iff, bne_iff_ne]
  constructor
  · rintro ⟨⟨stem, rfl⟩, more⟩
    refine ⟨stem, ?_, rfl⟩
    rintro rfl
    exact more String.empty_append
  · rintro ⟨stem, nonempty, rfl⟩
    refine ⟨⟨stem, rfl⟩, fun same => nonempty ?_⟩
    have lengths := congrArg String.length same
    rw [String.length_append] at lengths
    exact String.length_eq_zero_iff.mp (by omega)

section Definitions

variable {names others : List String}

theorem definitions_perm (names : List String) :
    (definitions names).Perm (names.filter isDefinition) :=
  List.mergeSort_perm _ _

theorem comparesBy_name : ComparesBy (fun left right : String => decide (left ≤ right)) id :=
  fun _ _ => decide_eq_true_iff

theorem definitions_pairwise_le (names : List String) :
    (definitions names).Pairwise fun left right => left ≤ right :=
  comparesBy_name.pairwise_mergeSort (names.filter isDefinition)

theorem definitions_inByteOrder (distinct : names.Nodup) :
    InByteOrder names (definitions names) := by
  have noneTwice : (definitions names).Nodup :=
    (definitions_perm names).nodup_iff.mpr (distinct.filter _)
  constructor
  case mem_iff =>
    intro name
    rw [(definitions_perm names).mem_iff, List.mem_filter, isDefinition_iff]
  case ascending =>
    refine ((definitions_pairwise_le names).and noneTwice).imp fun {left right} both => ?_
    exact Text.bytes_lt_iff.mpr (lt_of_le_of_ne both.1 both.2)

/-- The order in which names are listed has no part in the definition files. -/
theorem definitions_eq_of_perm (same : others.Perm names) :
    definitions others = definitions names :=
  comparesBy_name.mergeSort_eq_of_perm (same.filter isDefinition) fun _ _ _ _ sameName => sameName

/-- Names in order, which are those of the definition files, are the definition files. -/
theorem definitions_eq {sorted : List String} (same : (names.filter isDefinition).Perm sorted)
    (ordered : sorted.Pairwise fun left right => left ≤ right) : definitions names = sorted := by
  have sortedAlike : definitions names = sorted.mergeSort fun left right => decide (left ≤ right) :=
    comparesBy_name.mergeSort_eq_of_perm same fun _ _ _ _ sameName => sameName
  rw [sortedAlike]
  exact List.mergeSort_of_pairwise (ordered.imp decide_eq_true)

end Definitions

end Files

namespace Registry

/-! ## One file after another -/

/-- Loading files in order, each into the registry that the one before has left, up to the first
that fails: the registry and the result at the end. -/
inductive FileByFile (files : Files) :
    Registry → List String → Registry → Except RegistryError Unit → Prop where
  | done (registry : Registry) : FileByFile files registry [] registry (.ok ())
  | stop {registry : Registry} {path : String} {rest : List String} {error : RegistryError}
      (failed : (registry.loadFile files path).result = .error error) :
      FileByFile files registry (path :: rest) (registry.loadFile files path).registry
        (.error error)
  | next {registry after : Registry} {path : String} {rest : List String}
      {result : Except RegistryError Unit}
      (loaded : (registry.loadFile files path).result = .ok ())
      (others : FileByFile files (registry.loadFile files path).registry rest after result) :
      FileByFile files registry (path :: rest) after result

/-- What files have registered one after another: for each one the schema of its document, under a
pair that was free. -/
structure Registers (before : Registry) (files : Files) (paths : List String)
    (added : List ((String × String) × Schema)) (after : Registry) : Prop where
  after_eq : after = { before with entries := before.entries ++ added }
  asked : List.Forall₂ (fun path entry =>
    (Operation.loadFile files path).AsksFor entry.1.1 entry.1.2 entry.2) paths added
  free : ∀ entry ∈ added, before.contains entry.1.1 entry.1.2 = false
  distinct : (added.map Prod.fst).Nodup

/-- What a load of files in order leads to. -/
structure LoadsInOrder (registry : Registry) (files : Files) (paths : List String)
    (reply : Reply Nat) : Prop where
  /-- Loading the files one after another gives the same registry and the same error, if any. -/
  calls : ∀ after result, FileByFile files registry paths after result ↔
    after = reply.registry ∧ result = reply.outcome.result
  /-- A load that succeeds counts the files, each of which has registered a new pair. -/
  counted : ∀ count, reply.result = .ok count → count = paths.length ∧
    ∃ added, registry.Registers files paths added reply.registry ∧ added.length = count
  /-- A load that fails has registered what the files before the failing one ask for. -/
  stopped : ∀ error, reply.result = .error error → ∃ earlier path later added,
    paths = earlier ++ path :: later ∧ registry.Registers files earlier added reply.registry ∧
      (reply.registry.loadFile files path).result = .error error

section Loading

variable {files : Files} {registry before after other : Registry} {paths : List String}
  {result otherResult : Except RegistryError Unit}

/-- A file that fails leaves the registry as it is, and any other adds what it asks for. -/
theorem loadFile_cases (registry : Registry) (files : Files) (path : String) :
    (∃ error, registry.loadFile files path = ⟨registry, .error error, []⟩) ∨
    ∃ name action schema, (Operation.loadFile files path).AsksFor name action schema ∧
      registry.contains name action = false ∧ registry.loadFile files path =
        ⟨registry.adding name action schema, .ok (), [registered name action]⟩ := by
  unfold loadFile
  cases read : readDocument files path with
  | error error => exact .inl ⟨error, rfl⟩
  | ok document =>
      dsimp only
      unfold registerFrom
      cases valid : document.toSchema with
      | error source => exact .inl ⟨.definition path source, rfl⟩
      | ok schema =>
          rcases register_cases registry document.name document.action schema with
            ⟨-, refused⟩ | ⟨absent, added⟩
          · exact .inl ⟨.alreadyRegistered document.name document.action, refused⟩
          · exact .inr ⟨document.name, document.action, schema, .file read valid, absent, added⟩

theorem fileByFile_loadAll (files : Files) (registry : Registry) (paths : List String) :
    FileByFile files registry paths (registry.loadAll files paths).registry
      (registry.loadAll files paths).result := by
  induction paths generalizing registry with
  | nil => exact .done registry
  | cons path rest inductionHypothesis =>
      unfold loadAll
      dsimp only
      split
      case h_1 error failed =>
        rw [failed]
        exact .stop failed
      case h_2 loaded => exact .next loaded (inductionHypothesis _)

/-- Loading one file after another has one end only. -/
theorem FileByFile.unique (run : FileByFile files registry paths after result)
    (otherRun : FileByFile files registry paths other otherResult) :
    other = after ∧ otherResult = result := by
  induction run with
  | done registry =>
      cases otherRun
      exact ⟨rfl, rfl⟩
  | stop failed =>
      cases otherRun with
      | stop failedToo =>
          cases failed.symm.trans failedToo
          exact ⟨rfl, rfl⟩
      | next loaded _ => cases failed.symm.trans loaded
  | next loaded _ inductionHypothesis =>
      cases otherRun with
      | stop failed => cases failed.symm.trans loaded
      | next _ others => exact inductionHypothesis others

theorem FileByFile.iff_eq (run : FileByFile files registry paths after result) :
    FileByFile files registry paths other otherResult ↔ other = after ∧ otherResult = result := by
  constructor
  · exact run.unique
  · rintro ⟨rfl, rfl⟩
    exact run

theorem registers_nil (registry : Registry) (files : Files) :
    registry.Registers files [] [] registry := by
  refine ⟨?_, .nil, fun entry member => absurd member List.not_mem_nil, List.nodup_nil⟩
  rw [List.append_nil]

/-- One more file in front, whose pair is free, and what the others register behind it. -/
theorem Registers.cons {path name action : String} {schema : Schema}
    {added : List ((String × String) × Schema)}
    (asks : (Operation.loadFile files path).AsksFor name action schema)
    (absent : before.contains name action = false)
    (others : (before.adding name action schema).Registers files paths added after) :
    before.Registers files (path :: paths) (((name, action), schema) :: added) after := by
  have freeOfBoth : ∀ entry ∈ added, before.contains entry.1.1 entry.1.2 = false ∧
      entry.1 ≠ (name, action) := by
    intro entry member
    have free := others.free entry member
    unfold contains at free
    rw [get?_adding absent] at free
    by_cases same : (entry.1.1, entry.1.2) = (name, action)
    · rw [if_pos same] at free
      cases free
    · rw [if_neg same] at free
      exact ⟨free, same⟩
  constructor
  case after_eq =>
    rw [others.after_eq]
    unfold adding
    rw [List.append_assoc, List.singleton_append]
  case asked => exact .cons asks others.asked
  case free =>
    intro entry member
    rcases List.mem_cons.mp member with rfl | member
    · exact absent
    · exact (freeOfBoth entry member).1
  case distinct =>
    rw [List.map_cons, List.nodup_cons]
    refine ⟨fun member => ?_, others.distinct⟩
    obtain ⟨entry, held, same⟩ := List.mem_map.mp member
    exact (freeOfBoth entry held).2 same

/-- What a file has registered is found under the pair that it asks for. -/
theorem Registers.found {path : String} {added : List ((String × String) × Schema)}
    (registers : before.Registers files paths added after) (held : path ∈ paths) :
    ∃ name action schema, (Operation.loadFile files path).AsksFor name action schema ∧
      after.get? name action = some schema := by
  obtain ⟨index, bound, rfl⟩ := List.getElem_of_mem held
  have inAdded : index < added.length := registers.asked.length_eq ▸ bound
  have asks := registers.asked.get bound inAdded
  have member : added.get ⟨index, inAdded⟩ ∈ added := List.get_mem added _
  generalize added.get ⟨index, inAdded⟩ = entry at asks member
  have foundInAdded : added.lookup entry.1 = some entry.2 :=
    (lookup_eq_some_iff_mem registers.distinct).mpr member
  have notBefore : before.entries.lookup entry.1 = none := by
    simpa [contains, get?] using registers.free entry member
  refine ⟨_, _, _, asks, ?_⟩
  unfold get?
  rw [registers.after_eq, List.lookup_append, notBefore, Option.none_or]
  exact foundInAdded

theorem FileByFile.registers (run : FileByFile files before paths after result)
    (succeeded : result = .ok ()) : ∃ added, before.Registers files paths added after := by
  induction run with
  | done registry => exact ⟨[], registers_nil registry files⟩
  | stop failed => cases succeeded
  | @next registry after path rest result loaded others inductionHypothesis =>
      obtain ⟨added, registered⟩ := inductionHypothesis succeeded
      rcases loadFile_cases registry files path with
        ⟨error, failed⟩ | ⟨name, action, schema, asks, absent, same⟩
      · rw [failed] at loaded
        cases loaded
      · rw [same] at registered
        exact ⟨_, registered.cons asks absent⟩

/-- When a run of files fails, the files before the failing one have registered what they ask
for. -/
theorem FileByFile.stops {error : RegistryError}
    (run : FileByFile files before paths after result) (failed : result = .error error) :
    ∃ earlier path later added, paths = earlier ++ path :: later ∧
      before.Registers files earlier added after ∧
        (after.loadFile files path).result = .error error := by
  induction run with
  | done registry => cases failed
  | @stop registry path rest firstError refused =>
      cases failed
      rcases loadFile_cases registry files path with
        ⟨other, same⟩ | ⟨name, action, schema, -, -, same⟩
      · have unchanged : (registry.loadFile files path).registry = registry := by rw [same]
        rw [unchanged]
        exact ⟨[], path, rest, [], rfl, registers_nil registry files, refused⟩
      · rw [same] at refused
        cases refused
  | @next registry after path rest result loaded others inductionHypothesis =>
      obtain ⟨earlier, failing, later, added, split, registered, refused⟩ :=
        inductionHypothesis failed
      rcases loadFile_cases registry files path with
        ⟨other, same⟩ | ⟨name, action, schema, asks, absent, same⟩
      · rw [same] at loaded
        cases loaded
      · rw [same] at registered
        refine ⟨path :: earlier, failing, later, _, ?_, registered.cons asks absent, refused⟩
        rw [split, List.cons_append]

/-! ## Directories -/

theorem loadDirectory_loadsInOrder {directory : String} {names : List String}
    (registry : Registry) (listed : files.names directory = .ok names) :
    registry.LoadsInOrder files ((Files.definitions names).map (Files.join directory))
      (registry.loadDirectory files directory) := by
  unfold loadDirectory
  rw [listed]
  dsimp only
  generalize (Files.definitions names).map (Files.join directory) = paths
  have run := fileByFile_loadAll files registry paths
  generalize registry.loadAll files paths = all at run
  cases ended : all.result with
  | error error =>
      rw [ended] at run
      constructor
      case calls => exact fun _ _ => run.iff_eq
      case counted =>
        intro count succeeded
        cases succeeded
      case stopped =>
        intro other failed
        cases failed
        exact run.stops rfl
  | ok value =>
      rw [ended] at run
      constructor
      case calls => exact fun _ _ => run.iff_eq
      case counted =>
        intro count succeeded
        cases succeeded
        obtain ⟨added, registered⟩ := run.registers rfl
        exact ⟨rfl, added, registered, registered.asked.length_eq.symm⟩
      case stopped =>
        intro other failed
        cases failed

/-- An entry that cannot be read is the error of its directory, of which no file is then loaded. -/
theorem loadDirectory_of_unreadable_entry {directory : String} {before : List String}
    {fault : FileFault} {behind : List (Except FileFault String)} (registry : Registry)
    (listed : files.listing directory = .ok (before.map .ok ++ .error fault :: behind)) :
    registry.loadDirectory files directory =
      ⟨registry, .error (.malformed directory
        ("Failed to read directory entry: " ++ fault.message)), []⟩ := by
  have atFault : files.names directory = .error (.entry fault) :=
    Files.names_eq_entry_iff.mpr ⟨before, behind, listed⟩
  unfold loadDirectory
  rw [atFault]
  rfl

/-- Two file systems with the same texts load files alike. -/
theorem loadAll_eq_of_readText {others : Files} (same : others.readText = files.readText)
    (registry : Registry) (paths : List String) :
    registry.loadAll others paths = registry.loadAll files paths := by
  induction paths generalizing registry with
  | nil => rfl
  | cons path rest inductionHypothesis =>
      have first : registry.loadFile others path = registry.loadFile files path := by
        unfold loadFile readDocument
        rw [same]
      unfold loadAll
      rw [first]
      simp only [inductionHypothesis]

theorem loadDirectory_eq_of_perm {relisted : Files} {directory : String}
    {names others : List String} (registry : Registry) (listed : files.names directory = .ok names)
    (texts : relisted.readText = files.readText)
    (listedAgain : relisted.names directory = .ok others) (same : others.Perm names) :
    registry.loadDirectory relisted directory = registry.loadDirectory files directory := by
  unfold loadDirectory
  rw [listed, listedAgain]
  simp only [Files.definitions_eq_of_perm same, loadAll_eq_of_readText texts]

end Loading

/-- A directory is loaded as its definition files one after another, in the order of the bytes of
their names and up to the first that fails. The order in which the names are listed changes neither
the result nor the registry nor the records. -/
theorem loadDirectory_in_order (registry : Registry) {files : Files} {directory : String}
    {names : List String} (listed : files.names directory = .ok names) (distinct : names.Nodup) :
    (∃ sorted, Files.InByteOrder names sorted ∧
      registry.LoadsInOrder files (sorted.map (Files.join directory))
        (registry.loadDirectory files directory)) ∧
    ∀ (relisted : Files) (others : List String), relisted.readText = files.readText →
      relisted.names directory = .ok others → others.Perm names →
        registry.loadDirectory relisted directory = registry.loadDirectory files directory := by
  constructor
  · exact ⟨Files.definitions names, Files.definitions_inByteOrder distinct,
      loadDirectory_loadsInOrder registry listed⟩
  · intro relisted others texts listedAgain same
    exact loadDirectory_eq_of_perm registry listed texts listedAgain same

/-- Two definition files with documents, a third that is not text, and any names as listed. -/
def catalogue (names : List String) : Files where
  readText path :=
    if path = "schemas/a.json" then .ok "[\"users\",\"create\",true,[null,\"array\"]]"
    else if path = "schemas/b.json" then
      .ok "[\"limits\",\"update\",true,[null,\"integer\",false,false,true,true]]"
    else .error .notText
  listing _ := .ok (names.map .ok)

/-- What loading the catalogue into an empty registry leads to. -/
def catalogueReply (names : List String) : Reply Nat :=
  ({} : Registry).loadDirectory (catalogue names) "schemas"

theorem catalogue_names (names : List String) (directory : String) :
    (catalogue names).names directory = .ok names :=
  Files.names_eq_ok_iff.mpr rfl

theorem catalogue_loads :
    (catalogueReply ["b.json", "notes.md", "a.json"]).result = .ok 2 ∧
      (catalogueReply ["b.json", "notes.md", "a.json"]).registry.entries.map Prod.fst =
        [("users", "create"), ("limits", "update")] := by
  have kept : ["b.json", "notes.md", "a.json"].filter Files.isDefinition =
    ["b.json", "a.json"] := by cbv
  have sorted : Files.definitions ["b.json", "notes.md", "a.json"] = ["a.json", "b.json"] :=
    Files.definitions_eq (by rw [kept]; decide) (by decide)
  unfold catalogueReply loadDirectory
  rw [catalogue_names]
  dsimp only
  rw [sorted]
  exact ⟨by cbv, by cbv⟩

theorem catalogue_stops :
    (catalogueReply ["c.json", "b.json", "a.json"]).result =
        .error (.malformed "schemas/c.json"
          "Failed to read file: stream did not contain valid UTF-8") ∧
      (catalogueReply ["c.json", "b.json", "a.json"]).registry.entries.map Prod.fst =
        [("users", "create"), ("limits", "update")] := by
  have kept : ["c.json", "b.json", "a.json"].filter Files.isDefinition =
    ["c.json", "b.json", "a.json"] := by cbv
  have sorted : Files.definitions ["c.json", "b.json", "a.json"] = ["a.json", "b.json", "c.json"] :=
    Files.definitions_eq (by rw [kept]; decide) (by decide)
  have inOrder :=
    loadDirectory_loadsInOrder {} (catalogue_names ["c.json", "b.json", "a.json"] "schemas")
  rw [sorted] at inOrder
  -- The load also logs a long message, so it is followed file by file and not computed as a whole.
  have run : FileByFile (catalogue ["c.json", "b.json", "a.json"]) {}
      (["a.json", "b.json", "c.json"].map (Files.join "schemas")) _
      (.error (.malformed "schemas/c.json"
        "Failed to read file: stream did not contain valid UTF-8")) :=
    .next (by cbv) (.next (by cbv) (.stop (by cbv)))
  obtain ⟨sameRegistry, sameResult⟩ := (inOrder.calls _ _).mp run
  constructor
  · exact Except.map_eq_error_iff.mp sameResult.symm
  · unfold catalogueReply
    rw [← sameRegistry]
    cbv

/-- One listing of the catalogue loads two documents, also in another order, and one that holds the
third file ends there, behind the two. -/
theorem catalogue_loadDirectory_in_order :
    ((∃ sorted, Files.InByteOrder ["b.json", "notes.md", "a.json"] sorted ∧
        ({} : Registry).LoadsInOrder (catalogue ["b.json", "notes.md", "a.json"])
          (sorted.map (Files.join "schemas")) (catalogueReply ["b.json", "notes.md", "a.json"])) ∧
      (catalogueReply ["b.json", "notes.md", "a.json"]).result = .ok 2 ∧
      (catalogueReply ["b.json", "notes.md", "a.json"]).registry.entries.map Prod.fst =
        [("users", "create"), ("limits", "update")] ∧
      catalogueReply ["notes.md", "a.json", "b.json"] =
        catalogueReply ["b.json", "notes.md", "a.json"]) ∧
    (∃ sorted, Files.InByteOrder ["c.json", "b.json", "a.json"] sorted ∧
      ({} : Registry).LoadsInOrder (catalogue ["c.json", "b.json", "a.json"])
        (sorted.map (Files.join "schemas")) (catalogueReply ["c.json", "b.json", "a.json"])) ∧
    (catalogueReply ["c.json", "b.json", "a.json"]).result =
      .error (.malformed "schemas/c.json"
        "Failed to read file: stream did not contain valid UTF-8") ∧
    (catalogueReply ["c.json", "b.json", "a.json"]).registry.entries.map Prod.fst =
      [("users", "create"), ("limits", "update")] := by
  obtain ⟨loads, relisted⟩ := loadDirectory_in_order {}
    (catalogue_names ["b.json", "notes.md", "a.json"] "schemas") (by decide)
  obtain ⟨stops, -⟩ := loadDirectory_in_order {}
    (catalogue_names ["c.json", "b.json", "a.json"] "schemas") (by decide)
  have sameReply : catalogueReply ["notes.md", "a.json", "b.json"] =
      catalogueReply ["b.json", "notes.md", "a.json"] :=
    relisted (catalogue ["notes.md", "a.json", "b.json"]) _ rfl (catalogue_names _ _) (by decide)
  exact ⟨⟨loads, catalogue_loads.1, catalogue_loads.2, sameReply⟩, stops, catalogue_stops.1,
    catalogue_stops.2⟩

end Registry

end ParamSchema
