import DocumentSchema.Proofs.Schema.Loading
import DocumentSchema.Proofs.Storage.EmptyDirectory

/-!
Catalogues that are saved and loaded.

A schema that is saved to a directory without other files is the only one that a new catalogue of
that directory loads, and it is loaded as its image (`Catalogue.load_of_save`): as the schema itself
exactly when all values in it are had back from their JSON forms.
-/

namespace DocumentSchema.Catalogue

variable {catalogue : Catalogue} {schema : Schema} {registry : Registry}
  {tree made saved : FileTree}

/-! ## Saving -/

/-- A schema is saved where no file is, once its directory is there and its text is written. -/
theorem save_eq_ok_iff : catalogue.save tree schema = .ok saved ↔
    tree.node? (catalogue.pathOf schema) = none ∧
      ∃ text, schema.toFileText = .ok text ∧ ∃ made, catalogue.makeDirectory tree = .ok made ∧
        made.write? (catalogue.pathOf schema) text = some saved := by
  unfold save
  dsimp only
  cases tree.node? (catalogue.pathOf schema) with
  | some node => simp
  | none =>
    simp only [Option.isSome_none, Bool.false_eq_true, if_false, except_bind_eq_ok_iff, true_and]
    refine exists_congr fun text => and_congr_right fun _ => ?_
    refine exists_congr fun made => and_congr_right fun _ => ?_
    cases made.write? (catalogue.pathOf schema) text <;> simp

/-- The directory in which a file is saved is empty, if it was empty or absent before. -/
theorem leadsToEmpty_of_makeDirectory (sound : tree.Sound)
    (vacant : tree.Vacant catalogue.directory)
    (making : catalogue.makeDirectory tree = .ok made) :
    ∃ place, made.LeadsToEmpty (made.start catalogue.directory)
      (FileTree.pathNames catalogue.directory) place := by
  unfold makeDirectory at making
  rcases vacant with listed | ⟨absent, filled, noReturn⟩
  · rw [FileTree.node?_of_listing listed] at making
    cases making
    exact FileTree.leadsToEmpty_of_listing listed
  · rw [FileTree.directory_eq_absent_iff.1 absent] at making
    split at making
    · next found => cases found
    · split at making
      · next there =>
        cases making
        exact FileTree.leadsToEmpty_of_makeDirectory? sound filled absent noReturn there
      · cases making

/-- The file of a schema is all that is seen of the directory in which it is saved. -/
theorem directory_of_save (sound : tree.Sound) (vacant : tree.Vacant catalogue.directory)
    (noSlash : '/' ∉ schema.name.toList) (written : catalogue.save tree schema = .ok saved) :
    ∃ text, schema.toFileText = .ok text ∧
      saved.directory catalogue.directory =
        .listing [(schema.name ++ extension, some text)] := by
  obtain ⟨-, text, ofSchema, made, making, there⟩ := save_eq_ok_iff.1 written
  have filled := vacant.ne_empty
  have noSlashFile : '/' ∉ (schema.name ++ extension).toList := by
    rw [String.toList_append, List.mem_append, not_or]
    exact ⟨noSlash, by decide⟩
  have noUp : schema.name ++ extension ≠ ".." := by
    intro same
    have last := congrArg (fun name : String => name.toList.getLast?) same
    simp [extension] at last
  obtain ⟨place, leads⟩ := leadsToEmpty_of_makeDirectory sound vacant making
  exact ⟨text, ofSchema, FileTree.directory_of_write? leads filled noSlashFile noUp there⟩

/-! ## Loading -/

/-- A name with the extension is the name of a schema file. -/
theorem isFileName_append {name : String} (filled : name ≠ "") :
    isFileName (name ++ extension) = true := by
  have longer : 0 < name.length :=
    Nat.pos_of_ne_zero fun none => filled (String.length_eq_zero_iff.1 none)
  have ends : (name ++ extension).endsWith extension = true := by
    rw [← String.endsWith_toSlice, String.Slice.endsWith_string_iff, String.copy_toSlice,
      String.toList_append]
    exact List.suffix_append _ _
  rw [isFileName, ends, String.length_append]
  simp [longer]

/-- A directory is loaded without error only if each schema file in it is read. -/
theorem read_of_loadFiles {files : List (String × Option String)}
    (loaded : (loadFiles registry catalogue files).2 = .ok ()) {file : String × Option String}
    (member : file ∈ files) :
    ∃ schema, Schema.ofFileText registry (FileTree.join catalogue.directory file.1) file.2 =
      .ok schema := by
  obtain ⟨schemas, publishable, -⟩ := loadFiles_eq_ok_iff.1 (Prod.ext rfl loaded)
  obtain ⟨schema, -, read⟩ := exists_of_mem_left publishable.read member
  exact ⟨schema, Schema.ofFileText_eq_ok_iff.2 read⟩

/-- A directory with a single schema file gives the schema in it. -/
theorem load_of_singleton {directory name : String} {content : Option String}
    (fileName : isFileName name = true)
    (read : Schema.ofFileText registry (FileTree.join directory name) content = .ok schema) :
    (Catalogue.new directory).load registry (.listing [(name, content)]) =
      (⟨directory, [(schema.name, schema)]⟩, .ok ()) := by
  have loaded : (Catalogue.new directory).loadFile registry (FileTree.join directory name)
      content = .ok ⟨directory, [(schema.name, schema)]⟩ := by
    rw [loadFile, read]
    rfl
  simp only [load, List.filter_cons, fileName, if_true, List.filter_nil, loadFiles]
  rw [show (Catalogue.new directory).directory = directory from rfl, loaded]

/-- A saved schema is loaded as its image, and nothing else is. -/
theorem load_of_save (built : schema.Built) (noSlash : '/' ∉ schema.name.toList)
    (savable : ∀ field ∈ schema.attributes, field.2.Savable)
    (verified : registry.verifySchema schema = .ok ()) (sound : tree.Sound)
    (vacant : tree.Vacant catalogue.directory)
    (written : catalogue.save tree schema = .ok saved) :
    (Catalogue.new catalogue.directory).load registry (saved.directory catalogue.directory) =
      (⟨catalogue.directory, [(schema.name, schema.jsonImage)]⟩, .ok ()) := by
  obtain ⟨text, ofSchema, seen⟩ := directory_of_save sound vacant noSlash written
  rw [seen]
  exact load_of_singleton (isFileName_append built.sound.1)
    (Schema.ofFileText_toFileText built savable verified ofSchema)

/-- A built schema is saved in an empty directory, or in one that is absent and does not lead out of
what is missing. A new catalogue of the directory loads it without error as its image: as the schema
itself exactly when all members of literals and all fixed defaults in it are JSON-faithful. -/
theorem load_save (built : schema.Built) (noSlash : '/' ∉ schema.name.toList)
    (savable : ∀ field ∈ schema.attributes, field.2.Savable)
    (verified : registry.verifySchema schema = .ok ()) (sound : tree.Sound)
    (vacant : tree.Vacant catalogue.directory)
    (written : catalogue.save tree schema = .ok saved) :
    ∃ loaded, (Catalogue.new catalogue.directory).load registry
        (saved.directory catalogue.directory) = (loaded, .ok ()) ∧
      loaded.get? schema.name = some schema.jsonImage ∧
      (loaded.get? schema.name = some schema ↔
        ∀ field ∈ schema.attributes, field.2.JsonFaithful) := by
  obtain ⟨text, ofSchema, -⟩ := directory_of_save sound vacant noSlash written
  have found : get? ⟨catalogue.directory, [(schema.name, schema.jsonImage)]⟩ schema.name =
      some schema.jsonImage := if_pos rfl
  refine ⟨_, load_of_save built noSlash savable verified sound vacant written, found, ?_⟩
  rw [found, Option.some.injEq]
  exact Schema.jsonImage_eq_self_iff built savable ofSchema

/-! ## Notes -/

/-- A schema of notes whose content is anything, with a default. -/
def notes (content : Value) : Schema :=
  ⟨"notes", [("content", (Descriptor.ofShape .any).withDefault (.static content))]⟩

variable {content : Value}

/-- The schema of notes is built. -/
theorem built_notes (content : Value) : (notes content).Built := by
  have any : (Descriptor.ofShape .any).Built := .plain (by simp [Descriptor.plainShapes])
  have named : checkName .schema "content" = .ok () := by
    rw [checkName, String.contains_char_eq]
    rfl
  refine ⟨_, .declare "content" (.new "notes") (.withDefault (.static content) any), ?_⟩
  rw [SchemaBuilder.new, SchemaBuilder.declare_eq named fun _ member => by cases member]
  exact Schema.build_eq (by decide)

/-- The schema of notes refers to no callbacks. -/
theorem verifySchema_notes (registry : Registry) (content : Value) :
    registry.verifySchema (notes content) = .ok () :=
  rfl

/-- The file of notes keeps a default that is ordered, with floats that are read back, unless it
nests too deep. -/
theorem savable_notes (ordered : content.Ordered) (floats : content.FloatsReadBack)
    (shallow : content.toJson.depth ≤ Json.maxDepth - 4) :
    ∀ field ∈ (notes content).attributes, field.2.Savable := by
  intro field member
  cases List.mem_singleton.1 member
  constructor
  · exact Descriptor.storable_of_default rfl rfl rfl
  · exact (Descriptor.forValues_of_default rfl (fun _ literal => by cases literal) rfl).2 ordered
  · intro r written
    cases written
    simp [Value.floatsReadBack_map, floats]
  · intro r written
    cases written
    simp only [Json.maxDepth] at shallow ⊢
    simp [Value.toJson, Value.toJsonMembers, Json.depth, Json.membersDepth]
    omega

/-- The schema of notes survives its file if its default does. -/
theorem jsonFaithful_notes :
    (∀ field ∈ (notes content).attributes, field.2.JsonFaithful) ↔ content.JsonFaithful :=
  List.forall_mem_singleton.trans
    (Descriptor.forValues_of_default rfl (fun _ literal => by cases literal) rfl)

/-- The file of notes is in the directory. -/
theorem pathOf_notes (content : Value) {directory : String} (filled : directory ≠ "")
    (unended : directory.toList.getLast? ≠ some '/') :
    (new directory).pathOf (notes content) = directory ++ "/" ++ "notes.json" := by
  have file : (notes content).name ++ extension = "notes.json" := String.toList_injective rfl
  rw [pathOf, file]
  exact FileTree.join_eq_append filled (by decide) unended

theorem step?_schemas (location : Location) :
    FileTree.step? location "schemas" = some (location ++ ["schemas"]) :=
  FileTree.step?_of_name (by decide) (by decide) (by decide) (by decide)

theorem step?_notes (location : Location) :
    FileTree.step? location "notes.json" = some (location ++ ["notes.json"]) :=
  FileTree.step?_of_name (by decide) (by decide) (by decide) (by decide)

/-- Notes are saved where the path of their file leads after the directory is made. -/
theorem save_notes {location : Location}
    (free : tree.node? (catalogue.pathOf (notes content)) = none)
    (making : catalogue.makeDirectory tree = .ok made)
    (located : made.locate? (catalogue.pathOf (notes content)) = some location)
    (vacant : made.nodeAt? location = none) :
    ∃ text, catalogue.save tree (notes content) =
      .ok (made.insert location (.file text)) := by
  obtain ⟨text, ofSchema⟩ : ∃ text, (notes content).toFileText = .ok text := ⟨_, rfl⟩
  refine ⟨text, save_eq_ok_iff.2 ⟨free, text, ofSchema, made, making, ?_⟩⟩
  exact FileTree.write?_eq_some_iff.2
    ⟨location, located, by simp [vacant], .inr ⟨by simp [vacant], rfl⟩⟩

/-- A directory that is absent is made. -/
theorem makeDirectory_of_absent (absent : tree.node? catalogue.directory = none)
    (making : tree.makeDirectory? catalogue.directory = some made) :
    catalogue.makeDirectory tree = .ok made := by
  rw [makeDirectory, absent, making]
  rfl

section Absent

variable {directory : String} {before : List String} {place : Location}
  (split : FileTree.pathNames directory = before ++ ["schemas"])
  (followed : tree.follow? (tree.start directory) before = some place)
  (missing : tree.nodeAt? (place ++ ["schemas"]) = none)

include split followed missing

/-- Where the last name is missing, nothing is there. -/
theorem node?_of_missing_schemas : tree.node? directory = none :=
  FileTree.node?_of_missing split followed (step?_schemas place) missing

/-- The directory of schemas is vacant where it is missing. -/
theorem vacant_of_missing (filled : directory ≠ "") (noUp : ".." ∉ before) :
    tree.Vacant directory := by
  refine .inr ⟨FileTree.directory_eq_absent_iff.2
    (node?_of_missing_schemas split followed missing), filled, ?_⟩
  rw [split]
  exact FileTree.noReturn_of_noUp _ _ (by simp [noUp])

/-- A directory whose last name alone is missing is made in its place. -/
theorem makeDirectory_of_missing (stands : tree.nodeAt? place = some .directory)
    (short : directory.utf8ByteSize < FileTree.maxPathSize) :
    (new directory).makeDirectory tree =
      .ok (tree.insert (place ++ ["schemas"]) .directory) := by
  refine makeDirectory_of_absent (node?_of_missing_schemas split followed missing) ?_
  change tree.makeDirectory? directory = _
  rw [FileTree.makeDirectory?, if_neg (Nat.not_le.2 short), split,
    FileTree.addDirectories?_append followed stands, FileTree.addDirectories?, step?_schemas,
    Option.bind_some, missing]
  rfl

/-- Notes are saved in the directory of schemas where it is missing, whatever their default is. -/
theorem save_notes_of_missing (sound : tree.Sound) (stands : tree.nodeAt? place = some .directory)
    (filled : directory ≠ "") (unended : directory.toList.getLast? ≠ some '/')
    (short : (directory ++ "/" ++ "notes.json").utf8ByteSize < FileTree.maxPathSize)
    (content : Value) : ∃ saved, (new directory).save tree (notes content) = .ok saved := by
  have path : (new directory).pathOf (notes content) = directory ++ "/" ++ "notes.json" :=
    pathOf_notes _ filled unended
  have starts (other : FileTree) :
      other.start (directory ++ "/" ++ "notes.json") = other.start directory := by
    rw [← FileTree.join_eq_append filled (by decide) unended,
      FileTree.start_join filled (by decide)]
  have names : FileTree.pathNames (directory ++ "/" ++ "notes.json") =
      before ++ "schemas" :: ["notes.json"] := by
    rw [FileTree.pathNames_slash (by decide), split, List.append_assoc]
    rfl
  have free : tree.node? (directory ++ "/" ++ "notes.json") = none :=
    FileTree.node?_of_missing names ((starts tree).symm ▸ followed) (step?_schemas place) missing
  have shortDirectory : directory.utf8ByteSize < FileTree.maxPathSize := by
    rw [String.utf8ByteSize_append, String.utf8ByteSize_append] at short
    omega
  have making := makeDirectory_of_missing split followed missing stands shortDirectory
  have noDirectory : tree.nodeAt? (place ++ ["schemas"]) ≠ some .directory := by simp [missing]
  have elsewhere : place ≠ place ++ ["schemas"] :=
    fun same => by simpa using congrArg List.length same
  have made : (tree.insert (place ++ ["schemas"]) .directory).nodeAt? (place ++ ["schemas"]) =
      some .directory := FileTree.nodeAt?_insert_self (List.concat_ne_nil _ _)
  have located : (tree.insert (place ++ ["schemas"]) .directory).locate?
      (directory ++ "/" ++ "notes.json") = some (place ++ ["schemas"] ++ ["notes.json"]) := by
    refine FileTree.locate?_eq_some_iff.2 ⟨by simp, short, ?_⟩
    rw [starts, FileTree.start_insert, names, FileTree.follow?_append,
      FileTree.follow?_insert followed noDirectory, Option.bind_some,
      FileTree.follow?_cons (by rwa [FileTree.nodeAt?_insert_of_ne elsewhere])
        (step?_schemas place),
      FileTree.follow?_singleton made, step?_notes]
  have vacant : (tree.insert (place ++ ["schemas"]) .directory).nodeAt?
      (place ++ ["schemas"] ++ ["notes.json"]) = none := by
    rw [FileTree.nodeAt?_insert_of_ne fun same => by simpa using congrArg List.length same]
    exact FileTree.nodeAt?_eq_none (List.concat_ne_nil _ _) (sound.not_below missing ["notes.json"])
  rw [← path] at free located
  obtain ⟨text, saved⟩ := save_notes free making located vacant
  exact ⟨_, saved⟩

end Absent

/-! ### The tree without files -/

theorem pathNames_schemas : FileTree.pathNames "schemas" = [] ++ ["schemas"] := by
  decide

theorem follow?_working :
    FileTree.empty.follow? (FileTree.empty.start "schemas") [] = some ["work"] :=
  congrArg some (FileTree.start_eq_working (by decide))

/-- The working directory has no directory of schemas. -/
theorem node?_schemas : FileTree.empty.node? "schemas" = none :=
  node?_of_missing_schemas pathNames_schemas follow?_working rfl

theorem vacant_schemas : FileTree.empty.Vacant "schemas" :=
  vacant_of_missing pathNames_schemas follow?_working rfl (by decide) (by decide)

/-- Notes are saved in an empty tree. -/
theorem save_notes_empty (content : Value) :
    ∃ saved, (new "schemas").save .empty (notes content) = .ok saved :=
  save_notes_of_missing pathNames_schemas follow?_working rfl FileTree.sound_empty rfl (by decide)
    (by decide) (by decide) content

theorem pathNames_root : FileTree.pathNames "/schemas" = [""] ++ ["schemas"] := by
  decide

theorem follow?_root : FileTree.empty.follow? (FileTree.empty.start "/schemas") [""] = some [] := by
  rw [FileTree.start_eq_root (by decide)]
  rfl

/-- Notes with one and a half for a default are had back from a directory in the root. -/
theorem load_save_notes :
    ∃ saved, (new "/schemas").save .empty (notes (.float ⟨0x3FF8000000000000⟩)) = .ok saved ∧
      ∃ loaded, (new "/schemas").load .empty (saved.directory "/schemas") = (loaded, .ok ()) ∧
        loaded.get? "notes" = some (notes (.float ⟨0x3FF8000000000000⟩)) := by
  have vacant : FileTree.empty.Vacant "/schemas" :=
    vacant_of_missing pathNames_root follow?_root rfl (by decide) (by decide)
  obtain ⟨saved, written⟩ := save_notes_of_missing pathNames_root follow?_root rfl
    FileTree.sound_empty rfl (by decide) (by decide) (by decide) (.float ⟨0x3FF8000000000000⟩)
  have floats : (Value.float ⟨0x3FF8000000000000⟩).FloatsReadBack := by
    rw [Value.floatsReadBack_iff]
    refine ⟨fun x same _ => ?_, fun _ member => by cases member⟩
    cases same
    decide +kernel
  have ordered : (Value.float ⟨0x3FF8000000000000⟩).Ordered := trivial
  obtain ⟨loaded, read, -, same⟩ := load_save (built_notes _) (by decide)
    (savable_notes ordered floats (by decide)) (verifySchema_notes .empty _)
    FileTree.sound_empty vacant written
  refine ⟨saved, written, loaded, read, same.2 (jsonFaithful_notes.2 ?_)⟩
  rw [Value.jsonFaithful_float]
  decide

/-! ## Notes that are not had back -/

/-- Notes with bytes for a default are loaded with the base64 text of the bytes instead. -/
theorem load_notes_bytes :
    ∃ saved, (new "schemas").save .empty (notes (.bytes [0])) = .ok saved ∧
      (new "schemas").load .empty (saved.directory "schemas") =
        (⟨"schemas", [("notes", notes (.str "AA=="))]⟩, .ok ()) := by
  obtain ⟨saved, written⟩ := save_notes_empty (.bytes [0])
  have floats : (Value.bytes [0]).FloatsReadBack :=
    Value.floatsReadBack_of_leaf rfl fun _ same => by cases same
  have ordered : (Value.bytes [0]).Ordered := trivial
  exact ⟨saved, written, load_of_save (built_notes _) (by decide)
    (savable_notes ordered floats (by decide)) (verifySchema_notes .empty _)
    FileTree.sound_empty vacant_schemas written⟩

/-- Notes that are saved under the empty path are not found, for there is no such directory. -/
theorem load_notes_nowhere :
    FileTree.empty.directory "" = .absent ∧
      ∃ saved, (new "").save .empty (notes .null) = .ok saved ∧
        (new "").load .empty (saved.directory "") = (new "", .ok ()) := by
  have absent (tree : FileTree) : tree.directory "" = .absent := by
    have nowhere : tree.locate? "" = none := if_pos (.inl rfl)
    rw [FileTree.directory, nowhere]
  have path : (new "").pathOf (notes .null) = "notes.json" := if_pos (Bool.or_true _)
  have names : FileTree.pathNames "notes.json" = [] ++ "notes.json" :: [] := by decide
  have start (path : String) (relative : path.toList.head? ≠ some '/') :
      FileTree.empty.start path = ["work"] := FileTree.start_eq_working relative
  have free : FileTree.empty.node? "notes.json" = none :=
    FileTree.node?_of_missing names (congrArg some (start _ (by decide))) (step?_notes ["work"]) rfl
  have making : FileTree.empty.makeDirectory? "" = some .empty := by
    rw [FileTree.makeDirectory?, if_neg (by decide), start _ (by decide)]
    rfl
  have located : FileTree.empty.locate? "notes.json" = some ["work", "notes.json"] := by
    refine FileTree.locate?_eq_some_iff.2 ⟨by decide, by decide, ?_⟩
    rw [start _ (by decide), names, List.nil_append, FileTree.follow?_singleton rfl, step?_notes]
    rfl
  rw [← path] at free located
  obtain ⟨text, written⟩ := save_notes free
    (makeDirectory_of_absent (FileTree.directory_eq_absent_iff.1 (absent _)) making) located rfl
  refine ⟨absent _, _, written, ?_⟩
  rw [absent]
  rfl

/-- A tree with a directory in the root whose only file is malformed. -/
def full : FileTree :=
  ⟨[(["full"], .directory), (["full", "a.json"], .file "")], []⟩

/-- The tree with a second file there, and with a directory beside that was missing. -/
def fuller (text : String) : FileTree :=
  (full.insert ["missing"] .directory).insert ["full", "notes.json"] (.file text)

theorem sound_full : full.Sound where
  around := by decide
  working := rfl

theorem step?_missing : FileTree.step? [] "missing" = some ["missing"] :=
  FileTree.step?_of_name (by decide) (by decide) (by decide) (by decide)

theorem step?_up : FileTree.step? ["missing"] ".." = some [] :=
  rfl

theorem step?_full : FileTree.step? [] "full" = some ["full"] :=
  FileTree.step?_of_name (by decide) (by decide) (by decide) (by decide)

theorem follow?_full (missing : tree.nodeAt? ["missing"] = some .directory) (names : List String) :
    tree.follow? [] ("missing" :: ".." :: "full" :: names) = tree.follow? ["full"] names := by
  rw [FileTree.follow?_cons rfl step?_missing, FileTree.follow?_cons missing step?_up,
    FileTree.follow?_cons rfl step?_full]

theorem pathNames_full : FileTree.pathNames "missing/../full" = ["missing", "..", "full"] := by
  decide

/-- Up from the missing directory is the root again, which is the working directory. -/
theorem start_full (same : tree.working = []) :
    tree.start "missing/../full" = [] ∧ tree.start "missing/../full/notes.json" = [] ∧
      tree.start "missing/../full/a.json" = [] := by
  rw [← same]
  exact ⟨FileTree.start_eq_working (by decide), FileTree.start_eq_working (by decide),
    FileTree.start_eq_working (by decide)⟩

theorem node?_full : full.node? "missing/../full" = none :=
  FileTree.node?_of_missing (show _ = [] ++ _ from pathNames_full)
    (congrArg some (start_full rfl).1) step?_missing rfl

theorem save_full :
    ∃ text, (new "missing/../full").save full (notes .null) = .ok (fuller text) := by
  have path : (new "missing/../full").pathOf (notes .null) = "missing/../full/notes.json" :=
    (pathOf_notes _ (by decide) (by decide)).trans (by decide)
  have names : FileTree.pathNames "missing/../full/notes.json" =
      [] ++ "missing" :: ["..", "full", "notes.json"] := by decide
  have free : full.node? "missing/../full/notes.json" = none :=
    FileTree.node?_of_missing names (congrArg some (start_full rfl).2.1) step?_missing rfl
  have making : full.makeDirectory? "missing/../full" =
      some (full.insert ["missing"] .directory) := by
    rw [FileTree.makeDirectory?, if_neg (by decide), (start_full rfl).1, pathNames_full,
      FileTree.addDirectories?, step?_missing]
    change (FileTree.step? [] "full").bind _ = _
    rw [step?_full]
    rfl
  have located : (full.insert ["missing"] .directory).locate? "missing/../full/notes.json" =
      some ["full", "notes.json"] := by
    refine FileTree.locate?_eq_some_iff.2 ⟨by decide, by decide, ?_⟩
    rw [(start_full rfl).2.1, names, List.nil_append, follow?_full rfl,
      FileTree.follow?_singleton rfl, step?_notes]
    rfl
  rw [← path] at free located
  exact save_notes free (makeDirectory_of_absent node?_full making) located rfl

theorem read?_fuller (text : String) :
    (fuller text).read? "missing/../full/a.json" = some "" := by
  have names : FileTree.pathNames "missing/../full/a.json" =
      ["missing", "..", "full", "a.json"] := by decide
  rw [FileTree.read?, FileTree.node?_eq_bind (by decide) (by decide), (start_full rfl).2.2, names,
    follow?_full rfl, FileTree.follow?_singleton rfl,
    FileTree.step?_of_name (by decide) (by decide) (by decide) (by decide)]
  rfl

theorem directory_fuller (text : String) :
    ∃ content, (fuller text).directory "missing/../full" =
      .listing [("a.json", some ""), ("notes.json", content)] := by
  have found : (fuller text).locate? "missing/../full" = some ["full"] := by
    refine FileTree.locate?_eq_some_iff.2 ⟨by decide, by decide, ?_⟩
    rw [(start_full rfl).1, pathNames_full, follow?_full rfl]
    rfl
  have stands : (fuller text).nodeAt? ["full"] = some .directory := rfl
  have inside : (fuller text).namesIn ["full"] = ["notes.json", "a.json"] := rfl
  have path : FileTree.join "missing/../full" "a.json" = "missing/../full/a.json" :=
    (FileTree.join_eq_append (by decide) (by decide) (by decide)).trans (by decide)
  refine ⟨(fuller text).read? (FileTree.join "missing/../full" "notes.json"), ?_⟩
  simp only [FileTree.directory, found, stands, inside, List.map_cons, List.map_nil, path,
    read?_fuller]
  rfl

/-- A path that leads up again from a missing directory can lead to a directory with files once the
missing one is made. -/
theorem load_notes_beside :
    full.directory "missing/../full" = .absent ∧
      ∃ saved, (new "missing/../full").save full (notes .null) = .ok saved ∧
        ((new "missing/../full").load .empty (saved.directory "missing/../full")).2 ≠ .ok () := by
  obtain ⟨text, written⟩ := save_full
  refine ⟨FileTree.directory_eq_absent_iff.2 node?_full, _, written, fun loaded => ?_⟩
  obtain ⟨content, seen⟩ := directory_fuller text
  rw [seen] at loaded
  -- The empty text of the other file is no JSON, whatever its path is.
  obtain ⟨schema, read⟩ := read_of_loadFiles loaded (List.mem_filter.2
    ⟨List.mem_cons_self, isFileName_append (show "a" ≠ "" by decide)⟩)
  cases read

/-- Built schemas that are saved where no directory was and are not had back: one whose default is
no JSON, one whose directory has the empty path, and one beside a file that is malformed. -/
theorem load_save_lost :
    (∀ content, (notes content).Built ∧ Registry.empty.verifySchema (notes content) = .ok ()) ∧
      FileTree.empty.Sound ∧ full.Sound ∧
      (FileTree.empty.directory "schemas" = .absent ∧
        ∃ saved, (new "schemas").save .empty (notes (.bytes [0])) = .ok saved ∧
          ((new "schemas").load .empty (saved.directory "schemas")).1.get? "notes" ≠
            some (notes (.bytes [0]))) ∧
      (FileTree.empty.directory "" = .absent ∧
        ∃ saved, (new "").save .empty (notes .null) = .ok saved ∧
          ((new "").load .empty (saved.directory "")).1.get? "notes" = none) ∧
      full.directory "missing/../full" = .absent ∧
        ∃ saved, (new "missing/../full").save full (notes .null) = .ok saved ∧
          ((new "missing/../full").load .empty (saved.directory "missing/../full")).2 ≠ .ok () := by
  obtain ⟨savedBytes, writtenBytes, readBytes⟩ := load_notes_bytes
  obtain ⟨absent, saved, written, read⟩ := load_notes_nowhere
  refine ⟨fun content => ⟨built_notes content, verifySchema_notes .empty content⟩,
    FileTree.sound_empty, sound_full,
    ⟨FileTree.directory_eq_absent_iff.2 node?_schemas, savedBytes, writtenBytes, ?_⟩,
    ⟨absent, saved, written, ?_⟩, load_notes_beside⟩
  · rw [readBytes]
    intro same
    cases Option.some.inj same
  · rw [read]
    rfl

end DocumentSchema.Catalogue
