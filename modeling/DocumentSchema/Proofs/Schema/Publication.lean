import DocumentSchema.Proofs.Schema.Catalogue

/-!
Names of published schemas.

Schemas are published one by one or from the files of a directory, in any sequence of calls. Each
call adds schemas that come from it under names that are not taken
(`Catalogue.exists_addAll_of_next`), and so a name keeps its schema for ever
(`Catalogue.get?_run_append`). `Catalogue.names_immutable` says what is known of the schemas that
are stored after any calls, and what a load adds to them.
-/

namespace DocumentSchema.Catalogue

variable {catalogue after : Catalogue} {registry : Registry} {schema : Schema} {name : String}
  {schemas : List Schema}

/-! ## Calls -/

/-- What may be asked of a catalogue: to publish a schema, to load its directory, whatever is seen
of it then, or to save a schema in a file tree. -/
inductive Call where
  | register (schema : Schema)
  | load (registry : Registry) (seen : Directory)
  | save (tree : FileTree) (schema : Schema)

/-- The schema files in a listing. -/
def schemaFiles (entries : Entries (Option String)) : List (String × Option String) :=
  entries.filter fun entry => isFileName entry.1

/-- The catalogue after a call, which may have failed. Saving does not change it. -/
def next (catalogue : Catalogue) : Call → Catalogue
  | .register schema =>
    match catalogue.register schema with
    | .ok published => published
    | .error _ => catalogue
  | .load registry seen => (catalogue.load registry seen).1
  | .save _ _ => catalogue

/-- The catalogue of a directory after calls, of which any may have failed. -/
def run (directory : String) (calls : List Call) : Catalogue :=
  calls.foldl next (new directory)

/-- A schema comes from a call: it is the one to publish, or one that is read from a file. -/
inductive Call.Gives : Call → Schema → Prop
  | register (schema : Schema) : Gives (.register schema) schema
  | load {registry : Registry} {entries : Entries (Option String)} {file : String × Option String}
    {schema : Schema} :
    file ∈ schemaFiles entries → schema.IsReadFrom registry file.2 →
      Gives (.load registry (.listing entries)) schema

variable {call : Call} {calls : List Call} {directory : String}

/-- Whatever a call does, it adds fresh schemas that come from it. -/
theorem exists_addAll_of_next (catalogue : Catalogue) (call : Call) :
    ∃ schemas, Fresh catalogue schemas ∧ (∀ schema ∈ schemas, call.Gives schema) ∧
      catalogue.next call = catalogue.addAll schemas := by
  have nothing : ∃ schemas, Fresh catalogue schemas ∧ (∀ schema ∈ schemas, call.Gives schema) ∧
      catalogue = catalogue.addAll schemas :=
    ⟨[], fresh_nil, List.forall_mem_nil _, rfl⟩
  cases call with
  | register schema =>
    rw [next]
    split
    · next published registered =>
      obtain ⟨free, rfl⟩ := register_eq_ok_iff.1 registered
      refine ⟨[schema], fresh_cons_iff.2 ⟨free, fresh_nil⟩, fun other member => ?_, rfl⟩
      cases List.mem_singleton.1 member
      exact .register schema
    · exact nothing
  | load registry seen =>
    cases seen with
    | absent => exact nothing
    | unreadable => exact nothing
    | listing entries =>
      obtain ⟨before, later, schemas, split, publishable, same⟩ :=
        exists_publishable_of_loadFiles registry catalogue (schemaFiles entries)
      refine ⟨schemas, publishable.fresh, fun schema member => ?_, same⟩
      obtain ⟨file, held, read⟩ := exists_of_mem_right publishable.read member
      refine .load ?_ read
      rw [split]
      exact List.mem_append_left later held
  | save tree schema => exact nothing

/-- A name that is taken keeps its schema through a call. -/
theorem get?_next_of_get? (stored : catalogue.get? name = some schema) (call : Call) :
    (catalogue.next call).get? name = some schema := by
  obtain ⟨schemas, fresh, -, same⟩ := exists_addAll_of_next catalogue call
  rw [same]
  exact (get?_addAll fresh).2 (.inl stored)

/-- A schema that a call adds comes from it, and is added under its own name. -/
theorem gives_of_get?_next (absent : catalogue.get? name = none)
    (stored : (catalogue.next call).get? name = some schema) :
    schema.name = name ∧ call.Gives schema := by
  obtain ⟨schemas, fresh, given, same⟩ := exists_addAll_of_next catalogue call
  rw [same, get?_addAll fresh, absent] at stored
  rcases stored with earlier | ⟨member, named⟩
  · cases earlier
  · exact ⟨named, given schema member⟩

/-! ## Runs -/

theorem run_concat (directory : String) (calls : List Call) (call : Call) :
    run directory (calls ++ [call]) = (run directory calls).next call :=
  List.foldl_concat next (new directory) call calls

/-- A name that is taken keeps its schema through all later calls. -/
theorem get?_run_append (stored : (run directory calls).get? name = some schema)
    (more : List Call) : (run directory (calls ++ more)).get? name = some schema := by
  induction more using List.reverseRecOn with
  | nil => rwa [List.append_nil]
  | append_singleton more call ih =>
    rw [← List.append_assoc, run_concat]
    exact get?_next_of_get? ih call

/-- Some call has put a schema under a name that was not taken before. -/
theorem exists_call_of_get?_run (stored : (run directory calls).get? name = some schema) :
    ∃ before call later, calls = before ++ call :: later ∧
      (run directory before).get? name = none ∧
      (run directory (before ++ [call])).get? name = some schema := by
  induction calls using List.reverseRecOn with
  | nil => cases stored
  | append_singleton calls call ih =>
    cases earlier : (run directory calls).get? name with
    | none => exact ⟨calls, call, [], rfl, earlier, stored⟩
    | some other =>
      cases (get?_run_append earlier [call]).symm.trans stored
      obtain ⟨before, first, later, rfl, absent, put⟩ := ih earlier
      exact ⟨before, first, later ++ [call], by rw [List.append_assoc, List.cons_append], absent,
        put⟩

/-- What is known of a schema that is stored under a name after calls: it stays there, the name is
its own, its attributes have names that are not empty and hold no dot, and there is a first call
after which it is stored. It comes from that call, and if this is a load, all callbacks in it are
registered for the load. -/
structure Published (directory : String) (calls : List Call) (name : String) (schema : Schema) :
    Prop where
  stays : ∀ more, (run directory (calls ++ more)).get? name = some schema
  named : schema.name = name
  fields : ∀ field ∈ schema.attributes, field.1 ≠ "" ∧ '.' ∉ field.1.toList
  origin : ∃ before call later, calls = before ++ call :: later ∧
    (run directory before).get? name = none ∧
    (run directory (before ++ [call])).get? name = some schema ∧ call.Gives schema ∧
    ∀ registry seen, call = .load registry seen → registry.verifySchema schema = .ok ()

theorem Call.Gives.built (gives : call.Gives schema)
    (built : ∀ registered, call = .register registered → registered.Built) : schema.Built := by
  cases gives with
  | register => exact built schema rfl
  | load _ read => exact read.built

theorem Call.Gives.verified {seen : Directory} (gives : Call.Gives (.load registry seen) schema) :
    registry.verifySchema schema = .ok () := by
  cases gives with
  | load _ read => exact read.verified

theorem published_of_get?_run (built : ∀ schema, .register schema ∈ calls → schema.Built)
    (stored : (run directory calls).get? name = some schema) :
    Published directory calls name schema := by
  obtain ⟨before, call, later, rfl, absent, put⟩ := exists_call_of_get?_run stored
  have added := put
  rw [run_concat] at added
  obtain ⟨named, gives⟩ := gives_of_get?_next absent added
  have sound := gives.built fun registered same =>
    built registered (same ▸ List.mem_append_right before List.mem_cons_self)
  refine ⟨get?_run_append stored, named, fun field member => ?_, ?_⟩
  · exact isFieldName_of_checkName (sound.sound.2.named field member)
  · refine ⟨before, call, later, rfl, absent, put, gives, ?_⟩
    rintro registry seen rfl
    exact gives.verified

/-! ## Immutable names -/

/-- A catalogue has schemas besides those of another one, and no others. -/
structure Adds (catalogue : Catalogue) (schemas : List Schema) (after : Catalogue) : Prop where
  directory : after.directory = catalogue.directory
  stored : ∀ name schema, after.get? name = some schema ↔
    catalogue.get? name = some schema ∨ schema ∈ schemas ∧ schema.name = name

/-- A listing is loaded in its order. That succeeds exactly if all schema files in it can be
published, and then their schemas are added. Otherwise the error is that of the first bad file, and
the schemas of the files before it are added. -/
structure LoadsInOrder (registry : Registry) (catalogue : Catalogue)
    (entries : Entries (Option String)) : Prop where
  succeeds : (catalogue.load registry (.listing entries)).2 = .ok () ↔
    ∃ schemas, Publishable registry catalogue (schemaFiles entries) schemas
  all : ∀ schemas, Publishable registry catalogue (schemaFiles entries) schemas →
    Adds catalogue schemas (catalogue.load registry (.listing entries)).1
  upTo : ∀ error, (catalogue.load registry (.listing entries)).2 = .error error →
    ∃ before bad later schemas, schemaFiles entries = before ++ bad :: later ∧
      Publishable registry catalogue before schemas ∧
      Adds catalogue schemas (catalogue.load registry (.listing entries)).1 ∧
      Refuses registry (catalogue.load registry (.listing entries)).1 bad error

theorem adds_addAll (fresh : Fresh catalogue schemas) :
    Adds catalogue schemas (catalogue.addAll schemas) :=
  ⟨directory_addAll catalogue schemas, fun _ _ => get?_addAll fresh⟩

theorem loadsInOrder (registry : Registry) (catalogue : Catalogue)
    (entries : Entries (Option String)) : LoadsInOrder registry catalogue entries where
  succeeds := by
    constructor
    · intro loaded
      obtain ⟨schemas, publishable, -⟩ := loadFiles_eq_ok_iff.1 (Prod.ext rfl loaded)
      exact ⟨schemas, publishable⟩
    · rintro ⟨schemas, publishable⟩
      exact congrArg Prod.snd (loadFiles_eq_ok_iff.2 ⟨schemas, publishable, rfl⟩)
  all := by
    intro schemas publishable
    have loaded := loadFiles_eq_ok_iff.2 ⟨schemas, publishable, rfl⟩
    rw [show catalogue.load registry (.listing entries) = _ from loaded]
    exact adds_addAll publishable.fresh
  upTo := by
    intro error failed
    obtain ⟨before, bad, later, schemas, split, publishable, same, refused⟩ :=
      loadFiles_eq_error_iff.1 (Prod.ext rfl failed)
    refine ⟨before, bad, later, schemas, split, publishable, ?_, refused⟩
    have adds := adds_addAll publishable.fresh
    rwa [← same] at adds

/-- After any calls on a new catalogue, which publish built schemas, load the directory in whatever
state it is, and save schemas: each schema that is stored is one that stays stored under its own
name, with proper names of attributes, and was verified if it was loaded. A directory that is listed
is loaded in the order of the listing up to the first file that is bad, and the listing has all that
stands in the directory in the order of the names. -/
theorem names_immutable (directory : String) (calls : List Call)
    (built : ∀ schema, .register schema ∈ calls → schema.Built) :
    (∀ name schema, (run directory calls).get? name = some schema →
      Published directory calls name schema) ∧
      (∀ registry entries, LoadsInOrder registry (run directory calls) entries) ∧
      ∀ (tree : FileTree) entries, tree.directory directory = .listing entries →
        Entries.Ascending entries ∧ ∃ place, tree.locate? directory = some place ∧
          ∀ entry, entry ∈ entries ↔ entry.1 ∈ tree.namesIn place ∧
            entry.2 = tree.read? (FileTree.join directory entry.1) :=
  ⟨fun _ _ => published_of_get?_run built, fun registry => loadsInOrder registry _,
    fun _ _ => FileTree.entries_of_listing⟩

/-- Notes that are saved and loaded stay as they are when other notes are published. -/
theorem names_immutable_notes :
    ∃ saved text, (new "schemas").save .empty (notes .null) = .ok saved ∧
      saved.directory "schemas" = .listing [("notes" ++ extension, some text)] ∧
      (∀ schema, .register schema ∈ [Call.load .empty (saved.directory "schemas"),
        .register (notes (.bool true))] → schema.Built) ∧
      Published "schemas" [.load .empty (saved.directory "schemas"),
        .register (notes (.bool true))] "notes" (notes .null) ∧
      LoadsInOrder .empty (run "schemas" [.load .empty (saved.directory "schemas"),
        .register (notes (.bool true))]) [("notes" ++ extension, some text)] ∧
      saved.read? (FileTree.join "schemas" ("notes" ++ extension)) = some text := by
  obtain ⟨saved, written⟩ := save_notes_empty .null
  obtain ⟨text, -, listed⟩ :=
    directory_of_save FileTree.sound_empty vacant_schemas (by decide) written
  have floats : Value.null.FloatsReadBack :=
    Value.floatsReadBack_of_leaf rfl fun _ same => by cases same
  have ordered : Value.null.Ordered := trivial
  have loaded := load_of_save (built_notes _) (by decide) (savable_notes ordered floats (by decide))
    (verifySchema_notes .empty _) FileTree.sound_empty vacant_schemas written
  have first : (run "schemas" [.load .empty (saved.directory "schemas")]).get? "notes" =
      some (notes .null) := by
    have after : run "schemas" [.load .empty (saved.directory "schemas")] =
        ⟨"schemas", [("notes", notes .null)]⟩ := congrArg Prod.fst loaded
    rw [after]
    rfl
  have stored := get?_run_append first [.register (notes (.bool true))]
  have built : ∀ schema, .register schema ∈ [Call.load .empty (saved.directory "schemas"),
      .register (notes (.bool true))] → schema.Built := by
    intro schema member
    rcases List.mem_pair.1 member with load | register
    · cases load
    · cases register
      exact built_notes (.bool true)
  obtain ⟨published, inOrder, seen⟩ := names_immutable "schemas" _ built
  obtain ⟨-, place, -, contents⟩ := seen saved _ listed
  have read := ((contents ("notes" ++ extension, some text)).1 List.mem_cons_self).2
  exact ⟨saved, text, written, listed, built, published _ _ stored, inOrder _ _, read.symm⟩

end DocumentSchema.Catalogue
