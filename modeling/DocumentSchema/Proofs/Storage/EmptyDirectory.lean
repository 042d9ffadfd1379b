import DocumentSchema.Proofs.Storage.FileTree
import Mathlib.Data.List.Induction

/-!
Files that are written into empty directories.

A tree is `FileTree.Sound` when everything in it stands in a directory, and it stays so. In a sound
tree a directory that is made where nothing stood is empty, as long as its path does not lead up
again once it has reached a name that is missing (`FileTree.makes_empty`). A file that is written
into an empty directory is all that is seen of the directory then (`FileTree.directory_of_write?`).
-/

namespace DocumentSchema.FileTree

variable {tree made : FileTree} {location place : Location} {name path directory : String}
  {names : List String} {node : FileNode}

/-! ## Sound trees -/

/-- Everything stands in a directory, and the working directory is one. -/
structure Sound (tree : FileTree) : Prop where
  around : ∀ node ∈ tree.nodes, node.1 ≠ [] ∧ tree.nodeAt? node.1.dropLast = some .directory
  working : tree.nodeAt? tree.working = some .directory

/-- The empty tree is sound. -/
theorem sound_empty : FileTree.empty.Sound where
  around := by decide
  working := by decide

/-- Paths start at a directory. -/
theorem Sound.nodeAt?_start (sound : tree.Sound) (path : String) :
    tree.nodeAt? (tree.start path) = some .directory := by
  unfold start
  split
  · rfl
  · exact sound.working

/-- Putting something where no directory is, in a directory, keeps a tree sound. -/
theorem Sound.insert (sound : tree.Sound) (below : location ≠ [])
    (around : tree.nodeAt? location.dropLast = some .directory)
    (noDirectory : tree.nodeAt? location ≠ some .directory) :
    (tree.insert location node).Sound := by
  -- Only what is no directory is replaced, so that all directories stay.
  have kept {place : Location} (stands : tree.nodeAt? place = some .directory) :
      (tree.insert location node).nodeAt? place = some .directory := by
    have elsewhere : place ≠ location := by
      rintro rfl
      exact noDirectory stands
    rwa [nodeAt?_insert_of_ne elsewhere]
  refine ⟨fun entry member => ?_, kept sound.working⟩
  rcases List.mem_cons.1 member with rfl | old
  · exact ⟨below, kept around⟩
  · obtain ⟨belowToo, directory⟩ := sound.around entry (List.mem_of_mem_filter old)
    exact ⟨belowToo, kept directory⟩

/-- In a sound tree a directory stands in a directory. -/
theorem Sound.nodeAt?_dropLast (sound : tree.Sound)
    (stands : tree.nodeAt? location = some .directory) :
    tree.nodeAt? location.dropLast = some .directory := by
  by_cases root : location = []
  · rw [root]
    rfl
  · exact (sound.around _ (exists_node_of_nodeAt? root stands)).2

/-- One name leads from a directory to a directory or to a place in one. -/
theorem Sound.around_of_step? {next : Location} (sound : tree.Sound)
    (stands : tree.nodeAt? location = some .directory) (step : step? location name = some next) :
    tree.nodeAt? next = some .directory ∨ tree.nodeAt? next.dropLast = some .directory := by
  rcases step?_cases step with rfl | ⟨-, rfl⟩ | ⟨-, rfl⟩
  · exact .inl stands
  · exact .inl (sound.nodeAt?_dropLast stands)
  · exact .inr (by rwa [List.dropLast_concat])

/-- Where names lead, there is a directory, or one around it. -/
theorem Sound.around_of_follow? (sound : tree.Sound)
    (start : tree.nodeAt? location = some .directory ∨
      tree.nodeAt? location.dropLast = some .directory)
    (followed : tree.follow? location names = some place) :
    tree.nodeAt? place = some .directory ∨ tree.nodeAt? place.dropLast = some .directory := by
  induction names generalizing location with
  | nil =>
    cases followed
    exact start
  | cons name rest ih =>
    rw [follow?] at followed
    split at followed
    · next stands =>
      obtain ⟨next, step, followed⟩ := Option.bind_eq_some_iff.1 followed
      exact ih (sound.around_of_step? stands step) followed
    · cases followed

/-- The first of several directories stands already or is made where nothing stands. -/
theorem addDirectories?_cons {rest : List String}
    (making : tree.addDirectories? location (name :: rest) = some made) :
    ∃ next, step? location name = some next ∧
      (tree.nodeAt? next = some .directory ∧ tree.addDirectories? next rest = some made ∨
        tree.nodeAt? next = none ∧
          (tree.insert next .directory).addDirectories? next rest = some made) := by
  rw [addDirectories?] at making
  obtain ⟨next, step, making⟩ := Option.bind_eq_some_iff.1 making
  refine ⟨next, step, ?_⟩
  split at making
  · next directory => exact .inl ⟨directory, making⟩
  · cases making
  · next vacant => exact .inr ⟨vacant, making⟩

/-- The working directory stays the same when directories are made. -/
theorem working_of_addDirectories? (making : tree.addDirectories? location names = some made) :
    made.working = tree.working := by
  induction names generalizing tree location with
  | nil =>
    cases making
    rfl
  | cons name rest ih =>
    obtain ⟨next, -, ⟨-, making⟩ | ⟨-, making⟩⟩ := addDirectories?_cons making
    · exact ih making
    · have same : made.working = (tree.insert next .directory).working := ih making
      exact same

theorem ne_nil_of_vacant (vacant : tree.nodeAt? location = none) : location ≠ [] := by
  rintro rfl
  cases vacant

/-- A tree stays sound when directories are made. -/
theorem Sound.addDirectories? (sound : tree.Sound)
    (stands : tree.nodeAt? location = some .directory)
    (making : tree.addDirectories? location names = some made) : made.Sound := by
  induction names generalizing tree location with
  | nil =>
    cases making
    exact sound
  | cons name rest ih =>
    obtain ⟨next, step, ⟨directory, making⟩ | ⟨vacant, making⟩⟩ := addDirectories?_cons making
    · exact ih sound directory making
    · have below := ne_nil_of_vacant vacant
      have noDirectory : tree.nodeAt? next ≠ some .directory := by simp [vacant]
      have around := (sound.around_of_step? stands step).resolve_left noDirectory
      exact ih (sound.insert below around noDirectory) (nodeAt?_insert_self below) making

/-- Making directories keeps a tree sound. -/
theorem Sound.makeDirectory? (sound : tree.Sound) (making : tree.makeDirectory? path = some made) :
    made.Sound := by
  unfold FileTree.makeDirectory? at making
  split at making
  · cases making
  · exact sound.addDirectories? (sound.nodeAt?_start path) making

/-- A tree stays sound when a file is written. -/
theorem Sound.write? {content : String} (sound : tree.Sound)
    (written : tree.write? path content = some made) : made.Sound := by
  obtain ⟨location, located, noDirectory, ⟨-, rfl⟩ | ⟨-, rfl⟩⟩ := write?_eq_some_iff.1 written
  · exact sound
  · obtain ⟨-, -, followed⟩ := locate?_eq_some_iff.1 located
    have below : location ≠ [] := by
      rintro rfl
      exact noDirectory rfl
    have around := (sound.around_of_follow? (.inl (sound.nodeAt?_start path)) followed).resolve_left
      noDirectory
    exact sound.insert below around noDirectory

/-! ## Making directories -/

/-- Nothing stands below a location. -/
def EmptyBelow (tree : FileTree) (location : Location) : Prop :=
  ∀ below node, (location ++ below, node) ∈ tree.nodes → below = []

/-- Nothing is in an empty directory. -/
theorem EmptyBelow.nodeAt? (empty : tree.EmptyBelow location) :
    tree.nodeAt? (location ++ [name]) = none :=
  nodeAt?_eq_none (List.concat_ne_nil name location) fun node member => by
    cases empty [name] node member

/-- A new node in an empty directory has nothing below it. -/
theorem EmptyBelow.insert (empty : tree.EmptyBelow location) :
    (tree.insert (location ++ [name]) node).EmptyBelow (location ++ [name]) := by
  intro below other member
  rcases List.mem_cons.1 member with new | old
  · simpa using (Prod.mk.inj new).1
  · have kept := List.mem_of_mem_filter old
    rw [List.append_assoc] at kept
    cases empty ([name] ++ below) other kept

/-- In a sound tree nothing stands below a location where nothing stands. -/
theorem Sound.not_below (sound : tree.Sound) (vacant : tree.nodeAt? location = none)
    (below : Location) (node : FileNode) : (location ++ below, node) ∉ tree.nodes := by
  induction below using List.reverseRecOn generalizing node with
  | nil =>
    intro member
    rw [List.append_nil] at member
    exact nodeAt?_ne_none member vacant
  | append_singleton below name ih =>
    intro member
    have around := (sound.around _ member).2
    rw [← List.append_assoc, List.dropLast_concat] at around
    by_cases root : location ++ below = []
    · rw [(List.append_eq_nil_iff.1 root).1] at vacant
      cases vacant
    · exact ih _ (exists_node_of_nodeAt? root around)

/-- Directories stay where they are when others are made. -/
theorem nodeAt?_addDirectories? (making : tree.addDirectories? location names = some made)
    (stands : tree.nodeAt? place = some .directory) : made.nodeAt? place = some .directory := by
  induction names generalizing tree location with
  | nil =>
    cases making
    exact stands
  | cons name rest ih =>
    obtain ⟨next, -, ⟨-, making⟩ | ⟨vacant, making⟩⟩ := addDirectories?_cons making
    · exact ih making stands
    · refine ih making ?_
      have elsewhere : place ≠ next := by
        rintro rfl
        rw [vacant] at stands
        cases stands
      rwa [nodeAt?_insert_of_ne elsewhere]

/-- Names lead to a directory in which nothing stands. -/
structure LeadsToEmpty (tree : FileTree) (location : Location) (names : List String)
    (place : Location) : Prop where
  followed : tree.follow? location names = some place
  directory : tree.nodeAt? place = some .directory
  empty : tree.namesIn place = []

/-- Names lead to an empty directory if the first one leads to where the others do. -/
theorem LeadsToEmpty.cons {rest : List String} {next : Location}
    (stands : tree.nodeAt? location = some .directory) (step : step? location name = some next)
    (leads : tree.LeadsToEmpty next rest place) :
    tree.LeadsToEmpty location (name :: rest) place where
  followed := by
    rw [follow?_cons stands step]
    exact leads.followed
  directory := leads.directory
  empty := leads.empty

/-- Directories that are made below an empty one are empty, if no name leads up. -/
theorem makes_empty_below (making : tree.addDirectories? location names = some made)
    (stands : tree.nodeAt? location = some .directory) (empty : tree.EmptyBelow location)
    (noUp : ".." ∉ names) : ∃ place, made.LeadsToEmpty location names place := by
  induction names generalizing tree location with
  | nil =>
    cases making
    have none : made.namesIn location = [] :=
      namesIn_eq_nil_iff.2 fun name node member => by cases empty [name] node member
    exact ⟨location, rfl, stands, none⟩
  | cons name rest ih =>
    obtain ⟨noUpHere, noUp⟩ := List.ne_and_not_mem_of_not_mem_cons noUp
    have kept := nodeAt?_addDirectories? making stands
    obtain ⟨next, step, steps⟩ := addDirectories?_cons making
    rcases step?_cases step with rfl | ⟨up, -⟩ | ⟨-, rfl⟩
    · rcases steps with ⟨-, making⟩ | ⟨vacant, -⟩
      · obtain ⟨place, leads⟩ := ih making stands empty noUp
        exact ⟨place, leads.cons kept step⟩
      · rw [stands] at vacant
        cases vacant
    · exact absurd up.symm noUpHere
    · -- Nothing stands below, so the directory of this name is made, and nothing stands below it.
      rcases steps with ⟨directory, -⟩ | ⟨vacant, making⟩
      · rw [empty.nodeAt?] at directory
        cases directory
      · obtain ⟨place, leads⟩ := ih making
          (nodeAt?_insert_self (List.concat_ne_nil name location)) empty.insert noUp
        exact ⟨place, leads.cons kept step⟩

/-- Names that do not lead up again once they have led to where nothing stands. -/
def NoReturn (tree : FileTree) (location : Location) : List String → Prop
  | [] => True
  | name :: rest =>
    ∀ next, step? location name = some next →
      (tree.nodeAt? next = none → ".." ∉ rest) ∧ tree.NoReturn next rest

/-- Names that do not go up never return. -/
theorem noReturn_of_noUp (tree : FileTree) (location : Location) (noUp : ".." ∉ names) :
    tree.NoReturn location names := by
  induction names generalizing location with
  | nil => trivial
  | cons name rest ih =>
    have noUp := List.not_mem_of_not_mem_cons noUp
    exact fun next _ => ⟨fun _ => noUp, ih next noUp⟩

/-- In a sound tree a directory that is made where there was none is empty. -/
theorem makes_empty (sound : tree.Sound)
    (making : tree.addDirectories? location names = some made)
    (stands : tree.nodeAt? location = some .directory) (noReturn : tree.NoReturn location names)
    (absent : (tree.follow? location names).bind tree.nodeAt? = none) :
    ∃ place, made.LeadsToEmpty location names place := by
  induction names generalizing location with
  | nil =>
    rw [follow?, Option.bind_some, stands] at absent
    cases absent
  | cons name rest ih =>
    have kept := nodeAt?_addDirectories? making stands
    obtain ⟨next, step, steps⟩ := addDirectories?_cons making
    obtain ⟨noUp, noReturn⟩ := noReturn next step
    rw [follow?_cons stands step] at absent
    rcases steps with ⟨directory, making⟩ | ⟨vacant, making⟩
    · obtain ⟨place, leads⟩ := ih making directory noReturn absent
      exact ⟨place, leads.cons kept step⟩
    · -- From the first name that is missing on, all directories are new.
      have empty : (tree.insert next .directory).EmptyBelow next := by
        intro below node member
        rcases List.mem_cons.1 member with new | old
        · simpa using (Prod.mk.inj new).1
        · exact absurd (List.mem_of_mem_filter old) (sound.not_below vacant below node)
      obtain ⟨place, leads⟩ := makes_empty_below making
        (nodeAt?_insert_self (ne_nil_of_vacant vacant)) empty (noUp vacant)
      exact ⟨place, leads.cons kept step⟩

/-! ## Empty directories -/

/-- A directory that is empty, or one that is absent and has a path that does not lead up again once
it has reached a name that is missing. -/
def Vacant (tree : FileTree) (directory : String) : Prop :=
  tree.directory directory = .listing [] ∨
    tree.directory directory = .absent ∧ directory ≠ "" ∧
      tree.NoReturn (tree.start directory) (pathNames directory)

theorem Vacant.ne_empty (vacant : tree.Vacant directory) : directory ≠ "" := by
  rcases vacant with listed | ⟨-, filled, -⟩
  · have stands := node?_of_listing listed
    rw [node?] at stands
    obtain ⟨place, located, -⟩ := Option.bind_eq_some_iff.1 stands
    exact (locate?_eq_some_iff.1 located).1
  · exact filled

/-- A directory in which nothing is listed is empty. -/
theorem leadsToEmpty_of_listing (listed : tree.directory directory = .listing []) :
    ∃ place, tree.LeadsToEmpty (tree.start directory) (pathNames directory) place := by
  have stands := node?_of_listing listed
  rw [node?] at stands
  obtain ⟨place, located, stands⟩ := Option.bind_eq_some_iff.1 stands
  obtain ⟨-, -, followed⟩ := locate?_eq_some_iff.1 located
  refine ⟨place, followed, stands, ?_⟩
  unfold FileTree.directory at listed
  simp only [located, stands, Directory.listing.injEq] at listed
  rw [List.eq_nil_iff_forall_not_mem]
  intro name member
  have key : Entries.hasKey ([] : Entries (Option String)) name = true := by
    rw [← listed, Entries.hasKey_ofList, Entries.keys, List.map_map]
    exact List.mem_map_of_mem member
  cases key

/-- A directory that is made where there was none is empty. -/
theorem leadsToEmpty_of_makeDirectory? (sound : tree.Sound) (filled : directory ≠ "")
    (absent : tree.directory directory = .absent)
    (noReturn : tree.NoReturn (tree.start directory) (pathNames directory))
    (making : tree.makeDirectory? directory = some made) :
    ∃ place, made.LeadsToEmpty (made.start directory) (pathNames directory) place := by
  unfold makeDirectory? at making
  split at making
  · cases making
  · next admitted =>
    have none := directory_eq_absent_iff.1 absent
    rw [node?_eq_bind filled (Nat.not_le.1 admitted)] at none
    have same : made.start directory = tree.start directory := by
      rw [start, start, working_of_addDirectories? making]
    rw [same]
    exact makes_empty sound making (sound.nodeAt?_start directory) noReturn none

/-- Nothing stands in the empty directory. -/
theorem LeadsToEmpty.nodeAt?_concat (leads : tree.LeadsToEmpty location names place)
    (name : String) : tree.nodeAt? (place ++ [name]) = none :=
  nodeAt?_eq_none (List.concat_ne_nil name place) (namesIn_eq_nil_iff.1 leads.empty name)

/-- What is put into the empty directory is alone there. -/
theorem LeadsToEmpty.insert (leads : tree.LeadsToEmpty location names place) (node : FileNode)
    (noDirectory : tree.nodeAt? (place ++ [name]) ≠ some .directory) :
    (tree.insert (place ++ [name]) node).follow? location names = some place ∧
      (tree.insert (place ++ [name]) node).nodeAt? place = some .directory ∧
      (tree.insert (place ++ [name]) node).namesIn place = [name] := by
  have elsewhere : place ≠ place ++ [name] :=
    fun same => by simpa using congrArg List.length same
  refine ⟨follow?_insert leads.followed noDirectory, ?_, namesIn_insert leads.empty⟩
  rw [nodeAt?_insert_of_ne elsewhere, leads.directory]

/-- A file that is written into an empty directory is all that is seen of it. -/
theorem directory_of_write? {content : String}
    (leads : tree.LeadsToEmpty (tree.start directory) (pathNames directory) place)
    (filled : directory ≠ "") (noSlash : '/' ∉ name.toList) (noUp : name ≠ "..")
    (written : tree.write? (join directory name) content = some made) :
    made.directory directory = .listing [(name, some content)] := by
  obtain ⟨location, located, noDirectory, writes⟩ := write?_eq_some_iff.1 written
  obtain ⟨filledFile, short, followed⟩ := locate?_eq_some_iff.1 located
  rw [start_join filled noSlash, follow?_join filled noSlash leads.followed leads.directory]
    at followed
  obtain rfl : location = place ++ [name] := by
    rcases step?_cases followed with rfl | ⟨up, -⟩ | ⟨-, inside⟩
    · exact absurd leads.directory noDirectory
    · exact absurd up noUp
    · exact inside
  -- Nothing stands in the directory, and so the null device does not.
  have vacant := leads.nodeAt?_concat name
  obtain ⟨-, rfl⟩ := writes.resolve_left fun device => by
    rw [vacant] at device
    cases device.1
  obtain ⟨kept, stands, alone⟩ := leads.insert (.file content) noDirectory
  have shortDirectory : directory.utf8ByteSize < maxPathSize := by
    obtain ⟨more, joined⟩ := exists_join filled noSlash
    rw [joined, String.utf8ByteSize_append] at short
    omega
  have found : (tree.insert (place ++ [name]) (.file content)).locate? directory =
      some place := locate?_eq_some_iff.2 ⟨filled, shortDirectory, kept⟩
  have foundFile : (tree.insert (place ++ [name]) (.file content)).locate?
      (join directory name) = some (place ++ [name]) := by
    refine locate?_eq_some_iff.2 ⟨filledFile, short, ?_⟩
    rw [start_join filled noSlash]
    exact (follow?_join filled noSlash kept stands).trans followed
  have read : (tree.insert (place ++ [name]) (.file content)).read? (join directory name) =
      some content := by
    rw [read?, node?, foundFile, Option.bind_some,
      nodeAt?_insert_self (List.concat_ne_nil name place)]
  simp only [FileTree.directory, found, stands, alone, List.map_cons, List.map_nil, read]
  rfl

end DocumentSchema.FileTree
