import DocumentSchema.Proofs.Text.Parts
import DocumentSchema.Proofs.Value.Dictionary
import DocumentSchema.Storage.FileTree
import Mathlib.Data.List.Basic

/-!
Paths that lead through file trees.

What is put somewhere is found there, and nothing else changes (`FileTree.nodeAt?_insert_self`,
`FileTree.nodeAt?_insert_of_ne`). The path of a file in a directory leads one name further than that
of the directory (`FileTree.follow?_join`), and nothing stands at a path that comes to a name that
is missing (`FileTree.node?_of_missing`).
-/

namespace DocumentSchema

namespace FileTree

variable {tree made : FileTree} {location place : Location} {name path : String}
  {names : List String} {node : FileNode}

/-! ## Locations -/

/-- What is put at a location stands there. -/
theorem nodeAt?_insert_self (below : location ≠ []) :
    (tree.insert location node).nodeAt? location = some node := by
  simp [nodeAt?, insert, below]

/-- What stands elsewhere is not changed. -/
theorem nodeAt?_insert_of_ne (different : place ≠ location) :
    (tree.insert location node).nodeAt? place = tree.nodeAt? place := by
  have found : (tree.nodes.filter fun other => other.1 ≠ location).find?
      (fun other => other.1 = place) = tree.nodes.find? fun other => other.1 = place := by
    rw [List.find?_filter]
    refine congrArg (fun p => tree.nodes.find? p) (funext fun other => ?_)
    by_cases same : other.1 = place <;> simp [same, different]
  by_cases root : place = []
  · rw [nodeAt?, nodeAt?, if_pos root, if_pos root]
  · rw [nodeAt?, nodeAt?, if_neg root, if_neg root, insert,
      List.find?_cons_of_neg (by simpa using different.symm), found]

/-- What stands below the root was put there. -/
theorem exists_node_of_nodeAt? (below : location ≠ [])
    (stands : tree.nodeAt? location = some node) : (location, node) ∈ tree.nodes := by
  rw [nodeAt?, if_neg below] at stands
  obtain ⟨⟨other, node'⟩, found, rfl⟩ := Option.map_eq_some_iff.1 stands
  have same : other = location := by simpa using List.find?_some found
  rw [← same]
  exact List.mem_of_find?_eq_some found

/-- Nothing stands where nothing was put. -/
theorem nodeAt?_eq_none (below : location ≠ []) (vacant : ∀ node, (location, node) ∉ tree.nodes) :
    tree.nodeAt? location = none := by
  cases stands : tree.nodeAt? location with
  | none => rfl
  | some node => exact absurd (exists_node_of_nodeAt? below stands) (vacant node)

/-- Something stands where something was put. -/
theorem nodeAt?_ne_none (member : (location, node) ∈ tree.nodes) :
    tree.nodeAt? location ≠ none := by
  intro none
  by_cases root : location = []
  · rw [nodeAt?, if_pos root] at none
    cases none
  · rw [nodeAt?, if_neg root, Option.map_eq_none_iff, List.find?_eq_none] at none
    simpa using none _ member

/-- The names in a directory are those of what stands in it. -/
theorem mem_namesIn_iff :
    name ∈ tree.namesIn location ↔ ∃ node, (location ++ [name], node) ∈ tree.nodes := by
  have last : ∀ place : Location,
      (if place.dropLast = location then place.getLast? else none) = some name ↔
        place = location ++ [name] := by
    intro place
    constructor
    · intro held
      split at held
      · next inside =>
        obtain ⟨before, rfl⟩ := List.getLast?_eq_some_iff.1 held
        rw [List.dropLast_concat] at inside
        rw [inside]
      · cases held
    · rintro rfl
      simp
  simp only [namesIn, List.mem_filterMap, Prod.exists, last]
  constructor
  · rintro ⟨_, node, member, rfl⟩
    exact ⟨node, member⟩
  · rintro ⟨node, member⟩
    exact ⟨_, node, member, rfl⟩

/-- A directory is empty if nothing stands in it. -/
theorem namesIn_eq_nil_iff :
    tree.namesIn location = [] ↔ ∀ name node, (location ++ [name], node) ∉ tree.nodes := by
  rw [List.eq_nil_iff_forall_not_mem]
  refine forall_congr' fun name => ?_
  rw [mem_namesIn_iff, not_exists]

/-- What is put into an empty directory is alone there. -/
theorem namesIn_insert (empty : tree.namesIn location = []) :
    (tree.insert (location ++ [name]) node).namesIn location = [name] := by
  have others : (tree.nodes.filter fun other => other.1 ≠ location ++ [name]).filterMap
      (fun other => if other.1.dropLast = location then other.1.getLast? else none) = [] := by
    have sublist := (List.filter_sublist (p := fun other => other.1 ≠ location ++ [name])
      (l := tree.nodes)).filterMap fun other =>
        if other.1.dropLast = location then other.1.getLast? else none
    rw [show tree.nodes.filterMap _ = [] from empty] at sublist
    exact List.sublist_nil.1 sublist
  rw [namesIn, insert, List.filterMap_cons]
  simp only [List.dropLast_concat, if_true, List.getLast?_concat]
  exact congrArg (name :: ·) others

/-! ## Following names -/

/-- Names are followed one after the other. -/
theorem follow?_append (more : List String) :
    tree.follow? location (names ++ more) =
      (tree.follow? location names).bind fun place => tree.follow? place more := by
  induction names generalizing location with
  | nil => rfl
  | cons name rest ih =>
    rw [List.cons_append, follow?, follow?]
    by_cases directory : tree.nodeAt? location = some .directory
    · rw [if_pos directory, if_pos directory, Option.bind_assoc]
      exact congrArg _ (funext fun next => ih)
    · rw [if_neg directory, if_neg directory]
      rfl

/-- A name is followed from a directory. -/
theorem follow?_cons {rest : List String} {next : Location}
    (stands : tree.nodeAt? location = some .directory) (step : step? location name = some next) :
    tree.follow? location (name :: rest) = tree.follow? next rest := by
  rw [follow?, if_pos stands, step, Option.bind_some]

theorem follow?_singleton (directory : tree.nodeAt? location = some .directory) :
    tree.follow? location [name] = step? location name := by
  rw [follow?, if_pos directory]
  exact Option.bind_fun_some _

/-- Names that lead to a directory start at one. -/
theorem directory_of_follow? (followed : tree.follow? location names = some place)
    (stands : tree.nodeAt? place = some .directory) :
    tree.nodeAt? location = some .directory := by
  cases names with
  | nil =>
    cases followed
    exact stands
  | cons name rest =>
    rw [follow?] at followed
    split at followed
    · next directory => exact directory
    · cases followed

/-- Directories that stand already are passed when further ones are made. -/
theorem addDirectories?_append {more : List String}
    (followed : tree.follow? location names = some place)
    (stands : tree.nodeAt? place = some .directory) :
    tree.addDirectories? location (names ++ more) = tree.addDirectories? place more := by
  induction names generalizing location with
  | nil =>
    cases followed
    rfl
  | cons name rest ih =>
    rw [follow?] at followed
    split at followed
    · obtain ⟨next, step, followed⟩ := Option.bind_eq_some_iff.1 followed
      rw [List.cons_append, addDirectories?, step, Option.bind_some,
        directory_of_follow? followed stands]
      exact ih followed
    · cases followed

/-- Names lead to the same location after something is put where there is no directory. -/
theorem follow?_insert (followed : tree.follow? location names = some place)
    {target : Location} (noDirectory : tree.nodeAt? target ≠ some .directory) :
    (tree.insert target node).follow? location names = some place := by
  induction names generalizing location with
  | nil => exact followed
  | cons name rest ih =>
    rw [follow?] at followed
    by_cases directory : tree.nodeAt? location = some .directory
    · rw [if_pos directory] at followed
      obtain ⟨next, step, followed⟩ := Option.bind_eq_some_iff.1 followed
      have elsewhere : location ≠ target := by
        rintro rfl
        exact noDirectory directory
      rw [follow?, nodeAt?_insert_of_ne elsewhere, if_pos directory, step, Option.bind_some]
      exact ih followed
    · rw [if_neg directory] at followed
      cases followed

/-- Where one name leads: nowhere else, to the directory around, or to the name in the directory. -/
theorem step?_cases {next : Location} (step : step? location name = some next) :
    next = location ∨ name = ".." ∧ next = location.dropLast ∨
      isName name = true ∧ next = location ++ [name] := by
  unfold step? at step
  split at step
  · exact .inl (Option.some.inj step).symm
  · split at step
    · next up => exact .inr (.inl ⟨up, (Option.some.inj step).symm⟩)
    · split at step
      · next named => exact .inr (.inr ⟨named, (Option.some.inj step).symm⟩)
      · cases step

/-- A proper name leads to itself in the directory. -/
theorem step?_of_name (filled : name ≠ "") (noDots : name ≠ "." ∧ name ≠ "..")
    (short : name.utf8ByteSize ≤ 255) (noNull : '\x00' ∉ name.toList) :
    step? location name = some (location ++ [name]) := by
  have named : isName name = true := by
    rw [isName, String.contains_char_eq]
    simp [short, noNull]
  rw [step?, if_neg (by simp [filled, noDots.1]), if_neg noDots.2, if_pos named]

/-! ## Paths of files in a directory -/

/-- A name behind a slash comes last. -/
theorem pathNames_slash {directory : String} (noSlash : '/' ∉ name.toList) :
    pathNames (directory ++ "/" ++ name) = pathNames directory ++ [name] := by
  have letters : (directory ++ "/" ++ name).toList = directory.toList ++ '/' :: name.toList := by
    simp
  rw [pathNames, letters, Text.parts_concat noSlash, List.map_append, List.map_singleton,
    String.ofList_toList]
  rfl

/-- A name is put behind a slash, which is not doubled. -/
theorem join_eq {directory : String} (filled : directory ≠ "") (noSlash : '/' ∉ name.toList) :
    (∃ init, directory = init ++ "/" ∧ join directory name = init ++ "/" ++ name) ∨
      join directory name = directory ++ "/" ++ name := by
  have relative : ¬(name.startsWith "/" || directory.isEmpty) = true := by
    rw [Bool.or_eq_true, String.startsWith_string_iff, String.isEmpty_iff]
    rintro (start | empty)
    · exact noSlash (start.subset (by simp))
    · exact filled empty
  rw [join, if_neg relative]
  by_cases slash : directory.endsWith "/" = true
  · left
    rw [if_pos slash]
    rw [← String.endsWith_toSlice, String.Slice.endsWith_string_iff, String.copy_toSlice] at slash
    obtain ⟨init, letters⟩ := slash
    have split : directory = String.ofList init ++ "/" := by
      apply String.toList_injective
      simp [← letters]
    exact ⟨String.ofList init, split, by rw [split]⟩
  · exact .inr (if_neg slash)

/-- A name is put behind a slash of its own where the path has none at its end. -/
theorem join_eq_append {directory : String} (filled : directory ≠ "")
    (noSlash : '/' ∉ name.toList) (unended : directory.toList.getLast? ≠ some '/') :
    join directory name = directory ++ "/" ++ name := by
  rcases join_eq filled noSlash with ⟨init, split, -⟩ | joined
  · rw [split] at unended
    simp at unended
  · exact joined

/-- The path of a file in a directory leads one name further than that of the directory. -/
theorem follow?_join {directory : String} (filled : directory ≠ "") (noSlash : '/' ∉ name.toList)
    (followed : tree.follow? location (pathNames directory) = some place)
    (stands : tree.nodeAt? place = some .directory) :
    tree.follow? location (pathNames (join directory name)) = step? place name := by
  rcases join_eq filled noSlash with ⟨init, split, joined⟩ | joined
  · have names : pathNames directory = pathNames init ++ [""] := by
      rw [split, ← String.append_empty (s := init ++ "/"), pathNames_slash (by simp)]
    rw [names, follow?_append] at followed
    obtain ⟨around, inside, followed⟩ := Option.bind_eq_some_iff.1 followed
    have same : around = place := by
      rw [follow?] at followed
      split at followed
      · exact Option.some.inj followed
      · cases followed
    rw [joined, pathNames_slash noSlash, follow?_append, inside, same, Option.bind_some,
      follow?_singleton stands]
  · rw [joined, pathNames_slash noSlash, follow?_append, followed, Option.bind_some,
      follow?_singleton stands]

/-- A name is put behind the path. -/
theorem exists_join {directory : String} (filled : directory ≠ "") (noSlash : '/' ∉ name.toList) :
    ∃ more, join directory name = directory ++ more := by
  rcases join_eq filled noSlash with ⟨init, split, joined⟩ | joined
  · exact ⟨name, by rw [joined, split]⟩
  · exact ⟨"/" ++ name, by rw [joined, String.append_assoc]⟩

/-- Absolute paths begin with a slash. -/
theorem isAbsolute_iff : isAbsolute path = true ↔ path.toList.head? = some '/' := by
  rw [isAbsolute, String.startsWith_string_iff]
  cases path.toList with
  | nil => simp
  | cons c rest => simp [eq_comm]

/-- Absolute paths begin at the root. -/
theorem start_eq_root (absolute : path.toList.head? = some '/') : tree.start path = [] :=
  if_pos (isAbsolute_iff.2 absolute)

/-- Other paths begin at the working directory. -/
theorem start_eq_working (relative : path.toList.head? ≠ some '/') :
    tree.start path = tree.working :=
  if_neg (mt isAbsolute_iff.1 relative)

@[simp] theorem start_insert : (tree.insert location node).start path = tree.start path :=
  rfl

/-- The beginning of a path tells whether it is absolute. -/
theorem isAbsolute_append {directory more : String} (filled : directory ≠ "") :
    isAbsolute (directory ++ more) = isAbsolute directory := by
  obtain ⟨c, rest, letters⟩ : ∃ c rest, directory.toList = c :: rest :=
    List.exists_cons_of_ne_nil fun none => filled (String.toList_eq_nil_iff.1 none)
  rw [Bool.eq_iff_iff, isAbsolute_iff, isAbsolute_iff, String.toList_append, letters]
  rfl

/-- The path of a file in a directory starts where that of the directory does. -/
theorem start_join {directory : String} (filled : directory ≠ "") (noSlash : '/' ∉ name.toList) :
    tree.start (join directory name) = tree.start directory := by
  obtain ⟨more, joined⟩ := exists_join filled noSlash
  rw [joined, start, isAbsolute_append filled, start]

/-! ## What stands at a path -/

/-- What is written, and where: nothing in a directory, and nothing to stay in the null device. -/
theorem write?_eq_some_iff {content : String} : tree.write? path content = some made ↔
    ∃ location, tree.locate? path = some location ∧ tree.nodeAt? location ≠ some .directory ∧
      ((tree.nodeAt? location = some .nullDevice ∧ made = tree) ∨
        tree.nodeAt? location ≠ some .nullDevice ∧
          made = tree.insert location (.file content)) := by
  rw [write?, Option.bind_eq_some_iff]
  refine exists_congr fun location => and_congr_right fun _ => ?_
  cases tree.nodeAt? location with
  | none => simp [eq_comm]
  | some node => cases node <;> simp [eq_comm]

/-- A path leads where its names do, unless it is empty or too long. -/
theorem locate?_eq_some_iff : tree.locate? path = some location ↔
    path ≠ "" ∧ path.utf8ByteSize < maxPathSize ∧
      tree.follow? (tree.start path) (pathNames path) = some location := by
  unfold locate?
  by_cases refused : path.isEmpty = true ∨ maxPathSize ≤ path.utf8ByteSize
  · rw [if_pos refused]
    rw [String.isEmpty_iff] at refused
    constructor
    · intro none
      cases none
    · rintro ⟨filled, short, -⟩
      exact absurd refused (not_or.2 ⟨filled, Nat.not_le.2 short⟩)
  · rw [if_neg refused]
    rw [String.isEmpty_iff, not_or, Nat.not_le] at refused
    rw [← and_assoc]
    exact (and_iff_right refused).symm

/-- What stands at a path is what stands where its names lead. -/
theorem node?_eq_bind (filled : path ≠ "") (short : path.utf8ByteSize < maxPathSize) :
    tree.node? path = (tree.follow? (tree.start path) (pathNames path)).bind tree.nodeAt? := by
  rw [node?, locate?, if_neg (by simpa [filled] using short)]

/-- Nothing stands where names lead of which the first is missing. -/
theorem follow?_of_missing {next : Location} (step : step? location name = some next)
    (missing : tree.nodeAt? next = none) :
    (tree.follow? location (name :: names)).bind tree.nodeAt? = none := by
  rw [Option.bind_eq_none_iff]
  intro place followed
  rw [follow?] at followed
  split at followed
  · rw [step, Option.bind_some] at followed
    cases names with
    | nil =>
      cases followed
      exact missing
    | cons first rest =>
      rw [follow?, if_neg (by simp [missing])] at followed
      cases followed
  · cases followed

/-- Nothing stands at a path that comes to a name that is missing. -/
theorem node?_of_missing {before : List String} {next : Location}
    (split : pathNames path = before ++ name :: names)
    (followed : tree.follow? (tree.start path) before = some location)
    (step : step? location name = some next) (missing : tree.nodeAt? next = none) :
    tree.node? path = none := by
  rw [node?, Option.bind_eq_none_iff]
  intro place located
  obtain ⟨-, -, leads⟩ := locate?_eq_some_iff.1 located
  rw [split, follow?_append, followed, Option.bind_some] at leads
  have nothing : (tree.follow? location (name :: names)).bind tree.nodeAt? = none :=
    follow?_of_missing step missing
  rwa [leads, Option.bind_some] at nothing

variable {directory : String}

/-- What is listed is a directory. -/
theorem node?_of_listing {entries : Entries (Option String)}
    (listed : tree.directory directory = .listing entries) :
    tree.node? directory = some .directory := by
  unfold FileTree.directory at listed
  split at listed
  · cases listed
  · next place located =>
    rw [node?, located, Option.bind_some]
    split at listed
    · cases listed
    · next stands => exact stands
    · cases listed

/-- The entries of a directory have the names of what stands in it, in order, and each has the
content that is read at its path. -/
theorem entries_of_listing {entries : Entries (Option String)}
    (listed : tree.directory directory = .listing entries) :
    Entries.Ascending entries ∧ ∃ place, tree.locate? directory = some place ∧
      ∀ entry, entry ∈ entries ↔ entry.1 ∈ tree.namesIn place ∧
        entry.2 = tree.read? (join directory entry.1) := by
  unfold FileTree.directory at listed
  split at listed
  · cases listed
  · next place located =>
    split at listed
    · cases listed
    · cases listed
      exact ⟨Entries.ascending_ofList _, place, located, fun _ => Entries.mem_ofList_map⟩
    · cases listed

/-- A directory is absent where nothing stands. -/
theorem directory_eq_absent_iff :
    tree.directory directory = .absent ↔ tree.node? directory = none := by
  rw [FileTree.directory, node?]
  cases tree.locate? directory with
  | none => simp
  | some place =>
    dsimp only [Option.bind_some]
    cases tree.nodeAt? place with
    | none => simp
    | some node => cases node <;> simp

end FileTree

end DocumentSchema
