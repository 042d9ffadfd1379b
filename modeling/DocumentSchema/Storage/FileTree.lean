import DocumentSchema.Text.Parts
import DocumentSchema.Value.Entries

/-!
File trees.

A file tree is a set of directories and text files, each at its location below the root, and one of
its directories is the working directory. Paths lead to locations: their names are followed from the
root on if the path begins with a slash, and else from the working directory on, and every name but
the last must be one of a directory. `Directory` is what a program that looks for the files of one
directory gets to see of it.
-/

namespace DocumentSchema

/-- What stands at a location. The null device is read as the empty text, and takes any text without
keeping it. -/
inductive FileNode where
  | directory
  | file (content : String)
  | nullDevice
  deriving DecidableEq

/-- The names on the way from the root to a location. -/
abbrev Location := List String

/-- Directories and files with their locations, the root left out, and the working directory. -/
structure FileTree where
  nodes : List (Location × FileNode)
  working : Location

/-- What is seen of a directory: that there is none, that it cannot be read, or its entries with
the content of those that are text files. -/
inductive Directory where
  | absent
  | unreadable
  | listing (entries : Entries (Option String))

namespace FileTree

/-- The tree with no file but the null device, and with nothing in the working directory. -/
def empty : FileTree :=
  ⟨[(["dev"], .directory), (["dev", "null"], .nullDevice), (["work"], .directory)], ["work"]⟩

/-- What stands at a location. -/
def nodeAt? (tree : FileTree) (location : Location) : Option FileNode :=
  if location = [] then some .directory
  else (tree.nodes.find? fun node => node.1 = location).map (·.2)

/-- Puts something at a location, in place of what stands there. -/
def insert (tree : FileTree) (location : Location) (node : FileNode) : FileTree :=
  { tree with nodes := (location, node) :: tree.nodes.filter fun other => other.1 ≠ location }

/-! ## Paths -/

/-- The names in a path. -/
def pathNames (path : String) : List String :=
  (Text.parts '/' path.toList).map String.ofList

/-- Whether a name can be one of a file: at most 255 bytes, none of them zero. -/
def isName (name : String) : Bool :=
  name.utf8ByteSize ≤ 255 && !name.contains '\x00'

/-- The location that one name leads to: an empty name and a dot lead nowhere else, and two dots
lead to the directory around, which for the root is the root itself. -/
def step? (location : Location) (name : String) : Option Location :=
  if name = "" ∨ name = "." then some location
  else if name = ".." then some location.dropLast
  else if isName name then some (location ++ [name])
  else none

/-- The location that names lead to from another one, through directories that exist. -/
def follow? (tree : FileTree) (location : Location) : List String → Option Location
  | [] => some location
  | name :: rest =>
    if tree.nodeAt? location = some .directory then
      (step? location name).bind fun next => tree.follow? next rest
    else none

/-- The path of a name in a directory; a name that begins with a slash is a path of its own. -/
def join (directory name : String) : String :=
  if name.startsWith "/" || directory.isEmpty then name
  else if directory.endsWith "/" then directory ++ name
  else directory ++ "/" ++ name

/-- Whether a path starts at the root. -/
def isAbsolute (path : String) : Bool :=
  path.startsWith "/"

/-- Where a path starts: at the root or at the working directory. -/
def start (tree : FileTree) (path : String) : Location :=
  if isAbsolute path then [] else tree.working

/-- The least number of bytes that are too many for a path. -/
def maxPathSize : Nat := 4096

/-- The location of a path, which is neither empty nor too long; nothing needs to stand there
yet. -/
def locate? (tree : FileTree) (path : String) : Option Location :=
  if path.isEmpty ∨ maxPathSize ≤ path.utf8ByteSize then none
  else tree.follow? (tree.start path) (pathNames path)

/-- What stands at a path. -/
def node? (tree : FileTree) (path : String) : Option FileNode :=
  (tree.locate? path).bind tree.nodeAt?

/-! ## Reading -/

/-- The content of the file at a path. -/
def read? (tree : FileTree) (path : String) : Option String :=
  match tree.node? path with
  | some (.file content) => some content
  | some .nullDevice => some ""
  | _ => none

/-- The names of what stands in the directory at a location. -/
def namesIn (tree : FileTree) (location : Location) : List String :=
  tree.nodes.filterMap fun (place, _) =>
    if place.dropLast = location then place.getLast? else none

/-- What is seen of the directory at a path. -/
def directory (tree : FileTree) (path : String) : Directory :=
  match tree.locate? path with
  | none => .absent
  | some location =>
    match tree.nodeAt? location with
    | none => .absent
    | some .directory =>
      .listing <| Entries.ofList <| (tree.namesIn location).map fun name =>
        (name, tree.read? (join path name))
    | some _ => .unreadable

/-! ## Writing -/

/-- The tree with directories along names; nothing when something else stands in the way. -/
def addDirectories? (tree : FileTree) (location : Location) : List String → Option FileTree
  | [] => some tree
  | name :: rest =>
    (step? location name).bind fun next =>
      match tree.nodeAt? next with
      | some .directory => tree.addDirectories? next rest
      | some _ => none
      | none => (tree.insert next .directory).addDirectories? next rest

/-- The tree with the directory at a path and all directories above it. -/
def makeDirectory? (tree : FileTree) (path : String) : Option FileTree :=
  if maxPathSize ≤ path.utf8ByteSize then none
  else tree.addDirectories? (tree.start path) (pathNames path)

/-- The tree with a text at a path in a directory that exists: in a file, or in the null device,
which does not change. -/
def write? (tree : FileTree) (path content : String) : Option FileTree :=
  (tree.locate? path).bind fun location =>
    match tree.nodeAt? location with
    | some .directory => none
    | some .nullDevice => some tree
    | _ => some (tree.insert location (.file content))

end FileTree

end DocumentSchema
