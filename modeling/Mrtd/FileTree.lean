import Mrtd.Bytes
import Mrtd.Text.Blank

/-!
File systems: what paths lead to, and how they lead through a tree of directories and files.
-/

namespace Mrtd

/-- A file, or a directory with its named entries. -/
inductive FileTree where
  | file (contents : Bytes)
  | directory (entries : List (String × FileTree))

namespace FileTree

/-- Follows the names of a path. The list holds the place reached, at its head, and the directories
above it. Only in a directory can a path go on: an empty name and a dot stay, two dots go up. -/
def walk : List FileTree → List String → Option (List FileTree)
  | places, [] => some places
  | directory entries :: above, name :: rest =>
      if name = "" ∨ name = "." then walk (directory entries :: above) rest
      else if name = ".." then
        walk (if above.isEmpty then [directory entries] else above) rest
      else
        match entries.lookup name with
        | some next => walk (next :: directory entries :: above) rest
        | none => none
  | _, _ :: _ => none

end FileTree

namespace Path

/-- The names between the slashes of a path. -/
def names (path : String) : List String :=
  (Text.splitOn (· == '/') path.toList).map String.ofList

/-- A path that starts at the root. -/
def isAbsolute (path : String) : Bool :=
  path.toList.head? == some '/'

/-- The path of an entry of a directory. -/
def entry (directory name : String) : String :=
  if directory.isEmpty || directory.toList.getLast? == some '/' then directory ++ name
  else directory ++ "/" ++ name

/-- The last name of a path. A path that ends by going up has none. -/
def fileName (path : String) : Option String :=
  match ((names path).filter fun name => name ≠ "" ∧ name ≠ ".").getLast? with
  | some name => if name = ".." then none else some name
  | none => none

/-- What follows the last dot of a name; a dot that begins the name does not count. -/
def suffix (name : String) : Option String :=
  match (Text.splitOn (· == '.') (name.toList.drop 1)).reverse with
  | last :: _ :: _ => some (String.ofList last)
  | _ => none

end Path

/-- What a path leads to: a file with its contents, or a directory with the names of the files in
it. -/
inductive FileEntry where
  | file (contents : Bytes)
  | directory (names : List String)
deriving DecidableEq, Repr

/-- What every path leads to. -/
structure FileSystem where
  entry? : String → Option FileEntry

namespace FileSystem

/-- The path leads somewhere. -/
def holds (fs : FileSystem) (path : String) : Bool :=
  (fs.entry? path).isSome

/-- The contents of a file. -/
def fileContents? (fs : FileSystem) (path : String) : Option Bytes :=
  match fs.entry? path with
  | some (.file contents) => some contents
  | _ => none

/-- The path leads to a directory. -/
def isDirectory (fs : FileSystem) (path : String) : Bool :=
  match fs.entry? path with
  | some (.directory _) => true
  | _ => false

/-- The names of the files in a directory. -/
def fileNames (fs : FileSystem) (path : String) : List String :=
  match fs.entry? path with
  | some (.directory names) => names
  | _ => []

end FileSystem

namespace FileTree

/-- A place as an entry. -/
def entry : FileTree → FileEntry
  | file contents => .file contents
  | directory entries => .directory (entries.filterMap fun
      | (name, file _) => some name
      | _ => none)

/-- The file system with this tree at its root, in which relative paths start at a directory that
some names lead to. The empty path leads nowhere. -/
def fileSystem (root : FileTree) (workingDirectory : List String) : FileSystem where
  entry? path := do
    if path.isEmpty then none
    let start ← walk [root] (if Path.isAbsolute path then [] else workingDirectory)
    (← walk start (Path.names path)).head?.map entry

end FileTree

end Mrtd
