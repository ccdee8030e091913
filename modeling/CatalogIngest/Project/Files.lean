import CatalogIngest.Project.Path
import CatalogIngest.SortedMap
import CatalogIngest.Text.Split

/-!
# Files

The program reads and writes whole text files. Its access to them is a record of operations in any
monad; a file tree in memory is one way to give it.
-/

namespace CatalogIngest
namespace Project

/-- Why a file cannot be read or written. -/
inductive FileError
  | notFound
  | notDirectory
  | isDirectory
  | other (cause : String)
  deriving DecidableEq

namespace FileError

/-- The words for an error. -/
def message : FileError → String
  | .notFound => "No such file or directory (os error 2)"
  | .notDirectory => "Not a directory (os error 20)"
  | .isDirectory => "Is a directory (os error 21)"
  | .other cause => cause

end FileError

/-- Reading and writing whole files. -/
structure FileAccess (m : Type → Type) where
  read : String → m (Except FileError String)
  write : String → String → m (Except FileError Unit)
  present : String → m Bool

/-- Text files by their paths below a working directory. A directory is there when a file lies
somewhere below it. -/
structure FileTree where
  files : SortedMap String

namespace FileTree

/-- What a path leads to: a directory, or a place for a file, by the names on the way. -/
inductive Place
  | directory (names : List String)
  | file (names : List String)

/-- The path of names below the working directory. -/
def pathOf (names : List String) : String :=
  "/".intercalate names

/-- The tree of some files. -/
def ofFiles (files : List (String × String)) : FileTree :=
  ⟨SortedMap.ofList files⟩

/-- Whether a directory is there. The working directory always is. -/
def hasDirectory (tree : FileTree) (names : List String) : Bool :=
  names.isEmpty || tree.files.keys.any fun path =>
    (Text.afterStart? ((pathOf names).toList ++ ['/']) path.toList).isSome

/-- Whether a file is there. -/
def hasFile (tree : FileTree) (names : List String) : Bool :=
  tree.files.contains (pathOf names)

/-- Follow the names of a path from a directory. All but the last must lead to directories, and the
way up from the working directory leads nowhere. -/
def follow (tree : FileTree) (directory : List String) : List String → Except FileError Place
  | [] => .ok (.directory directory)
  | name :: later =>
      if name = "" ∨ name = "." then tree.follow directory later
      else if name = ".." then
        if directory.isEmpty then .error .notFound
        else tree.follow directory.dropLast later
      else
        let names := directory ++ [name]
        if tree.hasDirectory names then tree.follow names later
        else if later.isEmpty then .ok (.file names)
        else if tree.hasFile names then .error .notDirectory
        else .error .notFound

/-- What a path leads to. -/
def locate (tree : FileTree) (path : String) : Except FileError Place :=
  if path.isEmpty ∨ isAbsolute path then .error .notFound
  else tree.follow [] ((Text.splitOn '/' path.toList).map String.ofList)

/-- The text of a file. -/
def read (tree : FileTree) (path : String) : Except FileError String :=
  match tree.locate path with
  | .error error => .error error
  | .ok (.directory _) => .error .isDirectory
  | .ok (.file names) =>
      match tree.files.get? (pathOf names) with
      | some text => .ok text
      | none => .error .notFound

/-- The tree with a file written. No file can be made under a path that ends with a slash. -/
def write (tree : FileTree) (path text : String) : Except FileError FileTree :=
  match tree.locate (String.ofList (dropSlashes path.toList)) with
  | .error error => .error error
  | .ok (.directory _) => .error .isDirectory
  | .ok (.file names) =>
      if path.toList.getLast? = some '/' then .error .isDirectory
      else .ok ⟨tree.files.insert (pathOf names) text⟩

/-- Whether a path leads to a file or directory. -/
def present (tree : FileTree) (path : String) : Bool :=
  match tree.locate path with
  | .error _ => false
  | .ok (.directory _) => true
  | .ok (.file names) => tree.hasFile names

/-- A file tree in memory as a way to reach files. -/
def access : FileAccess (StateM FileTree) where
  read path := fun tree => (tree.read path, tree)
  write path text := fun tree =>
    match tree.write path text with
    | .ok tree => (.ok (), tree)
    | .error error => (.error error, tree)
  present path := fun tree => (tree.present path, tree)

end FileTree
end Project
end CatalogIngest
