/-!
# Paths

Paths are texts with slashes between names. Joining keeps dots as they are, and an absolute path
replaces whatever it is joined to.
-/

namespace CatalogIngest
namespace Project

/-- Whether a path starts at the root of the file system. -/
def isAbsolute (path : String) : Bool :=
  path.toList.head? = some '/'

/-- A path below a root. -/
def joinPath (root path : String) : String :=
  if isAbsolute path then path
  else if root.isEmpty || root.toList.getLast? = some '/' then root ++ path
  else root ++ "/" ++ path

/-- A text without slashes at its end. -/
def dropSlashes (path : List Char) : List Char :=
  (path.reverse.dropWhile (· = '/')).reverse

/-- The directory that holds the file of a path; empty for a single name. -/
def parentPath (path : String) : String :=
  let front := ((dropSlashes path.toList).reverse.dropWhile (· ≠ '/')).reverse
  if !front.isEmpty && (dropSlashes front).isEmpty then "/"
  else String.ofList (dropSlashes front)

end Project
end CatalogIngest
