/-!
# Paths

The parts of a path are separated by slashes.  The last part is the name of a file; what follows
its last dot is the extension, unless the name starts with that dot.
-/

namespace GridCircuit.Path

/-- The parts of a path. -/
def parts (path : String) : List String := path.splitOn "/"

/-- A name without its extension, and the extension. -/
def splitName (name : String) : String × Option String :=
  let reversed := name.toList.reverse
  match reversed.dropWhile (· ≠ '.') with
  | '.' :: stem =>
    if stem.isEmpty then (name, none)
    else (String.ofList stem.reverse, some (String.ofList (reversed.takeWhile (· ≠ '.')).reverse))
  | _ => (name, none)

/-- The name at the end of a path.  Empty parts and dots at the end are passed over. -/
def name? (path : String) : Option String :=
  match (parts path).reverse.dropWhile fun part => part = "" || part = "." with
  | name :: _ => if name = ".." then none else some name
  | [] => none

/-- The extension of the file that a path names. -/
def extension? (path : String) : Option String := (name? path).bind fun name => (splitName name).2

/-- The name without its extension of the file that a path names. -/
def stem (path : String) : String := ((name? path).map fun name => (splitName name).1).getD ""

/-- The parts before the name at the end of a path, for a path that ends with a name.  Empty parts
and dots between directories and the name are left out. -/
def directory (path : String) : List String :=
  match (parts path).dropLast with
  | [] => []
  | first :: rest =>
    first :: (rest.reverse.dropWhile fun part => part = "" || part = ".").reverse

/-- The path of another file in the same directory. -/
def sibling (path name : String) : String := "/".intercalate (directory path ++ [name])

end GridCircuit.Path
