import GridCircuit.Files.Basic
import GridCircuit.Files.Path

/-!
# Files in memory

A file tree is a directory that holds files and other directories; a directory exists when a file
is in it.  Relative paths start at that directory.  A path may lead out of it, through `..` or from
the root, where there are no files except those that were written there.
-/

namespace GridCircuit

/-- Files by the names that lead to them.  Names outside start with `..` or with the root. -/
structure FileTree where
  files : List (List String × String)
  deriving DecidableEq

namespace FileTree

/-- The longest name of a file or a directory, in bytes. -/
def maxNameLength : Nat := 255

/-- The longest path, in bytes. -/
def maxPathLength : Nat := 4095

/-- The names that lead to the root. -/
def root : List String := ["/"]

/-- What is at a place. -/
inductive Entry where
  | file (text : String)
  | directory
  | nothing

/-- Whether names lead to the starting directory or to a directory around it. -/
def isOutward (names : List String) : Bool := names = root || names.all (· = "..")

/-- What is at a place. -/
def entry (tree : FileTree) (names : List String) : Entry :=
  match tree.files.find? fun file => file.1 = names with
  | some file => .file file.2
  | none =>
    if isOutward names || tree.files.any fun file => names.isPrefixOf file.1 then .directory
    else .nothing

/-- The directory around a directory. -/
def parent (names : List String) : List String :=
  if names = root then root else if isOutward names then ".." :: names else names.dropLast

/-- The place where a path leads.  Every part but the last has to be a directory, and what a slash
or a dot follows has to be one, too. -/
def walk (tree : FileTree) (names : List String) : List String → Except FileError (List String)
  | [] => .ok names
  | part :: rest =>
    match tree.entry names with
    | .file _ => .error .notDirectory
    | .nothing => .error .notFound
    | .directory =>
      if part = "" ∨ part = "." then walk tree names rest
      else if part = ".." then walk tree (parent names) rest
      else if maxNameLength < part.utf8ByteSize then .error .nameTooLong
      else walk tree (names ++ [part]) rest

/-- The place that a path names. -/
def locate (tree : FileTree) (path : String) : Except FileError (List String) :=
  if path.isEmpty then .error .notFound
  else if maxPathLength < path.utf8ByteSize then .error .nameTooLong
  else tree.walk (if path.startsWith "/" then root else []) (Path.parts path)

/-- The text of the file at a path. -/
def readText (tree : FileTree) (path : String) : Except FileError String := do
  match tree.entry (← tree.locate path) with
  | .file text => return text
  | .directory => throw .isDirectory
  | .nothing => throw .notFound

/-- Whether there is a file or a directory at a path. -/
def isPresent (tree : FileTree) (path : String) : Bool :=
  match tree.locate path with
  | .error _ => false
  | .ok names =>
    match tree.entry names with
    | .nothing => false
    | _ => true

/-- A tree with another text for a file, which may be new. -/
def put (tree : FileTree) (names : List String) (text : String) : FileTree :=
  ⟨tree.files.filter (fun file => file.1 ≠ names) ++ [(names, text)]⟩

/-- Writes the file at a path.  A path that ends with a slash names no file. -/
def writeText (tree : FileTree) (path text : String) : Except FileError FileTree := do
  if path.endsWith "/" then
    let _ ← tree.locate (String.ofList (path.toList.reverse.dropWhile (· = '/')).reverse)
    throw .isDirectory
  let names ← tree.locate path
  match tree.entry names with
  | .directory => throw .isDirectory
  | _ => return tree.put names text

/-- A file tree as a place that holds files. -/
def fileSystem : FileSystem (StateM FileTree) where
  readText path := return (← get).readText path
  isPresent path := return (← get).isPresent path
  writeText path text := do
    match (← get).writeText path text with
    | .ok tree =>
      set tree
      return .ok ()
    | .error error => return .error error

/-- The tree of the files at some paths, with the directories that they need. -/
def ofList (files : List (String × String)) : FileTree :=
  ⟨files.map fun file =>
    ((Path.parts file.1).filter fun part => part ≠ "" && part ≠ ".", file.2)⟩

/-- The files inside the starting directory that another tree does not hold with the same text, by
their paths. -/
def changesSince (tree earlier : FileTree) : List (String × String) :=
  (tree.files.filter fun file =>
    file.1.head? ≠ some ".." && file.1.head? ≠ root.head? && !earlier.files.contains file).map
    fun file => ("/".intercalate file.1, file.2)

end FileTree

end GridCircuit
