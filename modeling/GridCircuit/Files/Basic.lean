/-!
# Files

What a program asks of the place where its files are: to read a text, to tell whether something
exists, and to write a text.  The place is a parameter, so that the same program runs on a disk and
on files that are held in memory.
-/

namespace GridCircuit

/-- Why a file cannot be read or written. -/
inductive FileError where
  | notFound
  /-- A file stands where the path needs a directory. -/
  | notDirectory
  /-- A directory stands where the path needs a file. -/
  | isDirectory
  /-- A name in the path is longer than file systems allow. -/
  | nameTooLong
  | other (reason : String)
  deriving DecidableEq

/-- The wording of the reason. -/
def FileError.message : FileError → String
  | notFound => "No such file or directory (os error 2)"
  | notDirectory => "Not a directory (os error 20)"
  | isDirectory => "Is a directory (os error 21)"
  | nameTooLong => "File name too long (os error 36)"
  | other reason => reason

/-- A place that holds files. -/
structure FileSystem (m : Type → Type) where
  /-- The text of the file at a path. -/
  readText : String → m (Except FileError String)
  /-- Whether there is a file or a directory at a path. -/
  isPresent : String → m Bool
  /-- Creates a file with a text, or replaces the text of the file. -/
  writeText : String → String → m (Except FileError Unit)

end GridCircuit
