import GridCircuit.CommandLine.Run

/-!
# The program

Runs a command on the files of the disk.
-/

namespace GridCircuit

/-- The reason for which an access to the disk failed. -/
def FileError.ofDisk : IO.Error → FileError
  | .noFileOrDirectory _ _ _ => .notFound
  | .inappropriateType _ 20 _ => .notDirectory
  | .inappropriateType _ 21 _ => .isDirectory
  | .invalidArgument _ 36 _ => .nameTooLong
  | error => .other (toString error)

/-- Does an access to the disk. -/
def onDisk {α : Type} (access : IO α) : IO (Except FileError α) := do
  match ← access.toBaseIO with
  | .ok value => return .ok value
  | .error error => return .error (.ofDisk error)

/-- The files of the disk. -/
def disk : FileSystem IO where
  readText path := onDisk (IO.FS.readFile path)
  isPresent path := do return (← onDisk (IO.FS.realPath path)).isOk
  writeText path text := onDisk (IO.FS.writeFile path text)

/-- The durations that are set in the environment. -/
def environmentOfProcess : IO Environment := do
  let mut values : List (String × String) := []
  for key in Environment.durationKeys do
    if let some value ← IO.getEnv key then values := (key, value) :: values
  return fun key => values.lookup key

end GridCircuit

/-- Runs the command that the arguments name. -/
def main (arguments : List String) : IO UInt32 := do
  let environment ← GridCircuit.environmentOfProcess
  let report ← GridCircuit.CommandLine.run GridCircuit.disk environment arguments
  (← IO.getStdout).putStr report.output
  (← IO.getStderr).putStr report.errors
  return report.exitCode.toUInt32
