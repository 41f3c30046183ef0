import RuleBench.CommandLine.Test

/-!
# The command

Answers a command line on the files of the disk: notes go to standard error, the report to standard
output.
-/

namespace RuleBench.CommandLine

/-- Reads a file of the disk. -/
def readDisk : FileReader IO := fun path => do
  if path.contains '\x00' then return .error .nullCharacter
  try
    let octets ← IO.FS.readBinFile path
    return .ok octets.toList
  catch e => match e with
    | .noFileOrDirectory .. => return .error .notFound
    | .permissionDenied .. => return .error .noPermission
    | .inappropriateType .. => return .error .notDirectory
    | _ => return .error .isDirectory

/-- The notes that are shown. -/
def shownNotes (notes : List LogRecord) : List String :=
  (notes.filter fun n => n.level != .debug).map fun n =>
    n.source.name ++ " - " ++ n.level.name ++ " - " ++ n.text

end RuleBench.CommandLine

open RuleBench.CommandLine in
def main (words : List String) : IO UInt32 := do
  let seed ← IO.rand 0 (Nat.pow 2 62)
  match ← answer readDisk words seed with
  | .help text =>
    IO.print text
    return 0
  | .misused text =>
    IO.eprint text
    return 2
  | .dropped =>
    IO.eprintln droppedMessage
    return 1
  | .tested (.error fault) =>
    IO.eprintln fault.message
    return 1
  | .tested (.ok result) =>
    for line in shownNotes result.notes do
      IO.eprintln line
    IO.print result.output
    return result.exitCode.toUInt32
