import TokenSpans.CommandLine.Run

/-!
# The command

Runs on the disk and on the standard streams.

This is the only module that touches the outside. Files, streams and the errors of the
system are turned into the values that `CommandLine.run` works with, and nothing is decided
here: `run` is the same function for a disk in memory, which is how it is tested and
reasoned about.
-/

namespace TokenSpans

open CommandLine

/-- Why the disk refuses a file. -/
def fileError : IO.Error → FileError
  | .noFileOrDirectory _ _ _ => .missing
  | .inappropriateType _ 21 _ => .isDirectory
  | .inappropriateType _ 20 _ => .notDirectory
  | e => .other (toString e)

/-- Does something with files, and tells why it failed. -/
def attempt {α : Type} (work : IO α) : IO (Except FileError α) := do
  try
    return .ok (← work)
  catch e =>
    return .error (fileError e)

/-- All bytes of a stream. -/
partial def readAll (stream : IO.FS.Stream) (seen : ByteArray) : IO ByteArray := do
  let more ← stream.read 65536
  if more.isEmpty then return seen else readAll stream (seen ++ more)

/-- The disk and the standard input. -/
def disk : World IO where
  readFile path := attempt (IO.FS.readBinFile path)
  openLog path := attempt do
    let _ ← IO.FS.Handle.mk path .append
    return ()
  readInput := attempt do
    readAll (← IO.getStdin) ByteArray.empty

end TokenSpans

/-- Runs the command with its arguments and exits with its code. -/
def main (arguments : List String) : IO UInt32 := do
  let outcome ← TokenSpans.CommandLine.run TokenSpans.disk arguments
  IO.print outcome.stdout
  IO.eprint outcome.stderr
  return outcome.code.toUInt32
