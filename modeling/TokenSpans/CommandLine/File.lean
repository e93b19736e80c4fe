/-!
# Files as a run sees them

A run reads files as bytes and takes them for text. `World` is where the files and the standard
input come from: a disk, or a directory that is a mere value.

A `World` answers with a value or an error and never stops the program, so that a run
decides itself what an error means. Bytes are read whole and decoded afterwards: a file that
is no text is an error of the run, not of the file. The monad is left open, and the only
thing asked of it is that one action can follow another.
-/

namespace TokenSpans.CommandLine

/-- Why a file cannot be used. -/
inductive FileError
  /-- There is no such file. -/
  | missing
  /-- A directory stands where the file should. -/
  | isDirectory
  /-- The path goes through something that is no directory. -/
  | notDirectory
  /-- The bytes are no text. -/
  | notText
  /-- Anything else, in the words of the system. -/
  | other (reason : String)
  deriving DecidableEq, Repr

namespace FileError

/-- The error in words, with its number where the system has one. -/
def message : FileError → String
  | missing => "No such file or directory (os error 2)"
  | isDirectory => "Is a directory (os error 21)"
  | notDirectory => "Not a directory (os error 20)"
  | notText => "stream did not contain valid UTF-8"
  | other reason => reason

end FileError

/-- The bytes of a file as text. -/
def decode (bytes : ByteArray) : Except FileError String :=
  match String.fromUTF8? bytes with
  | some s => .ok s
  | none => .error .notText

/-- What a run needs from its surroundings. -/
structure World (m : Type → Type) where
  /-- All bytes of the file at a path. -/
  readFile : String → m (Except FileError ByteArray)
  /-- Opens a file for appending, and makes it if it is not there. -/
  openLog : String → m (Except FileError Unit)
  /-- All bytes of the standard input. -/
  readInput : m (Except FileError ByteArray)

/-- Why the log cannot be set up. -/
inductive LogError
  /-- The file for it cannot be opened. -/
  | file (e : FileError)
  /-- The process has its log already. -/
  | alreadyInstalled
  deriving DecidableEq, Repr

namespace LogError

/-- The error in words. -/
def message : LogError → String
  | file e => "cannot open log file: " ++ e.message
  | alreadyInstalled =>
    "a global subscriber is already installed: " ++
      "a global default trace dispatcher has already been set"

end LogError

/-- Sets up the log of a process, once; the file is opened first if there is to be one. So a
file is made also by an attempt that fails because the process has its log. -/
def installLog {m : Type → Type} [Monad m] (world : World m) (isInstalled : Bool)
    (file : Option String) : m (Except LogError Unit) := do
  let opened ←
    match file with
    | some path => world.openLog path
    | none => pure (.ok ())
  match opened with
  | .error e => return .error (.file e)
  | .ok () => return if isInstalled then .error .alreadyInstalled else .ok ()

end TokenSpans.CommandLine
