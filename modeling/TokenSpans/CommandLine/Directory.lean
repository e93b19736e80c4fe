import TokenSpans.CommandLine.File

/-!
# A directory as a value

Files by name in one directory without others inside, and a standard input: enough of a world for a
run to work in. A path leads to a file if it names one, also by way of the directory itself.

The errors are those a disk would give, with the same order of precedence: a path that is
empty or leads outside the directory is missing, a path that goes on behind a file is none
of a directory, and a file that is appended to is made if only its name is missing. Links,
permissions and directories inside are left out.
-/

namespace TokenSpans.CommandLine

/-- A directory with files only, and what stands in the standard input. -/
structure Directory where
  /-- The files by name, with their bytes. -/
  files : List (String × ByteArray)
  /-- What the standard input yields until its end. -/
  stdin : ByteArray

namespace Directory

/-- What a path leads to. -/
inductive Target
  /-- A file or the place for one. -/
  | file (name : String)
  /-- The directory itself. -/
  | directory
  /-- Something inside what may be a file. -/
  | within (name : String)
  /-- Nothing that is known here. -/
  | nowhere

/-- The names on a path, without those that stand for the directory they are in. Slashes
that follow each other count as one. -/
def steps (path : String) : List String :=
  (path.splitOn "/").filter (fun s => s != "" && s != ".")

/-- Follows a path from the directory. A path that ends in a slash asks for a directory, so
it leads into the file that it names. -/
def locate (path : String) : Target :=
  if path.isEmpty then .nowhere
  else if path.startsWith "/" then (if (steps path).isEmpty then .directory else .nowhere)
  else
    match steps path with
    | [] => .directory
    | [name] =>
      if name = ".." then .directory
      else if path.endsWith "/" || path.endsWith "/." then .within name
      else .file name
    | name :: _ => .within name

/-- The bytes of the file that a path leads to, which has to be there. -/
def read (d : Directory) (path : String) : Except FileError ByteArray :=
  match locate path with
  | .nowhere => .error .missing
  | .directory => .error .isDirectory
  | .within name =>
    if (d.files.lookup name).isSome then .error .notDirectory else .error .missing
  | .file name =>
    match d.files.lookup name with
    | some bytes => .ok bytes
    | none => .error .missing

/-- The directory with the file that a path leads to, which is made if it is not there. -/
def append (d : Directory) (path : String) : Except FileError Directory :=
  match locate path with
  | .nowhere => .error .missing
  | .directory => .error .isDirectory
  | .within name =>
    if (d.files.lookup name).isSome then .error .notDirectory else .error .missing
  | .file name =>
    if (d.files.lookup name).isSome then .ok d
    else .ok { d with files := d.files ++ [(name, ByteArray.empty)] }

/-- Runs work in the directory. -/
def world : World (StateM Directory) where
  readFile path := do return (← get).read path
  openLog path := do
    match (← get).append path with
    | .ok d => do
      set d
      return .ok ()
    | .error e => return .error e
  readInput := do return .ok (← get).stdin

/-- The names of the files in `after` that are not in `d`, in increasing order. -/
def created (d after : Directory) : List String :=
  ((after.files.map Prod.fst).filter (fun name => (d.files.lookup name).isNone)).mergeSort
    (fun a b => a ≤ b)

end Directory

end TokenSpans.CommandLine
