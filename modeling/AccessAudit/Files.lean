/-
**The files that a run meets.**

A run reads files and may open a log directory. What it meets is a function of the path that does
not change during the run, so a run is a function of it.

* `FileError`, `FileError.message`: why a file cannot be read, and the words for it;
* `pathError?`: what is wrong with a path wherever it leads;
* `Files`: the text of each file, whether anything is found at a path, and whether a log directory
  can be opened.
-/

namespace AccessAudit

/-- Why a file cannot be read or a directory not be opened. -/
inductive FileError where
  /-- Nothing is there. -/
  | notFound
  /-- What should be a directory on the way is none. -/
  | notDirectory
  /-- A directory is there. -/
  | isDirectory
  /-- A name of the path, or the whole of it, is longer than the system allows. -/
  | nameTooLong
  /-- The path holds the character that ends a name for the system. -/
  | nulInPath
  /-- The bytes of the file are no text. -/
  | notText
  /-- Any other reason, in the words of the system. -/
  | other (reason : String)
  deriving DecidableEq, Repr

/-- The words for the reason. -/
def FileError.message : FileError → String
  | notFound => "No such file or directory (os error 2)"
  | notDirectory => "Not a directory (os error 20)"
  | isDirectory => "Is a directory (os error 21)"
  | nameTooLong => "File name too long (os error 36)"
  | nulInPath => "file name contained an unexpected NUL byte"
  | notText => "stream did not contain valid UTF-8"
  | other reason => reason

/-- How many bytes a name may have. -/
def nameLimit : Nat := 255

/-- How many bytes a path may have. -/
def pathLimit : Nat := 4095

/-- What is wrong with a path as such, wherever it leads. -/
def pathError? (path : String) : Option FileError :=
  if path.toList.contains '\x00' then some .nulInPath
  else if path.isEmpty then some .notFound
  else if path.utf8ByteSize > pathLimit then some .nameTooLong
  else none

/-- What a run meets at each path. -/
structure Files where
  /-- The text of a file. -/
  read : String → Except FileError String
  /-- Something is found at the path. What is found need not be readable, and what lies behind a
  directory that may not be searched is not found, although it is there. -/
  isPresent : String → Bool
  /-- Why a log directory cannot be opened, if it cannot. -/
  logDirectoryError? : String → Option FileError

/-- The files that these readings tell of, with the log directories that cannot be opened. Something
is found where a text was read, and at the paths that are named for it. -/
def Files.ofReadings (readings : List (String × Except FileError String))
    (closed : List (String × FileError)) (found : List String := []) : Files where
  read := fun path => (readings.lookup path).getD (.error .notFound)
  isPresent := fun path => found.contains path || ((readings.lookup path).any Except.isOk)
  logDirectoryError? := fun path => closed.lookup path

end AccessAudit
