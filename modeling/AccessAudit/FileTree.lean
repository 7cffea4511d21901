/-
**A tree of files in memory.**

The tree stands for what lies under the directory of a run. Paths are resolved in it name by name:
`.` stays, `..` goes back, and each name on the way has to be a directory.

* `FileTree.resolve`: what is found at a path;
* `FileTree.files`: the tree as the files that a run meets.
-/
import AccessAudit.FilePath
import AccessAudit.Files

namespace AccessAudit

/-- What may lie at a place of the tree. -/
inductive FileEntry where
  /-- A file, with its text unless its bytes are none. -/
  | file (text : Option String)
  | directory
  deriving DecidableEq, Repr

/-- Places, each as the names on the way to it, and what lies there. Every place on the way to
another one is a directory. -/
structure FileTree where
  entries : List (List String × FileEntry) := []
  deriving Repr

namespace FileTree

/-- What lies at a place. -/
def entryAt? (tree : FileTree) (place : List String) : Option FileEntry :=
  match tree.entries.lookup place with
  | some entry => some entry
  | none =>
    if place.isEmpty || tree.entries.any fun entry => place.isPrefixOf entry.1 then
      some .directory
    else none

/-- The names of a path in order. -/
def names (path : String) : List String :=
  (FilePath.segments path.toList).map String.ofList

/-- Follow the names of a path outside the tree, where there is nothing but the directories that
`.` and `..` lead to. -/
def resolveOutside (names : List String) : Except FileError FileEntry :=
  if names.all fun name => name = "" ∨ name = "." ∨ name = ".." then .ok .directory
  else .error .notFound

/-- Follow the names of a path from a place on. -/
def resolveFrom (tree : FileTree) (place : List String) :
    List String → Except FileError FileEntry
  | [] => (tree.entryAt? place).elim (.error .notFound) .ok
  | name :: rest =>
    match tree.entryAt? place with
    | none => .error .notFound
    | some (.file _) => .error .notDirectory
    | some .directory =>
      if name = "" ∨ name = "." then resolveFrom tree place rest
      else if name = ".." then
        if place.isEmpty then resolveOutside rest else resolveFrom tree place.dropLast rest
      else if name.utf8ByteSize > nameLimit then .error .nameTooLong
      else resolveFrom tree (place ++ [name]) rest

/-- What is found at a path. An absolute path leads out of the tree. -/
def resolve (tree : FileTree) (path : String) : Except FileError FileEntry :=
  match pathError? path with
  | some error => .error error
  | none =>
    if FilePath.isAbsolute path then resolveOutside (names path)
    else resolveFrom tree [] (names path)

/-- The text of the file at a path. -/
def read (tree : FileTree) (path : String) : Except FileError String :=
  match tree.resolve path with
  | .error error => .error error
  | .ok .directory => .error .isDirectory
  | .ok (.file none) => .error .notText
  | .ok (.file (some text)) => .ok text

/-- Follow the names of a directory that is made where it is missing; a file on the way makes that
impossible. -/
def openFrom (tree : FileTree) (place : List String) : List String → Option FileError
  | [] => none
  | name :: rest =>
    if name = "" ∨ name = "." then openFrom tree place rest
    else if name = ".." then openFrom tree place.dropLast rest
    else
      match tree.entryAt? (place ++ [name]) with
      | some (.file _) => some .notDirectory
      | _ =>
        if name.utf8ByteSize > nameLimit then some .nameTooLong
        else openFrom tree (place ++ [name]) rest

/-- Why a directory cannot be opened, if it cannot. The empty path is the directory of the run, and
a directory outside the tree can be opened. -/
def openError? (tree : FileTree) (path : String) : Option FileError :=
  if path.isEmpty then none
  else
    match pathError? path with
    | some error => some error
    | none => if FilePath.isAbsolute path then none else tree.openFrom [] (names path)

/-- The tree as the files that a run meets. -/
def files (tree : FileTree) : Files where
  read := tree.read
  isPresent := fun path => (tree.resolve path).isOk
  logDirectoryError? := tree.openError?

end FileTree

end AccessAudit
