/-
**Paths of files.**

A path is a text of names separated by slashes. Where a path is taken apart, repeated slashes, a
slash at the end and the name `.` after the first name change nothing.

* `isAbsolute`: the path begins with a slash;
* `join`: a path seen from a directory;
* `parent?`: the directory that holds the last name.
-/

namespace AccessAudit.FilePath

/-- The path does not depend on where it is seen from. -/
def isAbsolute (path : String) : Bool :=
  path.toList.head? == some '/'

/-- A path seen from a directory: an absolute path stands alone, any other follows the directory
and one slash. -/
def join (directory path : String) : String :=
  if isAbsolute path then path
  else if directory.isEmpty ∨ directory.toList.getLast? = some '/' then directory ++ path
  else directory ++ "/" ++ path

/-- The texts between the slashes of a path. -/
def segments : List Char → List (List Char)
  | [] => [[]]
  | '/' :: rest => [] :: segments rest
  | c :: rest =>
    match segments rest with
    | first :: others => (c :: first) :: others
    | [] => [[c]]

/-- A segment that leads nowhere. -/
def isIdle (segment : List Char) : Bool :=
  segment.isEmpty || segment == ['.']

/-- Leave out the idle segments at the end of a path whose segments are given last to first; the
first segment of the path stays. -/
def trimEnd : List (List Char) → List (List Char)
  | last :: before :: others =>
    if isIdle last then trimEnd (before :: others) else last :: before :: others
  | few => few

/-- The directory that holds the last name of a path; the empty path and the root have none. -/
def parent? (path : String) : Option String :=
  match trimEnd (segments path.toList).reverse with
  | [] => none
  | [only] => if only.isEmpty then none else some ""
  | _ :: before =>
    match trimEnd before with
    | [[]] => some "/"
    | rest => some (String.ofList (['/'].intercalate rest.reverse))

end AccessAudit.FilePath
