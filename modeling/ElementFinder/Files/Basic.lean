import ElementFinder.Text.Search

/-!
# Files and directories

A tree of directories and text files, by the names on the way from the root. Paths are followed name
by name: `.` stays, `..` goes up, and what is passed has to be a directory. The paths are those that a
disk can have, so without a null character.
-/

namespace ElementFinder

/-- A place in the tree: the names on the way from the root. -/
abbrev Place := List String

/-- Directories and files, and the directory that relative paths start from. -/
structure FileTree where
  workingDirectory : Place := []
  directories : List Place := []
  files : List (Place × String) := []
  deriving DecidableEq, Repr

namespace FileTree

/-- The names of a path; empty names count as staying where one is. -/
def names (path : String) : List String :=
  (Text.splitAt '/' path.toList).map String.ofList

/-- The path starts at the root. -/
def isAbsolute (path : String) : Bool := path.toList.head? == some '/'

/-- The place where following a path starts. -/
def origin (t : FileTree) (path : String) : Place :=
  if isAbsolute path then [] else t.workingDirectory

/-- The place above. -/
def parent (p : Place) : Place := p.dropLast

/-- There is a directory at the place; the root always is one. -/
def isDirectory (t : FileTree) (p : Place) : Bool := p.isEmpty || t.directories.contains p

def content? (t : FileTree) (p : Place) : Option String :=
  (t.files.find? (·.1 = p)).map (·.2)

/-- A name longer than this many bytes is refused. -/
def nameLimit : Nat := 255

def pathLimit : Nat := 4096

/-- Makes the directories of a list of names below a place, and gives the tree with those that could
be made, and the place of the last one if all of them are there. -/
def makeAll (t : FileTree) (p : Place) : List String → FileTree × Option Place
  | [] => (t, some p)
  | name :: rest =>
    if name = "" ∨ name = "." then t.makeAll p rest
    else if name = ".." then t.makeAll (parent p) rest
    else
      let q := p ++ [name]
      if (t.content? q).isSome ∨ nameLimit < name.utf8ByteSize then (t, none)
      else if t.isDirectory q then t.makeAll q rest
      else makeAll { t with directories := t.directories ++ [q] } q rest

/-- Makes the directories on a path, and tells if all of them are there. -/
def makeDirectories (t : FileTree) (path : String) : FileTree × Bool :=
  if pathLimit ≤ path.utf8ByteSize then (t, false)
  else
    let (t, found) := t.makeAll (t.origin path) (names path)
    (t, found.isSome)

/-- The place that a list of names leads to, if all but the last are there already. -/
def follow (t : FileTree) (p : Place) : List String → Option Place
  | [] => none
  | [name] =>
    if name = "" ∨ name = "." ∨ name = ".." ∨ nameLimit < name.utf8ByteSize then none
    else some (p ++ [name])
  | name :: rest =>
    if name = "" ∨ name = "." then t.follow p rest
    else if name = ".." then t.follow (parent p) rest
    else if t.isDirectory (p ++ [name]) then t.follow (p ++ [name]) rest
    else none

/-- The place of the file that a path names, if a file can stand there. -/
def filePlace? (t : FileTree) (path : String) : Option Place :=
  if pathLimit ≤ path.utf8ByteSize then none
  else (t.follow (t.origin path) (names path)).filter fun p => !t.isDirectory p

/-- Sets the content of the file at a place. -/
def put (t : FileTree) (p : Place) (content : String) : FileTree :=
  if t.files.any (·.1 = p) then
    { t with files := t.files.map fun f => if f.1 = p then (p, content) else f }
  else { t with files := t.files ++ [(p, content)] }

/-- Writes a file anew, if its path allows it. -/
def write? (t : FileTree) (path content : String) : Option FileTree :=
  (t.filePlace? path).map fun p => t.put p content

/-- Adds to the end of a file, which begins empty, if its path allows it. -/
def append? (t : FileTree) (path content : String) : Option FileTree :=
  (t.filePlace? path).map fun p => t.put p ((t.content? p).getD "" ++ content)

/-- The names of a path with `.` and `..` taken out by the text alone. -/
def plainNames (start : Place) (path : String) : Place :=
  (names path).foldl (fun p name =>
    if name = "" ∨ name = "." then p else if name = ".." then parent p else p ++ [name]) start

/-- The directory part of the place that a path names by its text alone, as a path from the root. -/
def directoryOf (t : FileTree) (path : String) : String :=
  "/" ++ Text.joined "/" (parent (plainNames (t.origin path) path))

/-- A directory and a name in it as one path. -/
def join (directory name : String) : String :=
  if isAbsolute name then name
  else if directory.isEmpty ∨ directory.toList.getLast? = some '/' then directory ++ name
  else directory ++ "/" ++ name

/-- The files inside a directory, each by its path from there. -/
def filesBelow (t : FileTree) (p : Place) : List (String × String) :=
  t.files.filterMap fun f =>
    if p.isPrefixOf f.1 then some (Text.joined "/" (f.1.drop p.length), f.2) else none

end FileTree

end ElementFinder
