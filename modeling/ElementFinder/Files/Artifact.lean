import ElementFinder.Files.Basic
import ElementFinder.Report.Log

/-!
# Artifacts of failures

The last page that a failed search saw is kept as a file. Its name is made of a safe form of the
given prefix and the moment of writing.
-/

namespace ElementFinder.Artifact

/-- A character that a file name keeps. -/
def isSafe (c : Char) : Bool :=
  c.isAlphanum || c == '_' || c == '.' || c == '-'

/-- Each run of other characters becomes one underscore. -/
def squeezed : List Char → List Char
  | [] => []
  | c :: rest =>
    if isSafe c then c :: squeezed rest
    else match rest with
      | d :: _ => if isSafe d then '_' :: squeezed rest else squeezed rest
      | [] => ['_']

def safeLimit : Nat := 80

/-- The safe form of a prefix: no underscores at its ends before it is cut, and never empty. -/
def safePrefix (given : String) : String :=
  let cs := (Text.trimOf (· = '_') (squeezed given.toList)).take safeLimit
  if cs.isEmpty then "element" else String.ofList cs

def fileName (given stamp : String) : String :=
  safePrefix given ++ "_" ++ stamp ++ "_source.xml"

def notWritten (path : String) : LogRecord :=
  ⟨.search, .warning, "Could not write page source artifact " ++ path⟩

/-- Keeps a page in a directory, if there is one, and gives the paths of what was written. -/
def keep (t : FileTree) (directory : Option String) (given stamp : String) (page : Option String) :
    FileTree × Log × List (String × String) :=
  match directory.filter (!·.isEmpty), page.filter (!·.isEmpty) with
  | some directory, some page =>
    let path := FileTree.join directory (fileName given stamp)
    let (t, made) := t.makeDirectories directory
    match if made then t.write? path page else none with
    | some t => (t, [], [("page_source", path)])
    | none => (t, [notWritten path], [])
  | _, _ => (t, [], [])

end ElementFinder.Artifact
