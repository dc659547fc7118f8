import ElementFinder.Failure
import ElementFinder.Page.Snapshot
import ElementFinder.Xml.Reader

/-!
# Page sources

The snapshot that a page source describes. Elements of the wrapper are no nodes: what stands in them
belongs to the element around them. Elements opened before a fault in the text are kept.
-/

namespace ElementFinder

/-- The element that the server wraps around a page. -/
def wrapperTag : String := "AppiumAUT"

/-- The integer that an attribute spells; zero if it is missing or spells none. -/
def attributeNumber (raw : Option String) : Int := (raw.bind Numeral.read?).getD 0

def Attributes.ofElement (tag : String) (attributes : List (String × String)) : Attributes :=
  let find (key : String) := attributes.lookup key
  { type := (find "type").getD tag
    name := (find "name").getD ""
    label := (find "label").getD ""
    value := (find "value").getD ""
    placeholder := (find "placeholderValue").getD ""
    bounds :=
      { x := attributeNumber (find "x")
        y := attributeNumber (find "y")
        width := attributeNumber (find "width")
        height := attributeNumber (find "height") }
    enabled := (find "enabled").getD "true" == "true"
    displayed := (find "visible").getD "true" == "true"
    selected := find "selected" == some "true"
    focused := find "focused" == some "true" }

/-- An element that is still open: what it says, or nothing for a wrapper, and the trees inside it
so far, back to front. -/
structure OpenElement where
  attributes : Option Attributes
  children : List Tree

/-- The trees that an element gives when it closes, back to front: its own tree, or the trees inside
a wrapper. -/
def OpenElement.trees (e : OpenElement) : List Tree :=
  match e.attributes with
  | some a => [.node a e.children.reverse]
  | none => e.children

/-- Closes all open elements around some trees, which are held back to front. -/
def closeAll (inside : List Tree) : List OpenElement → List Tree
  | [] => inside.reverse
  | e :: outer => closeAll ({ e with children := inside ++ e.children }.trees) outer

/-- The forest of some events, with the open elements from the inside out and the finished trees,
back to front, that stand in no open element. -/
def forestOf : List Xml.Event → List OpenElement → List Tree → List Tree
  | [], stack, done => closeAll [] stack |> fun trees => done.reverse ++ trees
  | .opened name attributes :: rest, stack, done =>
    let own := if name == wrapperTag then none else some (Attributes.ofElement name attributes)
    forestOf rest (⟨own, []⟩ :: stack) done
  | .closed :: rest, [], done => forestOf rest [] done
  | .closed :: rest, [e], done => forestOf rest [] (e.trees ++ done)
  | .closed :: rest, e :: f :: stack, done =>
    forestOf rest ({ f with children := e.trees ++ f.children } :: stack) done

namespace Snapshot

def ofEvents (events : List Xml.Event) : Snapshot := ofForest (forestOf events [] [])

/-- The snapshot of a page source. Reading it fails if no element but the wrapper was opened. -/
def ofSource (source : String) : Except Failure Snapshot :=
  let text := source.toList
  let (events, stop) := Xml.readEvents text
  let snapshot := ofEvents events
  if !snapshot.nodes.isEmpty then .ok snapshot
  else match stop with
    | some s => .error (.parse ("failed to parse page source: " ++ s.message text))
    | none => .error (.parse "no elements found in page source")

end Snapshot

end ElementFinder
