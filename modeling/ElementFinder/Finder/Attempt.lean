import ElementFinder.Element
import ElementFinder.Page.Source
import ElementFinder.Query.Basic
import ElementFinder.Search.Plain
import ElementFinder.Search.Relative
import ElementFinder.Waiting.World

/-!
# Single attempts

One attempt to find an element: by queries to the server, or on the page that the server shows. Sizes
and surroundings can only be judged on a page. Each query and each page is noted.
-/

namespace ElementFinder.Attempt

variable {σ : Type}

/-- The way of finding an element on a page. -/
def onPage : String := "page_source"

/-- The way of finding an element by its surroundings. -/
def bySurroundings : String := "relative"

/-- A request that may miss: its answer, or the query failure. All other failures go on. -/
def mayMiss (c : Client σ) (r : Request) : Work σ (Except Failure r.Answer) := do
  match ← (Work.send c r).attempt with
  | .ok a => return .ok a
  | .error f => if f.isQuery then return .error f else throw f

/-- Reports the time that a query took, if times are reported. -/
def reportTime (q : Query) (started : Float) (missed : Bool) : Work σ Unit := do
  if (← get).timing.enabled then
    Work.emit (← Work.ofExcept (TimingEvent.queried q.value q.name started (← Work.now) missed))

/-- The handle that a query finds. -/
def tryQuery (c : Client σ) (q : Query) : Work σ (Option String) := do
  let started ← Work.now
  match ← mayMiss c (.find q.method q.value) with
  | .error f =>
    Work.record .debug ("Strategy " ++ q.describe ++ " missed: " ++ f.message)
    reportTime q started true
    Work.note ⟨q.name, q.describe, some f.message⟩
    return none
  | .ok handle =>
    reportTime q started false
    Work.note ⟨q.name, q.describe, none⟩
    return some handle

/-- A property of a found element; one that cannot be read keeps its usual value. -/
def property (c : Client σ) (r : Request) (usual : r.Answer) (word handle : String) :
    Work σ r.Answer := do
  match ← mayMiss c r with
  | .ok a => return a
  | .error f =>
    Work.record .debug ("Could not read " ++ word ++ " of " ++ handle ++ ": " ++ f.message)
    return usual

/-- The element with a handle that a query found. -/
def ofHandle (c : Client σ) (s : Selector) (q : Query) (handle : String) : Work σ Element := do
  let text ← property c (.text handle) "" "text" handle
  let bounds ← property c (.rect handle) {} "rect" handle
  let visible ← property c (.displayed handle) false "visibility" handle
  let selector ← Work.ofExcept s.describe
  return { text, bounds, visible, handle := some handle, origin := ⟨selector, q.name, some q.value⟩ }

/-- The element that the first successful query finds. The deadline is looked at before each
query. -/
def byQueries (c : Client σ) (s : Selector) (limit : Option Deadline) : List Query → Work σ Element
  | [] => noneFound
  | q :: rest => do
    if ← Work.expired limit then noneFound
    else match ← tryQuery c q with
      | none => byQueries c s limit rest
      | some handle =>
        Work.record .debug ("Strategy " ++ q.describe ++ " matched element " ++ handle)
        ofHandle c s q handle
where
  /-- No query has found anything. -/
  noneFound : Work σ Element := do
    let description ← Work.ofExcept s.describe
    throw (.query ("element \x27" ++ description ++ "\x27 not found via remote queries") none)

/-- The page that the server shows. -/
def loadPage (c : Client σ) : Work σ Snapshot := do
  let load : Work σ Snapshot := do
    let source ← Work.send c .source
    modify fun s => { s with notes := { s.notes with page := some source } }
    Work.ofExcept (Snapshot.ofSource source)
  match ← load.attempt with
  | .ok page => return page
  | .error f =>
    if f.isQuery || f.isParse then Work.note ⟨onPage, "source", some f.message⟩
    throw f

/-- The element of a node, with the rectangle that a tap should go to. -/
def ofNode (n : Node) (bounds : Bounds) (description way : String) : Element :=
  { text := n.attributes.label, bounds, enabled := n.attributes.enabled
    visible := n.attributes.displayed, origin := ⟨description, way, none⟩ }

/-- The element that a selector picks from a fresh page; its rectangle is that of the interactive
element around it. -/
def byPage (c : Client σ) (s : Selector) : Work σ Element := do
  let description ← Work.ofExcept s.describe
  let page ← loadPage c
  match ← Work.ofExcept (s.pickIn page) with
  | none =>
    let f := Failure.noMatch description none
    Work.note ⟨onPage, description, some f.message⟩
    throw f
  | some n =>
    Work.note ⟨onPage, description, none⟩
    return ofNode n (page.tapTarget n).bounds description onPage

/-- The element that a selector finds by its surroundings on a fresh page. -/
def byRelation (c : Client σ) (s : Selector) : Work σ Element := do
  let page ← loadPage c
  let description ← Work.ofExcept s.describe
  match s.resolveIn page with
  | .ok n =>
    Work.note ⟨bySurroundings, description, none⟩
    return ofNode n n.bounds description bySurroundings
  | .error f =>
    if f.isOwn then Work.note ⟨bySurroundings, description, some f.message⟩
    throw f

/-- Queries first; if they miss in time, what comes after them. -/
def queriesOr (c : Client σ) (s : Selector) (limit : Option Deadline) (queries : List Query)
    (next : Work σ Element) : Work σ Element := do
  match ← (byQueries c s limit queries).attempt with
  | .ok e => return e
  | .error f => if f.isQuery && !(← Work.expired limit) then next else throw f

/-- An ordinary attempt: queries, then the page. -/
def standard (c : Client σ) (s : Selector) (limit : Option Deadline) : Work σ Element :=
  if s.hasRelative then byRelation c s
  else if s.criteria.hasSize then byPage c s
  else queriesOr c s limit s.criteria.standardQueries (byPage c s)

/-- What the two queries for all elements found: the handle with its query, or the failure of the
second query. -/
def exactOrContains (c : Client σ) (s : Selector) : Work σ (Except Failure (Query × String)) := do
  let exact := s.criteria.exactQuery
  match ← tryQuery c exact with
  | some handle => return .ok (exact, handle)
  | none =>
    let part := s.criteria.containsQuery
    match ← mayMiss c (.find part.method part.value) with
    | .ok handle =>
      Work.note ⟨part.name, part.describe, none⟩
      return .ok (part, handle)
    | .error f =>
      Work.note ⟨part.name, part.describe, some f.message⟩
      return .error f

/-- An attempt before a tap: interactive elements, then the element on the page for a text that
stands anywhere, and the element of a query if the page does not show it. -/
def tap (c : Client σ) (s : Selector) (limit : Option Deadline) : Work σ Element :=
  queriesOr c s limit s.criteria.interactiveQueries do
    let queried ← exactOrContains c s
    match ← (byPage c s).attempt with
    | .ok e => return e
    | .error f =>
      if !f.isOwn then throw f
      else match queried with
        | .error missed => throw missed
        | .ok (q, handle) =>
          Work.record .debug ("Page source lookup for " ++ Text.quoted (s.criteria.text.getD "")
            ++ " failed, using " ++ q.name ++ " match: " ++ f.message)
          ofHandle c s q handle

end ElementFinder.Attempt
