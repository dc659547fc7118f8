import ElementFinder.Query.Clause
import ElementFinder.Selector.Basic

/-!
# Remote queries

The queries that a server is asked for a selector, in the order in which they are tried. A class
chain names a type and puts the conditions into brackets; a predicate holds the conditions alone and
can succeed while a class chain fails, so each class chain has a predicate after it.
-/

namespace ElementFinder

/-- The two query languages of the server. -/
inductive QueryForm where
  | classChain (type : String)
  | predicate
  deriving DecidableEq, Repr

/-- A query: a name for reports, its form and the conditions, at least one. -/
structure Query where
  name : String
  form : QueryForm
  first : Clause
  rest : List Clause
  deriving DecidableEq, Repr

namespace Query

/-- The name of the query language. -/
def method (q : Query) : String :=
  match q.form with
  | .classChain _ => "class chain"
  | .predicate => "predicate string"

/-- The mark around the conditions of a class chain. -/
def chainMark : String := "\x60"

/-- The query as it is sent. -/
def value (q : Query) : String :=
  let conditions := Clause.writeAll q.first q.rest
  match q.form with
  | .classChain type => "**/" ++ type ++ "[" ++ chainMark ++ conditions ++ chainMark ++ "]"
  | .predicate => conditions

/-- The query as it stands in reports. -/
def describe (q : Query) : String :=
  q.name ++ " [" ++ q.method ++ "] " ++ q.value

end Query

def textFieldType : String := "XCUIElementTypeTextField"

/-- The type of an input field that hides its content. -/
def secureFieldType : String := "XCUIElementTypeSecureTextField"

def searchFieldType : String := "XCUIElementTypeSearchField"

def buttonType : String := "XCUIElementTypeButton"

/-- Stands for elements of all types. -/
def anyType : String := "XCUIElementTypeAny"

namespace Criteria

def stateClauses (c : Criteria) : List Clause :=
  (c.enabled.map (Clause.state "enabled")).toList
    ++ (c.selected.map (Clause.state "selected")).toList
    ++ (c.focused.map (Clause.state "hasFocus")).toList

/-- One of the three main texts contains the wanted text, in any letter case. -/
def containsClause (c : Criteria) : Clause :=
  .anyOf ["label", "name", "value"] .containsFolded (c.text.getD "")

/-- One of the three main texts is the wanted text. -/
def equalsClause (c : Criteria) : Clause :=
  .anyOf ["label", "name", "value"] .equal (c.text.getD "")

/-- The query for an element that has exactly the wanted text. -/
def exactQuery (c : Criteria) : Query :=
  ⟨"exact_text", .predicate, c.equalsClause, c.stateClauses⟩

/-- The query for an element that contains the wanted text. -/
def containsQuery (c : Criteria) : Query :=
  ⟨"contains_text", .predicate, c.containsClause, c.stateClauses⟩

def idQueries (c : Criteria) : List Query :=
  match c.id with
  | none => []
  | some id =>
    if id.isEmpty then []
    else
      [⟨"id", .classChain anyType, .nameContains id, c.stateClauses⟩,
        ⟨"id", .predicate, .nameContains id, c.stateClauses⟩]

/-- A field shows the text, its placeholder included. -/
def fieldClause (text : String) : Clause :=
  .anyOf ["label", "value", "placeholderValue"] .containsFolded text

/-- A field shows the text; predicates cannot look at placeholders reliably. -/
def plainFieldClause (text : String) : Clause :=
  .anyOf ["label", "value"] .containsFolded text

/-- The queries for input fields and buttons that show a text. -/
def fieldQueries (c : Criteria) (text : String) (button : Clause) : List Query :=
  let states := c.stateClauses
  [⟨"text_field", .classChain textFieldType, fieldClause text, states⟩,
    ⟨"secure_field", .classChain secureFieldType, fieldClause text, states⟩,
    ⟨"button", .classChain buttonType, button, states⟩,
    ⟨"text_field", .predicate, .typeIs textFieldType, plainFieldClause text :: states⟩,
    ⟨"secure_field", .predicate, .typeIs secureFieldType, plainFieldClause text :: states⟩,
    ⟨"search_field", .predicate, .typeIs searchFieldType, plainFieldClause text :: states⟩,
    ⟨"button", .predicate, .typeIs buttonType, button :: states⟩]

/-- The wanted text, unless it is empty. -/
def wantedText? (c : Criteria) : Option String :=
  c.text.filter (!·.isEmpty)

/-- The queries for a wanted text: fields, buttons, then all elements. -/
def textQueries (c : Criteria) : List Query :=
  match c.wantedText? with
  | none => []
  | some text =>
    c.fieldQueries text (.anyOf ["label", "name"] .containsFolded text)
      ++ [⟨"any_text", .predicate, c.containsClause, c.stateClauses⟩]

def standardQueries (c : Criteria) : List Query :=
  c.idQueries ++ c.textQueries

/-- The queries before a tap: a button has to show the whole text, so that a longer one loses. -/
def interactiveQueries (c : Criteria) : List Query :=
  match c.wantedText? with
  | none => []
  | some text => c.fieldQueries text (.anyOf ["label", "name"] .equalFolded text)

end Criteria

end ElementFinder
