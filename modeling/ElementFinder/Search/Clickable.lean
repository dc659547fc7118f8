import ElementFinder.Page.Snapshot

/-!
# Interactive elements

A page source does not say which elements take a tap, so the type of an element decides. A tap on
another element goes to the nearest interactive element around it.
-/

namespace ElementFinder

/-- The types of interactive elements. -/
def clickableTypes : List String := [
  "XCUIElementTypeButton",
  "XCUIElementTypeLink",
  "XCUIElementTypeTextField",
  "XCUIElementTypeSecureTextField",
  "XCUIElementTypeSearchField",
  "XCUIElementTypeSwitch",
  "XCUIElementTypeSlider",
  "XCUIElementTypeStepper",
  "XCUIElementTypeSegmentedControl",
  "XCUIElementTypeCell",
  "XCUIElementTypeTab",
  "XCUIElementTypeTabBar",
  "XCUIElementTypeMenu",
  "XCUIElementTypeMenuItem",
  "XCUIElementTypePickerWheel",
  "XCUIElementTypeDatePicker",
  "XCUIElementTypeToggle",
  "XCUIElementTypePageIndicator"]

/-- The type is one of the interactive types. -/
def isClickableType (type : String) : Bool := clickableTypes.contains type

/-- The node is interactive. -/
def Node.isClickable (n : Node) : Bool := isClickableType n.type

/-- The interactive nodes before the others, both in their order. -/
def clickableFirst (nodes : List Node) : List Node :=
  nodes.filter Node.isClickable ++ nodes.filter fun n => !n.isClickable

/-- The node that takes a tap on a node: the node itself or its nearest ancestor, whichever is
interactive first; the node itself if none of them is. -/
def Snapshot.tapTarget (s : Snapshot) (n : Node) : Node :=
  ((n :: s.ancestors n).find? Node.isClickable).getD n

end ElementFinder
