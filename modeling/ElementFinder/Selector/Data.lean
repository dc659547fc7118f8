import ElementFinder.Selector.Basic
import ElementFinder.Value.Display

/-!
# Selectors as data

The mapping that stands for a selector; only the fields that are set have an entry.
-/

namespace ElementFinder

def entryOf {α : Type} (key : String) (field : Option α) (write : α → Value) :
    List (Value × Value) :=
  match field with
  | none => []
  | some a => [(.text key, write a)]

def Criteria.entries (c : Criteria) : List (Value × Value) :=
  entryOf "text" c.text .text ++ entryOf "id" c.id .text
    ++ entryOf "width" c.width .int ++ entryOf "height" c.height .int
    ++ entryOf "tolerance" c.tolerance .int
    ++ entryOf "enabled" c.enabled .bool ++ entryOf "selected" c.selected .bool
    ++ entryOf "focused" c.focused .bool

namespace Selector

mutual

/-- The mapping that stands for a selector. -/
def toValue : Selector → Value
  | ⟨c, index, ⟨b1, b2, b3, b4, b5, b6, b7⟩, ds⟩ =>
    .map (c.entries ++ entryOf "index" index .text
      ++ anchorEntry "below" b1 ++ anchorEntry "above" b2 ++ anchorEntry "leftOf" b3
      ++ anchorEntry "rightOf" b4 ++ anchorEntry "childOf" b5 ++ anchorEntry "containsChild" b6
      ++ anchorEntry "insideOf" b7
      ++ match ds with
        | [] => []
        | d :: rest => [(.text "containsDescendants", .list (d.toValue :: toValues rest))])

def anchorEntry (key : String) : Option Selector → List (Value × Value)
  | none => []
  | some s => [(.text key, s.toValue)]

/-- The mappings that stand for selectors. -/
def toValues : List Selector → List Value
  | [] => []
  | s :: rest => s.toValue :: toValues rest

end

end Selector

end ElementFinder
