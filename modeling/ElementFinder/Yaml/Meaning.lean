import ElementFinder.Yaml.Construction

/-!
# Values of documents

The value that a document stands for, as a tree. What several collections share stands in each of them.
A collection that is in itself ends in a reference to the enclosing one, and where it ends depends on the
value that it is met in: a value that is looked at on its own is enclosed by nothing. A view says which
values are.
-/

namespace ElementFinder.Yaml

/-- How a value is looked at: as a whole; entry by entry, each on its own; or along some of the keys,
where the value of every other key is looked at on its own. -/
inductive View where
  | whole
  | each (entry : View)
  | along (leads : Value → Bool)

namespace View

/-- The view of the items of a list. -/
def ofItem : View → View
  | .each _ => .whole
  | view => view

/-- The view of the value of a key, and the collections that count as enclosing it. -/
def ofEntry (view : View) (key : Value) (inside : List Nat) : View × List Nat :=
  match view with
  | .whole => (.whole, inside)
  | .each entry => (entry, [])
  | .along leads => if leads key then (view, inside) else (.whole, [])

end View

/-- The value of a node inside of collections with the given numbers. There are as many steps as the
longest way down has: no way passes a collection twice before values are looked at on their own. -/
def valueAt (parts : List Part) : Nat → View → List Nat → Nat → Value
  | 0, _, _, _ => .null
  | fuel + 1, view, inside, n =>
    let p := parts.getD n (.value .null)
    match p with
    | .value v => v
    | _ =>
      if inside.contains n then .enclosing p.isMap
      else
        let item := valueAt parts fuel view.ofItem (n :: inside)
        match p with
        | .value v => v
        | .list ns => .list (ns.map item)
        | .pairs ps => .list (ps.map fun e => .pair (item e.1) (item e.2))
        | .set ks => .set ((Value.ofEntries (ks.map fun k => (item k, .null))).map (·.1))
        | .map es => .map (Value.ofEntries (es.map fun e =>
            let key := item e.1
            let (view, inside) := view.ofEntry key (n :: inside)
            (key, valueAt parts fuel view inside e.2)))

/-- The value of a document. -/
def Document.value (d : Document) (view : View) : Except Fault Value :=
  d.parts.map fun parts => valueAt parts (2 * parts.length + 4) view [] d.root

/-- The value of the document of a text; an empty text stands for null. -/
def read (view : View) (text : String) : Except Fault Value := do
  match ← readDocument text with
  | none => return .null
  | some d => d.value view

end ElementFinder.Yaml
