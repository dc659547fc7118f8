import ElementFinder.Selector.Read
import ElementFinder.Yaml.Meaning

/-!
# Selectors in documents

A selector written as a document. The data of a selector is one whole as far as its keys lead to other
selectors; every other value is put into words on its own.
-/

namespace ElementFinder.Selector

/-- The value of the key is a selector or a list of selectors. -/
def leadsOn (key : Value) : Bool :=
  match EntryKind.ofKey key with
  | .field (.anchor _) _ | .field .descendants _ => true
  | _ => false

/-- The data of the selector of a text. -/
def dataOf (text : String) : Except Yaml.Fault Value := Yaml.read (.along leadsOn) text

def ofDocument (strict : Bool) (text : String) : Except Failure Selector :=
  match dataOf text with
  | .error (.malformed reason) => .error (.config ("Invalid selector YAML: " ++ reason))
  | .error (.value f) => .error f
  | .ok v => ofValue strict "selector" v

end ElementFinder.Selector
