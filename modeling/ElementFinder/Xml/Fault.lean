/-!
# Faults of a page source

Where and why the text of a page source stops being well formed.
-/

namespace ElementFinder.Xml

/-- Why reading a page source stops. -/
inductive Fault where
  | malformed
  | noElement
  | invalidToken
  | unclosedToken
  | mismatchedTag
  | duplicateAttribute
  | junkAfterRoot
  | parameterReference
  | undefinedEntity
  | unknownEntity (reference : String)
  | recursiveEntity
  | asynchronousEntity
  | badCharacterNumber
  | binaryEntity
  | externalEntityInAttribute
  | misplacedDeclaration
  | unclosedSection
  | malformedDeclaration
  | publicId
  | unboundPrefix
  | undeclaredPrefix
  | reservedXmlPrefix
  | reservedDeclarationPrefix
  | reservedNamespace
  deriving DecidableEq, Repr

def Fault.words : Fault → String
  | malformed => "syntax error"
  | noElement => "no element found"
  | invalidToken => "not well-formed (invalid token)"
  | unclosedToken => "unclosed token"
  | mismatchedTag => "mismatched tag"
  | duplicateAttribute => "duplicate attribute"
  | junkAfterRoot => "junk after document element"
  | parameterReference => "illegal parameter entity reference"
  | undefinedEntity => "undefined entity"
  | unknownEntity reference => "undefined entity " ++ reference
  | recursiveEntity => "recursive entity reference"
  | asynchronousEntity => "asynchronous entity"
  | badCharacterNumber => "reference to invalid character number"
  | binaryEntity => "reference to binary entity"
  | externalEntityInAttribute => "reference to external entity in attribute"
  | misplacedDeclaration => "XML or text declaration not at start of entity"
  | unclosedSection => "unclosed CDATA section"
  | malformedDeclaration => "XML declaration not well-formed"
  | publicId => "illegal character(s) in public id"
  | unboundPrefix => "unbound prefix"
  | undeclaredPrefix => "must not undeclare prefix"
  | reservedXmlPrefix =>
    "reserved prefix (xml) must not be undeclared or bound to another namespace name"
  | reservedDeclarationPrefix => "reserved prefix (xmlns) must not be declared or undeclared"
  | reservedNamespace => "prefix must not be bound to one of the reserved namespace names"

/-- A fault and the text that was left where it was found. -/
structure Stop where
  fault : Fault
  rest : List Char

/-- The line and the column after some characters; lines end with a line feed, a carriage return or
both. -/
def advance (place : Nat × Nat) : List Char → Nat × Nat
  | [] => place
  | '\r' :: '\n' :: rest => advance (place.1 + 1, 0) rest
  | c :: rest =>
    advance (if c = '\n' ∨ c = '\r' then (place.1 + 1, 0) else (place.1, place.2 + 1)) rest

/-- The line, from one, and the column, from zero, where the given text is all that is left. -/
def placeOf (text rest : List Char) : Nat × Nat :=
  advance (1, 0) (text.take (text.length - rest.length))

/-- The words for a fault with its place in the text. -/
def Stop.message (s : Stop) (text : List Char) : String :=
  let place := placeOf text s.rest
  s.fault.words ++ ": line " ++ toString place.1 ++ ", column " ++ toString place.2

end ElementFinder.Xml
