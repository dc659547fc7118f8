import ElementFinder.Xml.DocumentType

/-!
# Reading a page source

The events of a text and, if the text is not well formed, the fault that ends them. The events
before a fault are kept.
-/

namespace ElementFinder.Xml

/-- Runs over what stands after the outermost element. -/
def runEpilog : Nat → List Char → Option Stop
  | 0, _ => none
  | fuel + 1, text =>
    if text.isEmpty then none
    else match scanProlog text with
      | .error (.invalid place) => some ⟨.invalidToken, place⟩
      | .error .unfinished => some ⟨.unclosedToken, text⟩
      | .ok (.space, rest) | .ok (.comment, rest) | .ok (.instruction .other, rest) =>
        runEpilog fuel rest
      | .ok _ => some ⟨.junkAfterRoot, text⟩

/-- What stands before the first element; a text of a single byte is too short to be anything. A
byte order mark in front is skipped. -/
def readProlog (text : List Char) : Except Stop (Declarations × List Char) :=
  match text with
  | [c] => if c.toNat < 0x80 then .error ⟨.unclosedToken, text⟩ else runProlog 2 text {}
  | '\ufeff' :: rest => runProlog (rest.length + 1) rest {}
  | _ => runProlog (text.length + 1) text {}

/-- The events of a text, and the fault that ends them if there is one. -/
def readEvents (text : List Char) : List Event × Option Stop :=
  match readProlog text with
  | .error stop => ([], some stop)
  | .ok (d, body) =>
    let expand := runEntity d (d.entities.length + 1) []
    let (s, ending) := runContent d [] 0 expand (body.length + 1) body {}
    let stop := match ending with
      | .rootClosed rest => runEpilog (rest.length + 1) rest
      | .stopped stop => some stop
      | .textEnds => some ⟨.noElement, []⟩
    (s.events.reverse, stop)

end ElementFinder.Xml
