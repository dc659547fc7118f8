import ElementFinder.Http.Address
import ElementFinder.Json.Reader
import ElementFinder.Remote.Client
import ElementFinder.Value.Double
import ElementFinder.Value.Written

/-!
# Requests over HTTP

How a request is put to a server that speaks JSON over HTTP, and what its reply means. The reply has
to be a mapping; its entry `value` holds the answer, or an error with a message.
-/

namespace ElementFinder.Http

/-- A server by its address, and the session that requests belong to, if there is one. -/
structure Session where
  address : String
  id : Option String := none
  deriving DecidableEq, Repr

/-- What comes back: a reply with its status and its bytes, or the kind and the words of the failure
that cut the exchange off. -/
inductive Reply where
  | received (status : Int) (body : List UInt8)
  | broken (kind text : String)
  deriving DecidableEq, Repr

/-- The time that a request may take: the given one, or else the configured one. -/
def patience (given configured : Value) : Value := if given.isNull then configured else given

def localAddress : String := "http://localhost:8100"

/-- The verb of a request: searching by a query sends data, all else only asks. -/
def verb : Request → String
  | .find _ _ => "POST"
  | _ => "GET"

/-- The data that a request sends, by name. -/
def fields : Request → Option (List (String × String))
  | .find method value => some [("using", method), ("value", value)]
  | _ => none

/-- The part of a request's path that does not hang on the session. -/
def ownPath : Request → String
  | .find _ _ => "/element"
  | .text h => "/element/" ++ h ++ "/text"
  | .rect h => "/element/" ++ h ++ "/rect"
  | .displayed h => "/element/" ++ h ++ "/displayed"
  | .source => "/source"

namespace Session

def path (s : Session) (r : Request) : String :=
  match s.id.filter (!·.isEmpty) with
  | some id => "/session/" ++ id ++ ownPath r
  | none => ownPath r

/-- The path of a request as it is sent. -/
def target (s : Session) (r : Request) : Except Failure String :=
  match target? s.address (s.path r) with
  | some t => .ok t
  | none => .error (.other "InvalidURL" "")

end Session

def entries? : Value → Option (List (Value × Value))
  | .map entries => some entries
  | _ => none

def text? : Value → Option String
  | .text s => some s
  | _ => none

/-- An error that the server reports: its message, or its name if the message counts as empty. -/
def reportedError? (entries : List (Value × Value)) : Option Value := do
  let value ← (Value.field? "value" entries).bind entries?
  let name ← (Value.field? "error" value).bind text?
  let message := (Value.field? "message" value).getD .null
  return if message.truthy then message else .text name

/-- The part of a reply that is shown when it cannot be read. -/
def excerptLength : Nat := 200

/-- The words for a reply that cannot be read. -/
def unreadable (path : String) (body : List UInt8) (reason : String) : String :=
  "failed to parse response from " ++ path ++ ": " ++ reason ++ " (body: "
    ++ String.ofList ((Utf8.decodeLenient body).take excerptLength) ++ ")"

def document (path : String) (status : Int) (body : List UInt8) : Except Failure Value :=
  match Json.decode body with
  | .error reason => .error (.query (unreadable path body reason) (some status))
  | .ok cs =>
    match Json.read cs with
    | .ok v => .ok v
    | .error .tooDeep => .error .endless
    | .error f => .error (.query (unreadable path body (f.message cs)) (some status))

/-- The mapping in a reply, if the reply is no error. -/
def entries (verb path : String) : Reply → Except Failure (List (Value × Value))
  | .broken kind text => .error (.query (verb ++ " " ++ path ++ " failed: " ++ kind ++ ": " ++ text) none)
  | .received status body => do
    match ← document path status body with
    | .map entries =>
      match reportedError? entries with
      | some message => .error (.query ("WDA error: " ++ (← message.writeOrFail)) (some status))
      | none =>
        if 400 ≤ status then
          .error (.query (verb ++ " " ++ path ++ " returned HTTP " ++ toString status) (some status))
        else .ok entries
    | v =>
      .error (.query ("unexpected response from " ++ path ++ ": " ++ (← v.displayOrFail)) (some status))

/-- The key of a handle in the present form of replies. -/
def handleKey : String := "element-6066-11e4-a52e-4f735466cecf"

def oldHandleKey : String := "ELEMENT"

/-- The text is a handle: it is not empty. -/
def handle? (v : Value) : Option String := (text? v).filter (!·.isEmpty)

/-- The handle in the value of a reply: under one of the two keys, or else the first text that is
not the name of an error. -/
def handleIn? (value : List (Value × Value)) : Option String :=
  ((Value.field? handleKey value).bind handle?).orElse fun _ =>
    ((Value.field? oldHandleKey value).bind handle?).orElse fun _ =>
      value.findSome? fun e => if e.1.sameKey (.text "error") then none else handle? e.2

/-- A coordinate: a number without its fraction; what is no number counts as zero. -/
def coordinate : Option Value → Except Failure Int
  | some (.int n) => .ok n
  | some (.float x) => wholePart x
  | _ => .ok 0

def rectIn (value : Value) : Except Failure Bounds := do
  match entries? value with
  | none => return {}
  | some entries =>
    let side (name : String) : Except Failure Int := coordinate (Value.field? name entries)
    return { x := ← side "x", y := ← side "y", width := ← side "width", height := ← side "height" }

def answerIn (value : Value) : (r : Request) → Except Failure r.Answer
  | .find _ _ =>
    match (entries? value).bind handleIn? with
    | some handle => .ok handle
    | none => .error (.query "element not found" none)
  | .text _ => .ok ((text? value).getD "")
  | .rect _ => rectIn value
  | .displayed _ => .ok (match value with | .bool b => b | _ => false)
  | .source =>
    match text? value with
    | some s => .ok s
    | none => .error (.query "invalid source response" none)

/-- What a reply means as the answer to a request. -/
def Session.read (s : Session) (r : Request) (reply : Reply) : Except Failure r.Answer := do
  let found ← entries (verb r) (s.path r) reply
  answerIn ((Value.field? "value" found).getD .null) r

end ElementFinder.Http
