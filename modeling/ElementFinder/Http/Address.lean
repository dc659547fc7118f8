import ElementFinder.Text.Search
import ElementFinder.Text.Utf8

/-!
# Paths as they are sent

The path of a request behind the path of the server's address. Characters that have no place in a
path are sent byte by byte in hexadecimal; what follows a question mark is a query; a fragment is not
sent; `.` and `..` are taken out.
-/

namespace ElementFinder.Http

/-- An address without the slashes at its end. -/
def trimmed (address : String) : String :=
  String.ofList (Text.trimEndOf (· = '/') address.toList)

/-- What follows the scheme of an address; an address without a scheme is left as it is. -/
def afterScheme : List Char → Option (List Char)
  | ':' :: '/' :: '/' :: rest => some rest
  | _ :: rest => afterScheme rest
  | [] => none

def pathOf (address : String) : List Char :=
  let cs := address.toList
  ((afterScheme cs).getD cs).dropWhile (· != '/')

/-- A printable ASCII character other than the space. -/
def isVisible (c : Char) : Bool := 0x21 ≤ c.toNat && c.toNat ≤ 0x7E

def staysInPath (c : Char) : Bool :=
  isVisible c && !"\"#<>?\x60\x7b\x7d".toList.contains c

def staysInQuery (c : Char) : Bool :=
  isVisible c && !"\"#<>".toList.contains c

/-- A byte as a percent sign and two capital hexadecimal digits. -/
def percent (b : UInt8) : List Char :=
  '%' :: (Text.hexadecimal 2 b.toNat).toList.map Char.toUpper

/-- The characters in the form in which they are sent. -/
def encode (stays : Char → Bool) (cs : List Char) : List Char :=
  cs.flatMap fun c => if stays c then [c] else (Utf8.encodeChar c).flatMap percent

/-- The segments of a path without `.` and `..`; the empty segment in front of an absolute path
stays. -/
def withoutDots (segments : List (List Char)) : List (List Char) :=
  segments.foldl (fun acc s =>
    if s = ['.'] then acc
    else if s = ['.', '.'] then (if acc = [[]] then acc else acc.dropLast)
    else acc ++ [s]) []

/-- The path with `.` and `..` taken out. -/
def normalised (path : List Char) : List Char :=
  String.toList (Text.joined "/" ((withoutDots (Text.splitAt '/' path)).map String.ofList))

/-- A character that no address may hold. -/
def isRefused (c : Char) : Bool := c.toNat < 0x20 || c.toNat == 0x7F

def pathLimit : Nat := 65536

/-- The path of a request in the form in which it is sent to an address, unless it holds characters
that no address may hold. -/
def target? (address path : String) : Option String :=
  let cs := path.toList
  if cs.any isRefused || pathLimit < cs.length then none
  else
    let kept := cs.takeWhile (· != '#')
    let own := kept.takeWhile (· != '?')
    let all := pathOf (trimmed address) ++ '/' :: own.dropWhile (· = '/')
    let sent := normalised (encode staysInPath all)
    let query := match kept.dropWhile (· != '?') with
      | '?' :: q => '?' :: encode staysInQuery q
      | _ => []
    some (String.ofList (sent ++ query))

end ElementFinder.Http
