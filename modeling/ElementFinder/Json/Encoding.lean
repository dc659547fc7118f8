import ElementFinder.Text.Utf8

/-!
# The encoding of a JSON document

Documents come as bytes. The first bytes tell the width of the units and their order, by a mark or by
the zeros among them, as the first two characters of a document are always ASCII. Halves of pairs
are let through, each as one stand-in.
-/

namespace ElementFinder.Json

/-- The encodings of documents; `marked` if a mark stands in front, and `lowFirst` if the low byte of
a unit comes first. -/
inductive Encoding where
  | bytes (marked : Bool)
  | pairs (lowFirst marked : Bool)
  | quads (lowFirst marked : Bool)
  deriving DecidableEq, Repr

namespace Encoding

/-- The encoding of a document without a mark. -/
def ofZeros : List UInt8 → Encoding
  | [a, b] => if a = 0 then .pairs false false else if b = 0 then .pairs true false else .bytes false
  | a :: b :: c :: d :: _ =>
    if a = 0 then (if b = 0 then .quads false false else .pairs false false)
    else if b = 0 then (if c = 0 ∧ d = 0 then .quads true false else .pairs true false)
    else .bytes false
  | _ => .bytes false

/-- The encoding of a document. -/
def detect (bs : List UInt8) : Encoding :=
  match bs with
  | 0x00 :: 0x00 :: 0xFE :: 0xFF :: _ => .quads false true
  | 0xFF :: 0xFE :: 0x00 :: 0x00 :: _ => .quads true true
  | 0xFE :: 0xFF :: _ => .pairs false true
  | 0xFF :: 0xFE :: _ => .pairs true true
  | 0xEF :: 0xBB :: 0xBF :: _ => .bytes true
  | _ => ofZeros bs

def markLength : Encoding → Nat
  | .bytes marked => if marked then 3 else 0
  | .pairs _ marked => if marked then 2 else 0
  | .quads _ marked => if marked then 4 else 0

def name : Encoding → String
  | .bytes _ => "utf-8"
  | .pairs lowFirst _ => if lowFirst then "utf-16-le" else "utf-16-be"
  | .quads lowFirst _ => if lowFirst then "utf-32-le" else "utf-32-be"

end Encoding

/-- The number that bytes spell, the high byte first. -/
def unitOf (bs : List UInt8) : Nat := bs.foldl (fun n b => n * 256 + b.toNat) 0

def unit (lowFirst : Bool) (bs : List UInt8) : Nat := unitOf (if lowFirst then bs.reverse else bs)

def isHalf (n : Nat) : Bool := 0xD800 ≤ n && n ≤ 0xDFFF

def isHighHalf (n : Nat) : Bool := 0xD800 ≤ n && n ≤ 0xDBFF

def isLowHalf (n : Nat) : Bool := 0xDC00 ≤ n && n ≤ 0xDFFF

/-- The character with a code; half of a pair is a stand-in. -/
def charOf (n : Nat) : Char := if isHalf n then Utf8.replacement else Char.ofNat n

def joinHalves (high low : Nat) : Char :=
  Char.ofNat (0x10000 + (high - 0xD800) * 0x400 + (low - 0xDC00))

/-- The characters of units of two bytes. -/
def decodePairs (e : Encoding) (lowFirst : Bool) (place : Nat) :
    List UInt8 → Except String (List Char)
  | [] => .ok []
  | [a] => .error (Utf8.undecodable e.name place [a] "truncated data")
  | a :: b :: c :: d :: rest =>
    let first := unit lowFirst [a, b]
    let second := unit lowFirst [c, d]
    if isHighHalf first && isLowHalf second then
      (decodePairs e lowFirst (place + 4) rest).map (joinHalves first second :: ·)
    else (decodePairs e lowFirst (place + 2) (c :: d :: rest)).map (charOf first :: ·)
  | a :: b :: rest =>
    (decodePairs e lowFirst (place + 2) rest).map (charOf (unit lowFirst [a, b]) :: ·)

/-- The characters of units of four bytes. -/
def decodeQuads (e : Encoding) (lowFirst : Bool) (place : Nat) :
    List UInt8 → Except String (List Char)
  | [] => .ok []
  | a :: b :: c :: d :: rest =>
    let n := unit lowFirst [a, b, c, d]
    if 0x110000 ≤ n then
      .error (Utf8.undecodable e.name place [a, b, c, d] "code point not in range(0x110000)")
    else (decodeQuads e lowFirst (place + 4) rest).map (charOf n :: ·)
  | rest => .error (Utf8.undecodable e.name place rest "truncated data")

/-- The text of a document. -/
def decode (bs : List UInt8) : Except String (List Char) :=
  let e := Encoding.detect bs
  let body := bs.drop e.markLength
  match e with
  | .bytes _ => (Utf8.decodeHalves body.length 0 body []).mapError Utf8.Fault.message
  | .pairs lowFirst _ => decodePairs e lowFirst e.markLength body
  | .quads lowFirst _ => decodeQuads e lowFirst e.markLength body

end ElementFinder.Json
