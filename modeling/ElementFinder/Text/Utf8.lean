import ElementFinder.Text.Digit

/-!
# Bytes as characters

Text as bytes: one to four bytes a character, the first byte telling how many. A text is read
character by character; a sequence that is none is reported with its place and its length.
-/

namespace ElementFinder.Utf8

/-- Why bytes are no character. -/
inductive Reason where
  | start
  | continuation
  | truncated
  deriving DecidableEq, Repr

/-- The words for a reason. -/
def Reason.message : Reason → String
  | .start => "invalid start byte"
  | .continuation => "invalid continuation byte"
  | .truncated => "unexpected end of data"

/-- What stands at the front of some bytes: a character of some bytes, or as many bytes that are
none. -/
inductive Front where
  | char (c : Char) (size : Nat)
  | bad (reason : Reason) (size : Nat)
  deriving DecidableEq, Repr

def isContinuation (b : UInt8) : Bool := 0x80 ≤ b && b < 0xC0

/-- The second byte fits to the first one: no needless length, no half of a pair, no code beyond the
last one. -/
def secondFits (first second : UInt8) : Bool :=
  isContinuation second
    && (first != 0xE0 || 0xA0 ≤ second) && (first != 0xED || second < 0xA0)
    && (first != 0xF0 || 0x90 ≤ second) && (first != 0xF4 || second < 0x90)

/-- The bits that a continuing byte adds to a code. -/
def extend (code : Nat) (b : UInt8) : Nat := code * 64 + b.toNat % 64

/-- The front of the bytes after a first byte that starts a character of three. -/
def frontOfThree (first : UInt8) : List UInt8 → Front
  | [] => .bad .truncated 1
  | [b] => if secondFits first b then .bad .truncated 2 else .bad .continuation 1
  | b :: c :: _ =>
    if !secondFits first b then .bad .continuation 1
    else if !isContinuation c then .bad .continuation 2
    else .char (Char.ofNat (extend (extend (first.toNat % 16) b) c)) 3

/-- The front of the bytes after a first byte that starts a character of four. -/
def frontOfFour (first : UInt8) : List UInt8 → Front
  | [] => .bad .truncated 1
  | [b] => if secondFits first b then .bad .truncated 2 else .bad .continuation 1
  | [b, c] =>
    if !secondFits first b then .bad .continuation 1
    else if !isContinuation c then .bad .continuation 2
    else .bad .truncated 3
  | b :: c :: d :: _ =>
    if !secondFits first b then .bad .continuation 1
    else if !isContinuation c then .bad .continuation 2
    else if !isContinuation d then .bad .continuation 3
    else .char (Char.ofNat (extend (extend (extend (first.toNat % 8) b) c) d)) 4

/-- What stands at the front of bytes that begin with the given one. -/
def front (first : UInt8) (rest : List UInt8) : Front :=
  if first < 0x80 then .char (Char.ofNat first.toNat) 1
  else if first < 0xC2 then .bad .start 1
  else if first < 0xE0 then
    match rest with
    | [] => .bad .truncated 1
    | b :: _ =>
      if isContinuation b then .char (Char.ofNat (extend (first.toNat % 32) b)) 2
      else .bad .continuation 1
  else if first < 0xF0 then frontOfThree first rest
  else if first < 0xF5 then frontOfFour first rest
  else .bad .start 1

/-- Bytes that are no text: the first bad ones, with their place. -/
structure Fault where
  reason : Reason
  place : Nat
  bytes : List UInt8
  deriving DecidableEq, Repr

/-- The words for bytes that are no text in an encoding: the bytes, their place and the reason. -/
def undecodable (encoding : String) (place : Nat) (bytes : List UInt8) (reason : String) : String :=
  let what := match bytes with
    | [b] => "byte 0x" ++ Text.hexadecimal 2 b.toNat ++ " in position " ++ toString place
    | bs => "bytes in position " ++ toString place ++ "-" ++ toString (place + bs.length - 1)
  "\x27" ++ encoding ++ "\x27 codec can\x27t decode " ++ what ++ ": " ++ reason

/-- The words for a fault. -/
def Fault.message (f : Fault) : String := undecodable "utf-8" f.place f.bytes f.reason.message

/-- Stands for bytes that are no character. -/
def replacement : Char := '\uFFFD'

/-- Reads bytes as pieces: characters, and faults where there are none. -/
def pieces : Nat → Nat → List UInt8 → List (Except Fault Char) → List (Except Fault Char)
  | _, _, [], acc => acc.reverse
  | 0, _, _, acc => acc.reverse
  | fuel + 1, place, b :: rest, acc =>
    match front b rest with
    | .char c size => pieces fuel (place + size) (rest.drop (size - 1)) (.ok c :: acc)
    | .bad reason size =>
      pieces fuel (place + size) (rest.drop (size - 1))
        (.error ⟨reason, place, (b :: rest).take size⟩ :: acc)

/-- The characters of bytes, if all bytes belong to characters. -/
def decode (bs : List UInt8) : Except Fault (List Char) :=
  (pieces bs.length 0 bs []).mapM id

/-- The characters of bytes, with a stand-in for bytes that are none. -/
def decodeLenient (bs : List UInt8) : List Char :=
  (pieces bs.length 0 bs []).map fun p => p.toOption.getD replacement

/-- The bytes begin with half of a pair, written as a character of its own. -/
def startsWithHalf : List UInt8 → Bool
  | 0xED :: b :: c :: _ => 0xA0 ≤ b && isContinuation b && isContinuation c
  | _ => false

/-- The characters of bytes, with a stand-in for each half of a pair. -/
def decodeHalves : Nat → Nat → List UInt8 → List Char → Except Fault (List Char)
  | _, _, [], acc => .ok acc.reverse
  | 0, _, _, acc => .ok acc.reverse
  | fuel + 1, place, b :: rest, acc =>
    match front b rest with
    | .char c size => decodeHalves fuel (place + size) (rest.drop (size - 1)) (c :: acc)
    | .bad reason size =>
      if startsWithHalf (b :: rest) then
        decodeHalves fuel (place + 3) (rest.drop 2) (replacement :: acc)
      else .error ⟨reason, place, (b :: rest).take size⟩

def encodeChar (c : Char) : List UInt8 :=
  let n := c.toNat
  if n < 0x80 then [n.toUInt8]
  else if n < 0x800 then [(0xC0 + n / 64).toUInt8, (0x80 + n % 64).toUInt8]
  else if n < 0x10000 then
    [(0xE0 + n / 4096).toUInt8, (0x80 + n / 64 % 64).toUInt8, (0x80 + n % 64).toUInt8]
  else
    [(0xF0 + n / 262144).toUInt8, (0x80 + n / 4096 % 64).toUInt8, (0x80 + n / 64 % 64).toUInt8,
      (0x80 + n % 64).toUInt8]

/-- The bytes of characters. -/
def encode (cs : List Char) : List UInt8 := cs.flatMap encodeChar

end ElementFinder.Utf8
