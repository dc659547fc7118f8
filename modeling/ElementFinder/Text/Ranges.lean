/-!
# Tables of code ranges

A character class given by inclusive ranges of code points.
-/

namespace ElementFinder.Text

def inRanges (table : Array (Nat × Nat)) (code : Nat) : Bool :=
  table.any fun r => r.1 ≤ code && code ≤ r.2

/-- Where a run of codes (first, last, step, distance) sends a code. -/
def shiftOf (table : Array (Nat × Nat × Nat × Int)) (code : Nat) : Nat :=
  match table.find? fun r => r.1 ≤ code && code ≤ r.2.1 && (code - r.1) % r.2.2.1 == 0 with
  | some r => (code + r.2.2.2).toNat
  | none => code

end ElementFinder.Text
