import ElementFinder.Pattern.Basic

/-!
# Widths

The least and the greatest number of characters that a piece can match, up to a cap.
-/

namespace ElementFinder.Pattern

def widthCap : Nat := Nat.pow 2 64

/-- The greatest distance that a pattern may look back. -/
def farthestBack : Nat := Nat.pow 2 32 - 1

/-- A width under the cap. -/
def capped (w : Nat × Nat) : Nat × Nat := (min w.1 widthCap, min w.2 widthCap)

def addWidths (v w : Nat × Nat) : Nat × Nat := (v.1 + w.1, v.2 + w.2)

def joinWidths (v w : Nat × Nat) : Nat × Nat := (min v.1 w.1, max v.2 w.2)

mutual

/-- The width of a piece, given the widths of the closed groups. -/
def Piece.width (closed : Nat → Nat × Nat) : Piece → Nat × Nat
  | .code _ _ => (1, 1)
  | .anyChar => (1, 1)
  | .oneOf _ _ => (1, 1)
  | .place _ => (0, 0)
  | .group _ _ _ body => widthOf closed body
  | .branch arms => capped (armsWidth closed arms)
  | .times _ least most body =>
    let w := widthOf closed body
    (w.1 * least, match most with
      | none => if w.2 = 0 then 0 else widthCap
      | some m => w.2 * m)
  | .atomic body => widthOf closed body
  | .ahead _ _ => (0, 0)
  | .behind _ _ _ => (0, 0)
  | .sameAs g => closed g
  | .given _ yes no =>
    let w := widthOf closed yes
    match no with
    | none => (0, w.2)
    | some pieces => joinWidths w (widthOf closed pieces)

def widthOf (closed : Nat → Nat × Nat) : List Piece → Nat × Nat
  | [] => (0, 0)
  | p :: rest => capped (addWidths (p.width closed) (widthOf closed rest))

def armsWidth (closed : Nat → Nat × Nat) : List (List Piece) → Nat × Nat
  | [] => (widthCap, 0)
  | arm :: rest => joinWidths (widthOf closed arm) (armsWidth closed rest)

end

mutual

/-- The piece can be used: what it looks back on has one width, and under the template flag nothing
is repeated. -/
def Piece.usable (template : Bool) : Piece → Bool
  | .group _ added _ body => usableAll (template || added.template) body
  | .branch arms => usableArms template arms
  | .times _ _ _ body => !template && usableAll template body
  | .atomic body => usableAll template body
  | .ahead _ body => usableAll template body
  | .behind _ width body =>
    width.1 ≤ farthestBack && width.1 == width.2 && usableAll template body
  | .given _ yes no =>
    usableAll template yes && match no with
      | none => true
      | some pieces => usableAll template pieces
  | _ => true

/-- All pieces can be used. -/
def usableAll (template : Bool) : List Piece → Bool
  | [] => true
  | p :: rest => p.usable template && usableAll template rest

def usableArms (template : Bool) : List (List Piece) → Bool
  | [] => true
  | arm :: rest => usableAll template arm && usableArms template rest

end

end ElementFinder.Pattern
