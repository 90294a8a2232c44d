/-!
# Decimal numbers
-/

namespace PipeLoom

/-- A decimal number: its digits as a natural number, to be scaled by a power of ten. -/
structure Decimal where
  negative : Bool
  digits : Nat
  exponent : Int
  deriving DecidableEq, Repr

/-- Whether the number rounds to a finite double: it is nearer to the greatest double than to the
next power of two. -/
def Decimal.isFinite (d : Decimal) : Bool :=
  let bound : Nat := Nat.pow 2 1024 - Nat.pow 2 970
  if d.digits = 0 then true
  else if d.exponent ≤ 0 then
    let scale := d.exponent.natAbs
    -- a number with fewer digits than places is below one
    if (toString d.digits).length ≤ scale then true else d.digits < bound * Nat.pow 10 scale
  else if d.exponent > 400 then false
  else d.digits * Nat.pow 10 d.exponent.natAbs < bound

end PipeLoom
