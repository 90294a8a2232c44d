/-!
# Digits

The numbers that digits spell, in bases up to sixteen.
-/

namespace PipeLoom.Text

/-- The value of a digit; from ten on digits are letters of either case. -/
def digitValue? (c : Char) : Option Nat :=
  if c.isDigit then some (c.toNat - '0'.toNat)
  else if 'a' ≤ c ∧ c ≤ 'f' then some (c.toNat - 'a'.toNat + 10)
  else if 'A' ≤ c ∧ c ≤ 'F' then some (c.toNat - 'A'.toNat + 10)
  else none

def isDigitOf (base : Nat) (c : Char) : Bool := (digitValue? c).any (· < base)

/-- The number that a text spells, if there are digits of the base in it and nothing else. -/
def natural? (base : Nat) (s : List Char) : Option Nat :=
  if s.isEmpty || !s.all (isDigitOf base) then none
  else some (s.foldl (fun n c => base * n + (digitValue? c).getD 0) 0)

/-- The number that decimal digits spell. -/
def decimalValue (s : List Char) : Nat := s.foldl (fun n c => 10 * n + (c.toNat - '0'.toNat)) 0

/-- The character whose code point the first `width` hexadecimal digits spell. -/
def codePoint? (width : Nat) (s : List Char) : Option Char := do
  let digits := s.take width
  if digits.length < width then none
  let n ← natural? 16 digits
  if n.isValidChar then return Char.ofNat n else none

end PipeLoom.Text
