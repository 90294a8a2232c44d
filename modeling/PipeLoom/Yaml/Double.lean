import PipeLoom.Yaml.Scalar

/-!
# Shortest text of a double

A decimal number is rounded to the nearest double, half to even, and written with the fewest digits
that round to the same double, the nearest such digits if there are several. All arithmetic is
exact.
-/

namespace PipeLoom.Yaml

/-- The number `mantissa * 2 ^ exponent`. -/
structure Double where
  mantissa : Nat
  exponent : Int
  deriving DecidableEq, Repr

namespace Double

/-- A fraction of natural numbers. -/
structure Ratio where
  num : Nat
  den : Nat

/-- The number `n * b ^ e`. -/
def scaled (n b : Nat) (e : Int) : Ratio :=
  if e < 0 then ⟨n, Nat.pow b e.natAbs⟩ else ⟨n * Nat.pow b e.natAbs, 1⟩

def Ratio.lt (a b : Ratio) : Bool := a.num * b.den < b.num * a.den

def Ratio.mul (a b : Ratio) : Ratio := ⟨a.num * b.num, a.den * b.den⟩

/-- The nearest natural number, half to even. -/
def Ratio.round (a : Ratio) : Nat :=
  let q := a.num / a.den
  let r := 2 * (a.num % a.den)
  if a.den < r || (r == a.den && q % 2 == 1) then q + 1 else q

/-- The nearest double to a positive fraction. -/
def ofRatio (a : Ratio) : Double :=
  -- the quotient has 52, 53 or 54 bits
  let shift : Int := (a.num.log2 : Int) - a.den.log2 - 53
  let quotient (e : Int) := (a.mul (scaled 1 2 (-e)))
  let e := if (quotient (shift + 1)).lt ⟨Nat.pow 2 53, 1⟩ then
      if (quotient shift).lt ⟨Nat.pow 2 53, 1⟩ then shift else shift + 1
    else shift + 2
  let e := max e (-1074)
  let m := (quotient e).round
  if m = Nat.pow 2 53 then ⟨Nat.pow 2 52, e + 1⟩ else ⟨m, e⟩

/-- Whether a fraction rounds to the double. -/
def isRoundedFrom (d : Double) (a : Ratio) : Bool :=
  let even := d.mantissa % 2 == 0
  let below :=
    if d.mantissa == Nat.pow 2 52 && d.exponent > -1074 then
      scaled (4 * d.mantissa - 1) 2 (d.exponent - 2)
    else scaled (2 * d.mantissa - 1) 2 (d.exponent - 1)
  let above := scaled (2 * d.mantissa + 1) 2 (d.exponent - 1)
  if even then !a.lt below && !above.lt a else below.lt a && a.lt above

/-- The nearest number of the form `n * 10 ^ k` that rounds to the double, if there is one. -/
def onGrid? (d : Double) (k : Int) : Option Nat :=
  let value := (scaled d.mantissa 2 d.exponent).mul (scaled 1 10 (-k))
  let low := value.num / value.den
  let fits (n : Nat) := d.isRoundedFrom (scaled n 10 k)
  let twice := 2 * (value.num % value.den)
  let near := if value.den < twice || (twice == value.den && low % 2 == 1) then low + 1 else low
  let far := if near = low then low + 1 else low
  if fits near then some near else if fits far then some far else none

/-- The first grid, from the coarsest, that has a number which rounds to the double. -/
def shortestFrom (d : Double) (top : Int) : Nat → Nat × Int
  | 0 => (d.mantissa, 0)
  | n + 1 =>
    let k := top - (19 - n : Nat)
    match d.onGrid? k with
    | some digits => if digits = 0 then shortestFrom d top n else (digits, k)
    | none => shortestFrom d top n

/-- Digits and a power of ten, without zeros at the end of the digits. -/
def trimZeros : Nat → Nat → Int → Nat × Int
  | 0, n, k => (n, k)
  | fuel + 1, n, k => if n % 10 = 0 then trimZeros fuel (n / 10) (k + 1) else (n, k)

def shortest (d : Double) : Nat × Int :=
  -- an upper bound for the number of digits before the point
  let bits : Int := d.mantissa.log2 + d.exponent
  let top := (bits * 30103) / 100000 + 2
  let (n, k) := shortestFrom d top 20
  trimZeros 20 n k

/-- Digits with a point or an exponent: positional from 1e-5 below 1e16. -/
def positional (n : Nat) (k : Int) : String :=
  let digits := (toString n).toList
  let point : Int := digits.length + k
  let text :=
    if 0 ≤ k ∧ point ≤ 16 then digits ++ List.replicate k.toNat '0' ++ ['.', '0']
    else if 0 < point ∧ point ≤ 16 then
      digits.take point.toNat ++ '.' :: digits.drop point.toNat
    else if -5 < point ∧ point ≤ 0 then
      ['0', '.'] ++ List.replicate (-point).toNat '0' ++ digits
    else
      let power := (toString (point - 1)).toList
      match digits with
      | [d] => d :: 'e' :: power
      | d :: r => d :: '.' :: r ++ 'e' :: power
      | [] => []
  String.ofList text

/-- The text of the double nearest to a decimal number. -/
def text (d : Decimal) : String :=
  let sign := if d.negative then "-" else ""
  -- far below the smallest double
  let tiny := d.exponent + (toString d.digits).length < -400
  if d.digits = 0 || tiny then sign ++ "0.0"
  else
    let x := ofRatio (scaled d.digits 10 d.exponent)
    if x.mantissa = 0 then sign ++ "0.0"
    else
      let (n, k) := x.shortest
      sign ++ positional n k

end Double

namespace Scalar

/-- The text of a floating-point number, if it is one. -/
def floatText? (s : List Char) : Option String :=
  if isInfinity s then some (if s.head? == some '-' then "-.inf" else ".inf")
  else if isNaN s then some ".nan"
  else do
    let d ← decimal? s
    if d.isFinite then return Double.text d else none

end Scalar

end PipeLoom.Yaml
