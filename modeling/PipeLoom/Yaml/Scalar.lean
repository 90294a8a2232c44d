import PipeLoom.Decimal
import PipeLoom.Text.Digit

/-!
# Plain scalars

What an unquoted text stands for: null, a truth value, an integer, a floating-point number, or just
the text.
-/

namespace PipeLoom.Yaml

inductive Resolved where
  | null
  | bool (value : Bool)
  /-- An integer of at most 128 bits. -/
  | int (value : Int)
  /-- A floating-point number, by its text. -/
  | float (text : List Char)
  | text
  deriving DecidableEq, Repr

namespace Scalar

def isNull (s : String) : Bool := ["", "~", "null", "Null", "NULL"].contains s

def bool? (s : String) : Option Bool :=
  if ["true", "True", "TRUE"].contains s then some true
  else if ["false", "False", "FALSE"].contains s then some false
  else none

/-! ## Integers -/

/-- Whether the text is a zero and more digits, which makes it no number. -/
def isZeroPadded (s : List Char) : Bool :=
  match s with
  | '0' :: d :: r => (d :: r).all Char.isDigit
  | _ => false

/-- A number without its sign, in base 16, 8, 2 or 10. -/
def magnitude? (s : List Char) : Option Nat :=
  match s with
  | '0' :: 'x' :: r => Text.natural? 16 r
  | '0' :: 'o' :: r => Text.natural? 8 r
  | '0' :: 'b' :: r => Text.natural? 2 r
  | _ => if isZeroPadded s then none else Text.natural? 10 s

def int? : List Char → Option Int
  | '-' :: r => (magnitude? r).bind fun n => if n ≤ Nat.pow 2 127 then some (-(n : Int)) else none
  | '+' :: r => (magnitude? r).bind fun n => if n < Nat.pow 2 128 then some n else none
  | s => (magnitude? s).bind fun n => if n < Nat.pow 2 128 then some n else none

/-! ## Floating-point numbers -/

/-- The exponent part: nothing, or `e` with an optional sign and digits. -/
def exponent? : List Char → Option Int
  | [] => some 0
  | c :: r =>
    if c != 'e' && c != 'E' then none
    else
      match r with
      | '-' :: r => (Text.natural? 10 r).map fun n => -(n : Int)
      | '+' :: r => (Text.natural? 10 r).map fun n => (n : Int)
      | r => (Text.natural? 10 r).map fun n => (n : Int)

/-- Digits with an optional point, at least one digit, and an optional exponent. -/
def unsignedDecimal? (negative : Bool) (s : List Char) : Option Decimal :=
  let whole := s.takeWhile Char.isDigit
  let (fraction, rest) :=
    match s.dropWhile Char.isDigit with
    | '.' :: r => (r.takeWhile Char.isDigit, r.dropWhile Char.isDigit)
    | r => ([], r)
  do
    let digits ← Text.natural? 10 (whole ++ fraction)
    let exponent ← exponent? rest
    return ⟨negative, digits, exponent - fraction.length⟩

def decimal? : List Char → Option Decimal
  | '-' :: r => unsignedDecimal? true r
  | '+' :: r => unsignedDecimal? false r
  | s => unsignedDecimal? false s

def isInfinity (s : List Char) : Bool :=
  let s := match s with
    | '+' :: r | '-' :: r => r
    | r => r
  [".inf", ".Inf", ".INF"].contains (String.ofList s)

def isNaN (s : List Char) : Bool := [".nan", ".NaN", ".NAN"].contains (String.ofList s)

def isFloat (s : List Char) : Bool :=
  isInfinity s || isNaN s || ((decimal? s).map (·.isFinite)).getD false

/-! ## Resolution -/

/-- The text without one leading sign. -/
def unsigned : List Char → List Char
  | '-' :: r | '+' :: r => r
  | s => s

def resolve (text : String) : Resolved :=
  let s := text.toList
  if isNull text then .null
  else
    match bool? text, int? s with
    | some b, _ => .bool b
    | none, some i => .int i
    | none, none => if !isZeroPadded (unsigned s) && isFloat s then .float s else .text

/-- Whether a text has to be quoted to stay a text. -/
def isAmbiguous (text : String) : Bool :=
  resolve text != .text || isZeroPadded (unsigned text.toList)

end Scalar

end PipeLoom.Yaml
