import PipeLoom.Text.Digit

/-!
# Versions

A semantic version: three numbers that fit 64 bits, then optional pre-release and build identifiers.
-/

namespace PipeLoom

structure Version where
  major : Nat
  minor : Nat
  patch : Nat
  pre : List String
  build : List String
  deriving DecidableEq, Repr

namespace Version

/-- The identifiers of one part, led by its mark. -/
def printPart (mark : String) : List String → String
  | [] => ""
  | ids => mark ++ String.intercalate "." ids

def print (v : Version) : String :=
  toString v.major ++ "." ++ toString v.minor ++ "." ++ toString v.patch ++
    printPart "-" v.pre ++ printPart "+" v.build

/-! ## Reading -/

/-- Letters, digits and hyphens, all ASCII. -/
def isIdentifierChar (c : Char) : Bool := c.isAlphanum || c == '-'

/-- A build identifier is a run of letters, digits and hyphens. -/
def isIdentifier (s : List Char) : Bool := !s.isEmpty && s.all isIdentifierChar

/-- A decimal number without a leading zero. -/
def isNumeral (s : List Char) : Bool :=
  !s.isEmpty && s.all Char.isDigit && (s.length == 1 || s.head? != some '0')

/-- A pre-release identifier of digits alone has no leading zero. -/
def isPreIdentifier (s : List Char) : Bool :=
  isIdentifier s && (!s.all Char.isDigit || isNumeral s)

/-- The number of a numeral, if it fits 64 bits. -/
def number? (s : List Char) : Option Nat :=
  if isNumeral s && Text.decimalValue s < UInt64.size then some (Text.decimalValue s) else none

/-- The text before the first mark, and the text after it if the mark is there. -/
def cut (mark : Char) : List Char → List Char × Option (List Char)
  | [] => ([], none)
  | c :: r => if c = mark then ([], some r) else ((c :: (cut mark r).1), (cut mark r).2)

/-- The identifiers of a part, where the part is there. -/
def identifiers? (valid : List Char → Bool) : Option (List Char) → Option (List String)
  | none => some []
  | some s =>
    let ids := s.splitOn '.'
    if ids.all valid then some (ids.map String.ofList) else none

def parse? (s : List Char) : Option Version :=
  let (front, build) := cut '+' s
  let (core, pre) := cut '-' front
  match core.splitOn '.' with
  | [a, b, c] => do
    return ⟨← number? a, ← number? b, ← number? c, ← identifiers? isPreIdentifier pre,
      ← identifiers? isIdentifier build⟩
  | _ => none

end Version

end PipeLoom
