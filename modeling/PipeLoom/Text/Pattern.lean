/-!
# Patterns

Extended regular expressions as data. `text` is a pattern as a shell or a library reads it, `rests`
what a match at the front of a text may leave. As in expressions, groups are written out: the text of
a pattern only joins that of its parts.
-/

namespace PipeLoom

inductive Pattern where
  | char (c : Char)
  /-- A character between the bounds of one of the ranges, which are included. -/
  | oneOf (ranges : List (Char × Char))
  | append (p q : Pattern)
  | either (p q : Pattern)
  | group (p : Pattern)
  | optional (p : Pattern)
  | many (p : Pattern)
  | manyOne (p : Pattern)
  | upTo (n : Nat) (p : Pattern)
  deriving DecidableEq, Repr

namespace Pattern

instance : Append Pattern := ⟨append⟩

/-- The characters of a text, one after the other; there is one at least. -/
def word (c : Char) : List Char → Pattern
  | [] => char c
  | d :: r => char c ++ word d r

/-! ## Printing -/

/-- The characters that mean themselves only after a backslash. -/
def isSpecial (c : Char) : Bool := ".*+?()[]\x7b\x7d|^$\\".toList.contains c

def rangeText (r : Char × Char) : String :=
  if r.1 = r.2 then r.1.toString else r.1.toString ++ "-" ++ r.2.toString

def text : Pattern → String
  | char c => if isSpecial c then "\\" ++ c.toString else c.toString
  | oneOf ranges => "[" ++ String.join (ranges.map rangeText) ++ "]"
  | append p q => p.text ++ q.text
  | either p q => p.text ++ "|" ++ q.text
  | group p => "(" ++ p.text ++ ")"
  | optional p => p.text ++ "?"
  | many p => p.text ++ "*"
  | manyOne p => p.text ++ "+"
  | upTo n p => p.text ++ "\x7b0," ++ toString n ++ "\x7d"

/-- The text of a pattern that has to match a text as a whole. -/
def wholeText (p : Pattern) : String := "^" ++ p.text ++ "$"

/-! ## Matching -/

def inRanges (ranges : List (Char × Char)) (c : Char) : Bool :=
  ranges.any fun r => r.1 ≤ c && c ≤ r.2

/-- What is left after `n` matches at most. -/
def repeated (rests : List Char → List (List Char)) : Nat → List Char → List (List Char)
  | 0, s => [s]
  | n + 1, s => s :: (rests s).flatMap (repeated rests n)

/-- What is left of a text after each match at its front. -/
def rests : Pattern → List Char → List (List Char)
  | char _, [] | oneOf _, [] => []
  | char c, d :: r => if c = d then [r] else []
  | oneOf ranges, d :: r => if inRanges ranges d then [r] else []
  | append p q, s => (rests p s).flatMap (rests q)
  | either p q, s => rests p s ++ rests q s
  | group p, s => rests p s
  | optional p, s => s :: rests p s
  -- a text has no more characters to match than its length
  | many p, s => repeated (rests p) s.length s
  | manyOne p, s => (rests p s).flatMap fun r => repeated (rests p) r.length r
  | upTo n p, s => repeated (rests p) n s

/-- Whether the pattern matches the text as a whole. -/
def accepts (p : Pattern) (s : String) : Bool := (rests p s.toList).any List.isEmpty

end Pattern

end PipeLoom
