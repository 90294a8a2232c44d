/-!
# Comparison without letter case

`lower` lower-cases the letters whose lower case is an ASCII letter: A to Z and the Kelvin sign.
Every other character lower-cases outside ASCII (or is its own lower case), so `lower s` is an ASCII
word exactly when the full lower case of `s` is that word. `lower` serves such comparisons only.
-/

namespace PipeLoom.Text

def lowerChar (c : Char) : Char :=
  if c = '\u212a' then 'k' else c.toLower

def lower (s : String) : String := String.ofList (s.toList.map lowerChar)

/-- Equality up to the case of ASCII letters alone. -/
def eqIgnoreAsciiCase (s t : String) : Bool :=
  s.toList.map Char.toLower == t.toList.map Char.toLower

end PipeLoom.Text
