import PipeLoom.Text.Word

/-!
# References to the environment

A guard refers to a variable by `env.` and its name, where `env` starts a word. The name is the
longest run of ASCII letters, digits and underscores there, and no digit starts it. References are
found from the left and do not overlap.
-/

namespace PipeLoom.EnvReference

def isNameStart (c : Char) : Bool := c.isAlpha || c == '_'

def isNameChar (c : Char) : Bool := c.isAlphanum || c == '_'

/-- The name in a reference at the front of the text. -/
def leading? : List Char → Option (List Char)
  | 'e' :: 'n' :: 'v' :: '.' :: c :: r =>
    if isNameStart c then some (c :: r.takeWhile isNameChar) else none
  | _ => none

/-- The names referred to in a text. `inWord` says that a word character stands before it; the first
`skip` characters belong to an earlier reference. -/
def scan (inWord : Bool) (skip : Nat) : List Char → List (List Char)
  | [] => []
  | c :: r =>
    match skip, if inWord then none else leading? (c :: r) with
    | k + 1, _ => scan (Text.isWordChar c) k r
    | 0, some name => name :: scan (Text.isWordChar c) (name.length + 3) r
    | 0, none => scan (Text.isWordChar c) 0 r

/-- Every variable that a guard refers to, in order. -/
def names (guard : String) : List String := (scan false 0 guard.toList).map String.ofList

end PipeLoom.EnvReference
