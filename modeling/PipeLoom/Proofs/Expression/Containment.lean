import PipeLoom.Proofs.Expression.Meaning
import PipeLoom.Text.Substring

/-!
# Conditions on parts of texts

A condition `contains(path, 'part')` holds where the text at the path has the part in it. As in
workflow expressions, the case of letters does not count.
-/

namespace PipeLoom.Expression

structure Containment where
  path : String
  part : String
  deriving DecidableEq, Repr

namespace Containment

/-- Reads the two sides of the comma; there is none in a path. -/
def ofText? (s : String) : Option Containment :=
  let (first, second) := s.toList.span (· != ',')
  match lex [] first, lex [] (second.drop 1) with
  | some [.word "contains", .opening, .word w], some [.quoted part, .closing] =>
    match ofWord? w with
    | some (.context path) => some ⟨path, part⟩
    | _ => none
  | _, _ => none

/-- Whether the condition holds; `none` where there is no text at the path. -/
def holds? (q : Containment) (v : Environment) : Option Bool :=
  match v.context q.path with
  | some (.text s) =>
    some (Text.occursIn (q.part.toList.map Char.toLower) (s.toList.map Char.toLower))
  | _ => none

theorem holds?_of_infix {q : Containment} {v : Environment} {s : String}
    (hs : v.context q.path = some (.text s)) (hpart : q.part.toList <:+: s.toList) :
    q.holds? v = some true := by
  have hlower := Text.occursIn_iff.2 (hpart.map Char.toLower)
  simp only [holds?, hs, hlower]

end Containment

end PipeLoom.Expression
