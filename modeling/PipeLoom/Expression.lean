/-!
# Workflow expressions

The part of the workflow expression language that generated conditions are made of. Groups are
explicit, so `print` only joins the texts of its parts.
-/

namespace PipeLoom

inductive Expression where
  | literal (value : Bool)
  | text (value : String)
  /-- A dotted path such as `needs.classify.outputs.intent`. -/
  | context (path : String)
  /-- A call without arguments. -/
  | call (function : String)
  | not (e : Expression)
  | equal (a b : Expression)
  | differ (a b : Expression)
  | both (a b : Expression)
  | either (a b : Expression)
  | group (e : Expression)
  deriving DecidableEq, Repr

namespace Expression

/-- A quote inside a text is written twice. -/
def quote (s : String) : String :=
  "'" ++ String.ofList (s.toList.flatMap fun c => if c = '\'' then [c, c] else [c]) ++ "'"

def print : Expression → String
  | literal true => "true"
  | literal false => "false"
  | text s => quote s
  | context path => path
  | call f => f ++ "()"
  | not e => "!" ++ e.print
  | equal a b => a.print ++ " == " ++ b.print
  | differ a b => a.print ++ " != " ++ b.print
  | both a b => a.print ++ " && " ++ b.print
  | either a b => a.print ++ " || " ++ b.print
  | group e => "(" ++ e.print ++ ")"

/-- The alternatives in order, from the left; none of them is false. -/
def anyOf : List Expression → Expression
  | [] => literal false
  | e :: es => es.foldl either e

/-- An expression in the place of a workflow value. -/
def embed (body : String) : String := "$\x7b\x7b " ++ body ++ " \x7d\x7d"

end Expression

end PipeLoom
