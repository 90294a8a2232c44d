import PipeLoom.Yaml.Node
import PipeLoom.Yaml.Style

/-!
# Writing values

Block style with an indentation of two; a list below a key stands at the key's column. A mapping or
list inside a list starts on the line of the dash. Keys that do not fit on a line of their own are
written after a question mark.
-/

namespace PipeLoom.Yaml

namespace Node

def padding (indent : Nat) : String := String.ofList (Style.pad indent)

/-- The text of a scalar and the end of its line. -/
def scalarLine (indent : Nat) : Node → String
  | null => "null\n"
  | bool b => (if b then "true" else "false") ++ "\n"
  | int i => toString i ++ "\n"
  | float s => s ++ "\n"
  | text s => Style.line indent s
  | list _ => "[]\n"
  | map _ => "\x7b\x7d\n"
  | tagged _ _ => "\n"

/-- The length of a key that fits on a line, with its tag. -/
def keyLength? : Node → Option Nat
  | text s => if s.toList.any isBreak then none else some s.utf8ByteSize
  | list (_ :: _) | map (_ :: _) => none
  | tagged tag v => (keyLength? v).map (tag.utf8ByteSize + ·)
  | list [] | map [] | null | bool _ | int _ | float _ => some 0

def isSimpleKey (k : Node) : Bool := (keyLength? k).any (· ≤ 128)

/-- A simple key, with its tag. -/
def keyText : Node → String
  | tagged tag v => tag ++ " " ++ keyText v
  | k => String.ofList ((scalarLine 0 k).toList.dropLast)

mutual

/-- A value behind its key, up to the end of its last line. -/
def after (indent : Nat) : Node → String
  | list (x :: xs) => "\n" ++ String.join ((items indent (x :: xs)).map (padding indent ++ ·))
  | map (e :: es) =>
    "\n" ++ String.join ((entries (indent + 2) (e :: es)).map (padding (indent + 2) ++ ·))
  | tagged tag v => " " ++ tag ++ after indent v
  | v => " " ++ scalarLine (indent + 2) v

/-- A value behind a dash or a question mark at the indentation. -/
def compact (indent : Nat) : Node → String
  | list (x :: xs) => String.intercalate (padding (indent + 2)) (items (indent + 2) (x :: xs))
  | map (e :: es) => String.intercalate (padding (indent + 2)) (entries (indent + 2) (e :: es))
  | tagged tag v => tag ++ after indent v
  | v => scalarLine (indent + 2) v

def items (indent : Nat) : List Node → List String
  | [] => []
  | tagged tag (list (y :: ys)) :: xs =>
    ("- " ++ tag ++ "\n" ++
      String.join ((items (indent + 2) (y :: ys)).map (padding (indent + 2) ++ ·))) ::
      items indent xs
  | x :: xs => ("- " ++ compact indent x) :: items indent xs

def entries (indent : Nat) : List (Node × Node) → List String
  | [] => []
  | (k, v) :: es =>
    (if isSimpleKey k then keyText k ++ ":" ++ after indent v
      else "? " ++ compact indent k ++ padding indent ++ ": " ++ compact indent v) ::
      entries indent es

end

/-- A value as a document. -/
def print : Node → String
  | list (x :: xs) => String.join (items 0 (x :: xs))
  | map (e :: es) => String.join (entries 0 (e :: es))
  | tagged tag v => tag ++ after 0 v
  | v => scalarLine 0 v

end Node

end PipeLoom.Yaml
