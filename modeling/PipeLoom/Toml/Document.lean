import PipeLoom.Toml.Scalar

/-!
# TOML documents

A document is read line by line into one table. Values nest less than 80 levels deep, and keys have
fewer than 80 parts.
-/

namespace PipeLoom.Toml

def maxDepth : Nat := 80

/-! ## Keys -/

def isBareKeyChar (c : Char) : Bool := c.isAlphanum || c == '-' || c == '_'

def simpleKey? (s : List Char) : Option (String × List Char) :=
  match s with
  | '"' :: r | '\'' :: r => do
    let (text, r) ← lineString? (s.headD '"') s.length r
    return (String.ofList text, r)
  | s =>
    let bare := s.takeWhile isBareKeyChar
    if bare.isEmpty then none else some (String.ofList bare, s.drop bare.length)

/-- A key with dots, from the first part to the blanks after the last one. -/
def keyParts? : Nat → Reader (List String)
  | 0, _ => none
  | n + 1, s => do
    let (k, s) ← simpleKey? (skipBlanks s)
    match skipBlanks s with
    | '.' :: r => do
      let (ks, r) ← keyParts? n r
      return (k :: ks, r)
    | r => return ([k], r)

/-- The parts of a key before the last one, and the last one. -/
def key? (s : List Char) : Option ((List String × String) × List Char) := do
  let (parts, r) ← keyParts? (maxDepth - 1) s
  return ((parts.dropLast, ← parts.getLast?), r)

/-! ## Values -/

def skipComment (s : List Char) : List Char :=
  match s with
  | '#' :: r => r.dropWhile isCommentChar
  | s => s

/-- Blanks, line breaks and comments, which may stand between the values of a list. -/
def skipFiller : Nat → List Char → List Char
  | 0, s => s
  | n + 1, s =>
    let s := skipComment (skipBlanks s)
    match newline? s with
    | some r => skipFiller n r
    | none => s

def word? (word : String) (v : Value) (s : List Char) : Option (Value × List Char) :=
  if word.toList.isPrefixOf s then some (v, s.drop word.length) else none

def numeric? (s : List Char) : Option (Value × List Char) :=
  match moment? s with
  | some (_, r) => some (.moment, r)
  | none =>
    match float? s with
    | some (_, r) => some (.number, r)
    | none => (integer? s).map fun e => (.number, e.2)

mutual

/-- A value inside `depth` others. The first number bounds the number of steps. -/
def value? : Nat → Nat → Reader Value
  | 0, _, _ => none
  | _ + 1, _, [] => none
  | n + 1, depth, c :: r =>
    if (c == '[' || c == '\x7b') && maxDepth ≤ depth + 1 then none
    else if c == '"' || c == '\'' then (string? (c :: r)).map fun e => (.text e.1, e.2)
    else if c == '[' then (items? n (depth + 1) r).map fun e => (.list e.1, e.2)
    else if c == '\x7b' then
      match skipBlanks r with
      | '\x7d' :: r => some (.table .inline [], r)
      | r => entries? n (depth + 1) (.table .inline []) r
    else if c == 't' then word? "true" (.bool true) (c :: r)
    else if c == 'f' then word? "false" (.bool false) (c :: r)
    else if c == 'i' then word? "inf" .number (c :: r)
    else if c == 'n' then word? "nan" .number (c :: r)
    else if c == '+' || c == '-' || c.isDigit then numeric? (c :: r)
    else none

/-- The values of a list; a comma may follow the last one. -/
def items? : Nat → Nat → Reader (List Value)
  | 0, _, _ => none
  | n + 1, depth, s =>
    match skipFiller s.length s with
    | ']' :: r => some ([], r)
    | s => do
      let (v, s) ← value? n depth s
      match skipFiller s.length s with
      | ']' :: r => return ([v], r)
      | ',' :: r => do
        let (vs, r) ← items? n depth r
        return (v :: vs, r)
      | _ => none

/-- The entries of a table between braces, on one line. -/
def entries? : Nat → Nat → Value → Reader Value
  | 0, _, _, _ => none
  | n + 1, depth, t, s => do
    let ((path, key), s) ← key? s
    let s ← char? '=' s
    let (v, s) ← value? n depth (skipBlanks s)
    let t ← Value.addDotted? .inlineDotted key v path t
    match skipBlanks s with
    | ',' :: r => entries? n depth t r
    | '\x7d' :: r => return (t, r)
    | _ => none

end

/-! ## Lines -/

/-- The end of a line: blanks, a comment, and a line break or the end of the text. -/
def lineEnd? (s : List Char) : Option (List Char) :=
  match skipComment (skipBlanks s) with
  | [] => some []
  | r => newline? r

/-- A table header and its line: the key and whether it stands in double brackets. -/
def header? (s : List Char) : Option ((List String × String × Bool) × List Char) := do
  let double := s.head? == some '['
  let ((path, key), s) ← key? (if double then s.drop 1 else s)
  let s ← char? ']' s
  let s ← if double then char? ']' s else some s
  return ((path, key, double), ← lineEnd? s)

/-- Reads the lines of a document into its root table; `header` is the current header's path. -/
def lines? : Nat → Value → List String → List Char → Option Value
  | 0, _, _, _ => none
  | n + 1, root, header, s =>
    match skipBlanks s with
    | [] => some root
    | '#' :: r => do lines? n root header (← lineEnd? ('#' :: r))
    | '[' :: r => do
      let ((path, key, double), r) ← header? r
      let root ← root.atHeader (if double then Value.append? key else Value.open? key) path
      lines? n root (path ++ [key]) r
    | c :: r =>
      match newline? (c :: r) with
      | some r => lines? n root header r
      | none => do
        let ((path, key), r) ← key? (c :: r)
        let r ← char? '=' r
        let (v, r) ← value? (r.length + 1) 0 (skipBlanks r)
        let root ← root.atHeader (Value.addDotted? .dotted key v path) header
        lines? n root header (← lineEnd? r)

/-- The root table of a document. -/
def ofText? (s : String) : Option Value :=
  let s := match s.toList with
    | '\uFEFF' :: r => r
    | s => s
  lines? (s.length + 1) (.table .header []) [] s

end PipeLoom.Toml
