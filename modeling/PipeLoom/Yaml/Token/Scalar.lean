import PipeLoom.Yaml.Cursor
import PipeLoom.Yaml.Token.Name

/-!
# Reading scalars

Plain and quoted scalars fold the white space between their lines; block scalars keep or fold their
lines as their heads say. Every reader starts at the first character of the scalar and gives the
text with the place after it.
-/

namespace PipeLoom.Yaml

/-- White space inside a scalar. Before the first line break blanks count, after it only further
line breaks do. -/
structure Gap where
  blanks : List Char
  first : List Char
  more : List Char
  broken : Bool

namespace Gap

def none : Gap := ⟨[], [], [], false⟩

/-- A gap that begins with an escaped line break. -/
def escaped : Gap := ⟨[], [], [], true⟩

/-- What the gap reads as: one line feed is a space, more are all but the first. -/
def text (g : Gap) : List Char :=
  if !g.broken then g.blanks
  else if g.first.head? == some '\n' then if g.more.isEmpty then [' '] else g.more
  else g.first ++ g.more

/-- Reads on through blanks and line breaks. No tab may stand in the indentation. -/
def read? (indent : Nat) : Nat → Gap → Cursor → Option (Gap × Cursor)
  | 0, g, c => some (g, c)
  | n + 1, g, c =>
    match c.rest with
    | [] => some (g, c)
    | b :: _ =>
      if isBlank b then
        if !g.broken then read? indent n { g with blanks := g.blanks ++ [b] } (c.skip 1)
        else if b == '\t' && c.column < indent then Option.none
        else read? indent n g (c.skip 1)
      else if isBreak b then
        let (s, c) := c.lineBreak
        if g.broken then read? indent n { g with more := g.more ++ s } c
        else read? indent n { g with blanks := [], first := s, broken := true } c
      else some (g, c)

/-- Reads all blanks and line breaks that stand here. -/
def readAll? (indent : Nat) (g : Gap) (c : Cursor) : Option (Gap × Cursor) :=
  read? indent (c.rest.takeWhile fun b => isBlank b || isBreak b).length g c

end Gap

namespace Token

/-! ## Plain scalars -/

/-- Whether a plain scalar ends before this text, which starts no blank. -/
def endsPlain (inFlow : Bool) : List Char → Bool
  | ':' :: r => endsWord r
  | c :: _ => inFlow && [',', '[', ']', '{', '}'].contains c
  | [] => true

/-- A colon that a flow collection does not allow. -/
def hasStrayColon (inFlow : Bool) : List Char → Bool
  | ':' :: c :: _ => inFlow && [',', '?', '[', ']', '{', '}'].contains c
  | _ => false

/-- The characters of a plain scalar up to the next blank or its end. -/
def plainWord? (inFlow : Bool) : List Char → Option (List Char)
  | [] => some []
  | c :: r =>
    if isBlank c || isBreak c then some []
    else if hasStrayColon inFlow (c :: r) then none
    else if endsPlain inFlow (c :: r) then some []
    else do return c :: (← plainWord? inFlow r)

/-- What is left of a plain scalar behind a gap, and whether a line break follows it. -/
def plainFrom? (inFlow : Bool) (indent : Nat) :
    Nat → Gap → Cursor → Option (List Char × Bool × Cursor)
  | 0, g, c => some ([], g.broken, c)
  | n + 1, g, c =>
    if c.atDocumentMark || c.rest.head? == some '#' then some ([], g.broken, c)
    else do
      let word ← plainWord? inFlow c.rest
      let (front, g, c) := if word.isEmpty then ([], g, c)
        else (g.text ++ word, Gap.none, c.skip word.length)
      if !c.rest.head?.any (fun b => isBlank b || isBreak b) then return (front, g.broken, c)
      let (g, c) ← g.readAll? indent c
      if !inFlow && c.column < indent then return (front, g.broken, c)
      let (text, broken, c) ← plainFrom? inFlow indent n g c
      return (front ++ text, broken, c)

/-! ## Quoted scalars -/

def escapes : List (Char × Char) :=
  [('0', '\x00'), ('a', '\x07'), ('b', '\x08'), ('t', '\t'), ('\t', '\t'), ('n', '\n'),
    ('v', '\x0b'), ('f', '\x0c'), ('r', '\r'), ('e', '\x1b'), (' ', ' '), ('"', '"'), ('/', '/'),
    ('\\', '\\'), ('N', '\u0085'), ('_', '\u00a0'), ('L', '\u2028'), ('P', '\u2029')]

/-- The character after a backslash, and the length of its escape. -/
def escape? : List Char → Option (Char × Nat)
  | [] => none
  | l :: r =>
    match escapes.lookup l with
    | some c => some (c, 1)
    | none => do
      let width ← [('x', 2), ('u', 4), ('U', 8)].lookup l
      return (← Text.codePoint? width r, width + 1)

/-- The characters of a quoted scalar up to a blank, its end or an escaped line break; the flag
tells the last. -/
def quotedWord? (quote : Char) : Nat → Cursor → Option (List Char × Bool × Cursor)
  | 0, c => some ([], false, c)
  | n + 1, c =>
    match c.rest with
    | [] => some ([], false, c)
    | b :: r =>
      let goOn (b : Char) (width : Nat) : Option (List Char × Bool × Cursor) := do
        let (word, escaped, c) ← quotedWord? quote n (c.skip width)
        return (b :: word, escaped, c)
      if isBlank b || isBreak b then some ([], false, c)
      else if b == quote then
        if quote == '\'' && r.head? == some quote then goOn quote 2 else some ([], false, c)
      else if b == '\\' && quote == '"' then
        if r.head?.any isBreak then some ([], true, (c.skip 1).lineBreak.2)
        else do
          let (e, width) ← escape? r
          goOn e (1 + width)
      else goOn b 1

/-- What is left of a quoted scalar, up to the closing quote. -/
def quotedFrom? (quote : Char) : Nat → Cursor → Option (List Char × Cursor)
  | 0, _ => none
  | n + 1, c =>
    if c.atDocumentMark || c.rest.isEmpty then none
    else do
      let (word, escaped, c) ← quotedWord? quote c.rest.length c
      if c.rest.head? == some quote then return (word, c.skip 1)
      let (g, c) ← (if escaped then Gap.escaped else Gap.none).readAll? 0 c
      let (text, c) ← quotedFrom? quote n c
      return (word ++ g.text ++ text, c)

def quoted? (c : Cursor) : Option (Token × Cursor) := do
  let quote ← c.rest.head?
  let (text, c) ← quotedFrom? quote (c.rest.length + 1) (c.skip 1)
  return (.scalar (String.ofList text) false, c)

/-! ## Block scalars -/

/-- What becomes of the line breaks at the end: all go, one stays, all stay. -/
inductive Chomp where
  | strip | clip | keep
  deriving DecidableEq

def chomp? : List Char → Option Chomp
  | '+' :: _ => some .keep
  | '-' :: _ => some .strip
  | _ => none

/-- An explicit indentation, from 1 to 9. -/
def indentHint? : List Char → Option Nat
  | d :: _ => if d.isDigit then some (d.toNat - '0'.toNat) else none
  | [] => none

/-- The signs after `|` or `>`, in either order. -/
def blockHead? (c : Cursor) : Option (Chomp × Option Nat × Cursor) :=
  let (chomp, hint, c) :=
    match chomp? c.rest with
    | some chomp =>
      let c := c.skip 1
      match indentHint? c.rest with
      | some n => (chomp, some n, c.skip 1)
      | none => (chomp, none, c)
    | none =>
      match indentHint? c.rest with
      | some n =>
        let c := c.skip 1
        match chomp? c.rest with
        | some chomp => (chomp, some n, c.skip 1)
        | none => (Chomp.clip, some n, c)
      | none => (Chomp.clip, none, c)
  if hint == some 0 then none else some (chomp, hint, c)

/-- Empty lines before a line of the block: their line breaks, and the widest indentation seen. No
tab may stand in the indentation. -/
def emptyLinesFrom? (indent : Option Nat) :
    Nat → Nat → List Char → Cursor → Option (Nat × List Char × Cursor)
  | 0, widest, breaks, c => some (widest, breaks, c)
  | n + 1, widest, breaks, c =>
    let spaces := (c.rest.takeWhile (· == ' ')).length
    let c := c.skip (match indent with
      | some i => min spaces (i - c.column)
      | none => spaces)
    let widest := max widest c.column
    if indent.all (c.column < ·) && c.rest.head? == some '\t' then none
    else if c.rest.head?.any isBreak then
      let (b, c) := c.lineBreak
      emptyLinesFrom? indent n widest (breaks ++ b) c
    else some (widest, breaks, c)

def emptyLines? (indent : Option Nat) (c : Cursor) : Option (Nat × List Char × Cursor) :=
  let room := (c.rest.takeWhile fun b => b == ' ' || isBreak b).length
  emptyLinesFrom? indent (room + 1) 0 [] c

/-- Lines of the block from one at its indentation on. `first` is the line break that ended the line
before, `more` those of empty lines after it, and `wasBlank` whether that line started with a
blank. -/
def blockLines? (literal : Bool) (indent : Nat) (wasBlank : Bool) (first more : List Char) :
    Nat → Cursor → Option (List Char × List Char × List Char × Cursor)
  | 0, c => some ([], first, more, c)
  | n + 1, c =>
    if c.column != indent || c.rest.isEmpty then some ([], first, more, c)
    else do
      let startsBlank := c.rest.head?.any isBlank
      let folds := !literal && first.head? == some '\n' && !wasBlank && !startsBlank
      let joint := if folds then if more.isEmpty then [' '] else [] else first
      let (line, c) := c.span (!isBreak ·)
      let (next, c) := c.lineBreak
      let (_, breaks, c) ← emptyLines? (some indent) c
      let (text, last, breaks, c) ← blockLines? literal indent startsBlank next breaks n c
      return (joint ++ more ++ line ++ text, last, breaks, c)

/-- A block scalar inside a collection at the given column. -/
def block? (parent : Option Nat) (c : Cursor) : Option (Token × Cursor) := do
  let literal := c.rest.head? == some '|'
  let (chomp, hint, c) ← blockHead? (c.skip 1)
  let c := c.skipWhile isBlank
  let c := if c.rest.head? == some '#' then c.toLineEnd else c
  if !c.rest.head?.all isBreak then none
  let c := c.lineBreak.2
  let fixed := hint.map (parent.getD 0 + ·)
  let (widest, breaks, c) ← emptyLines? fixed c
  let indent := fixed.getD (max widest (max 1 ((parent.map (· + 1)).getD 0)))
  let (text, first, more, c) ←
    blockLines? literal indent false [] breaks (c.rest.length + 1) c
  let text := if chomp == .strip then text else text ++ first
  let text := if chomp == .keep then text ++ more else text
  return (.scalar (String.ofList text) false, c)

end Token

end PipeLoom.Yaml
