import PipeLoom.Yaml.Token.Scalar

/-!
# Layout

Indentation opens and closes block collections, and a `:` makes what stands before it a key. Such a
key is only known in hindsight, so the place of each possible key is remembered, one per level of
nesting, until its line ends.
-/

namespace PipeLoom.Yaml

/-- A token that may turn out to be a key. -/
structure Candidate where
  /-- It stands where a block collection needs a key. -/
  required : Bool
  /-- The number of tokens before it. -/
  position : Nat
  place : Cursor

/-- A document read up to a place. -/
structure Layout where
  cursor : Cursor
  /-- The tokens so far, the last one first. -/
  tokens : List Token
  /-- Columns of the open block collections, the innermost first. -/
  columns : List Nat
  /-- The possible key of every open flow collection and of the block around them, innermost
  first. -/
  candidates : List (Option Candidate)
  /-- Whether a key may begin here. -/
  keyAllowed : Bool

namespace Layout

def start (s : List Char) : Layout := ⟨.start s, [], [], [none], true⟩

def inFlow (l : Layout) : Bool := 1 < l.candidates.length

def column? (l : Layout) : Option Nat := l.columns.head?

/-- Whether the place is to the right of all open block collections. -/
def isDeeper (l : Layout) (column : Nat) : Bool := l.column?.all (· < column)

def push (l : Layout) (t : Token) : Layout := { l with tokens := t :: l.tokens }

/-- Puts a token behind the first `position` ones. -/
def insertAt (l : Layout) (position : Nat) (t : Token) : Layout :=
  { l with tokens := l.tokens.insertIdx (l.tokens.length - position) t }

/-! ## Block collections -/

/-- Opens a block collection unless one is open at the column. -/
def openBlock (l : Layout) (column position : Nat) (t : Token) : Layout :=
  if l.inFlow || !l.isDeeper column then l
  else { l.insertAt position t with columns := column :: l.columns }

def openHere (l : Layout) (t : Token) : Layout := l.openBlock l.cursor.column l.tokens.length t

/-- Closes the collections that are indented deeper than `keeps` allows. -/
def closeWhile (deeper : Nat → Bool) : List Nat → List Token → List Nat × List Token
  | [], ts => ([], ts)
  | c :: cs, ts => if deeper c then closeWhile deeper cs (.closeBlock :: ts) else (c :: cs, ts)

def close (l : Layout) (deeper : Nat → Bool) : Layout :=
  if l.inFlow then l
  else
    let (columns, tokens) := closeWhile deeper l.columns l.tokens
    { l with columns, tokens }

def closeAll (l : Layout) : Layout := l.close fun _ => true

/-! ## Possible keys -/

/-- Gives up the innermost possible key. -/
def dropKey? (l : Layout) : Option Layout :=
  match l.candidates with
  | some k :: r => if k.required then none else some { l with candidates := none :: r }
  | _ => some l

/-- Remembers that a key may begin here. -/
def saveKey? (l : Layout) : Option Layout :=
  if !l.keyAllowed then some l
  else do
    let l ← l.dropKey?
    let required := !l.inFlow && l.column? == some l.cursor.column
    let key : Candidate := ⟨required, l.tokens.length, l.cursor⟩
    return { l with candidates := some key :: l.candidates.drop 1 }

/-- Whether the candidate can still be a key: it ends on its line, within 1024 characters. -/
def isLive (here : Cursor) (k : Candidate) : Bool :=
  k.place.line == here.line && here.index ≤ k.place.index + 1024

def dropStale? (l : Layout) : Option Layout := do
  let live := isLive l.cursor
  if l.candidates.any fun k => k.any fun k => !live k && k.required then none
  else return { l with candidates := l.candidates.map fun k => k.filter live }

/-! ## White space between tokens -/

def skipGap : Nat → Layout → Layout
  | 0, l => l
  | n + 1, l =>
    let c := l.cursor
    match c.rest with
    | [] => l
    | b :: _ =>
      if b == ' ' || (b == '\t' && (l.inFlow || !l.keyAllowed)) || (b == '\uFEFF' && c.column == 0)
      then skipGap n { l with cursor := c.skip 1 }
      else if b == '#' then skipGap n { l with cursor := c.toLineEnd }
      else if isBreak b then
        skipGap n { l with cursor := c.lineBreak.2, keyAllowed := l.keyAllowed || !l.inFlow }
      else l

/-- Goes on to the next token and closes the block collections that end before it. -/
def toToken? (l : Layout) : Option Layout := do
  let l ← (skipGap l.cursor.rest.length l).dropStale?
  return l.close (l.cursor.column < ·)

/-! ## Tokens -/

/-- A token of `n` characters. -/
def take (l : Layout) (n : Nat) (t : Token) (keyAllowed : Bool) : Layout :=
  { l.push t with cursor := l.cursor.skip n, keyAllowed }

def directive? (l : Layout) : Option Layout := do
  let l ← l.closeAll.dropKey?
  let (t, cursor) ← Token.directive? l.cursor
  return { l.push t with cursor, keyAllowed := false }

def documentMark? (l : Layout) (t : Token) : Option Layout := do
  return (← l.closeAll.dropKey?).take 3 t false

def flowStart? (l : Layout) (t : Token) : Option Layout := do
  let l ← l.saveKey?
  return { l.take 1 t true with candidates := none :: l.candidates }

def flowEnd? (l : Layout) (t : Token) : Option Layout := do
  let l ← l.dropKey?
  let candidates := if l.inFlow then l.candidates.drop 1 else l.candidates
  return { l.take 1 t false with candidates }

def comma? (l : Layout) : Option Layout := do
  return (← l.dropKey?).take 1 .comma true

def dash? (l : Layout) : Option Layout := do
  if !l.inFlow && !l.keyAllowed then none
  return (← (l.openHere .openBlockList).dropKey?).take 1 .dash true

def key? (l : Layout) : Option Layout := do
  if !l.inFlow && !l.keyAllowed then none
  let l ← (l.openHere .openBlockMap).dropKey?
  return l.take 1 .key (!l.inFlow)

/-- A `:` makes the possible key a key; without one it stands for an empty key's value. -/
def value? (l : Layout) : Option Layout :=
  match l.candidates with
  | some k :: r =>
    let l := (l.insertAt k.position .key).openBlock k.place.column k.position .openBlockMap
    some { l.take 1 .value false with candidates := none :: r }
  | _ =>
    if !l.inFlow && !l.keyAllowed then none
    else
      let l := l.openHere .openBlockMap
      some (l.take 1 .value (!l.inFlow))

/-- A token that can be a key or belong to one. -/
def keyed? (l : Layout) (read : Cursor → Option (Token × Cursor)) : Option Layout := do
  let l ← l.saveKey?
  let (t, cursor) ← read l.cursor
  return { l.push t with cursor, keyAllowed := false }

def block? (l : Layout) : Option Layout := do
  let l ← l.dropKey?
  let (t, cursor) ← Token.block? l.column? l.cursor
  return { l.push t with cursor, keyAllowed := true }

def plain? (l : Layout) : Option Layout := do
  let l ← l.saveKey?
  let indent := (l.column?.map (· + 1)).getD 0
  let (text, broken, cursor) ←
    Token.plainFrom? l.inFlow indent (l.cursor.rest.length + 1) Gap.none l.cursor
  return { l.push (.scalar (String.ofList text) true) with cursor, keyAllowed := broken }

/-- Reads the token that starts with `c` and goes on with `r`. -/
def token? (l : Layout) (c : Char) (r : List Char) : Option Layout :=
  let alone := endsWord r
  if c == '%' && l.cursor.column == 0 then l.directive?
  else if l.cursor.atMark ['-', '-', '-'] then l.documentMark? .documentStart
  else if l.cursor.atMark ['.', '.', '.'] then l.documentMark? .documentEnd
  else
    match c with
    | '[' => l.flowStart? .openList
    | '{' => l.flowStart? .openMap
    | ']' => l.flowEnd? .closeList
    | '}' => l.flowEnd? .closeMap
    | ',' => l.comma?
    | '*' => l.keyed? fun c => do
      let (name, c) ← Token.anchorName? c
      return (.reference name, c)
    | '&' => l.keyed? fun c => do
      let (name, c) ← Token.anchorName? c
      return (.anchor name, c)
    | '!' => l.keyed? (Token.tag? l.inFlow)
    | '\'' | '"' => l.keyed? Token.quoted?
    | '|' | '>' => if l.inFlow then none else l.block?
    | '-' => if alone then l.dash? else l.plain?
    | '?' => if l.inFlow || alone then l.key? else l.plain?
    | ':' => if l.inFlow || alone then l.value? else l.plain?
    | '#' | '%' | '@' | '\x60' => none
    | c => if isBlank c then none else l.plain?

/-- The end of the text ends every block collection. -/
def finish? (l : Layout) : Option (List Token) := do
  return (← l.closeAll.dropKey?).tokens.reverse

def run? : Nat → Layout → Option (List Token)
  | 0, _ => none
  | n + 1, l => do
    let l ← l.toToken?
    match l.cursor.rest with
    | [] => l.finish?
    | c :: r => run? n (← l.token? c r)

end Layout

/-- The tokens of a document. -/
def Token.ofText? (s : String) : Option (List Token) :=
  let s := s.toList
  if s.all isAllowed then Layout.run? (s.length + 1) (.start s) else none

end PipeLoom.Yaml
