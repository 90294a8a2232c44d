import PipeLoom.Text.Digit
import PipeLoom.Yaml.Cursor
import PipeLoom.Yaml.Token

/-!
# Anchors, tags and directives
-/

namespace PipeLoom.Yaml

namespace Token

/-- What may follow the name of an anchor. -/
def endsAnchor : List Char → Bool
  | [] => true
  | c :: _ => isBlank c || isBreak c || ['?', ':', ',', ']', '}', '%', '@', '\x60'].contains c

/-- The name after `&` or `*`. -/
def anchorName? (c : Cursor) : Option (String × Cursor) :=
  let (name, c) := (c.skip 1).span isNameChar
  if name.isEmpty || !endsAnchor c.rest then none else some (String.ofList name, c)

/-! ## Tags -/

def percentByte? : List Char → Option (Nat × List Char)
  | '%' :: a :: b :: r => do return (← Text.natural? 16 [a, b], r)
  | _ => none

/-- The bytes `10xxxxxx` that go on with a character, put behind the bits read so far. -/
def continuation? : Nat → Nat → List Char → Option (Nat × List Char)
  | 0, bits, r => some (bits, r)
  | n + 1, bits, r => do
    let (b, r) ← percentByte? r
    if b / 64 = 2 then continuation? n (64 * bits + b % 64) r else none

/-- A character whose bytes are escaped: it, its number of bytes, and the rest. -/
def percentChar? (r : List Char) : Option (Char × Nat × List Char) := do
  let (b, r) ← percentByte? r
  let (more, bits) ←
    if b < 0x80 then some (0, b)
    else if b / 32 = 6 then some (1, b % 32)
    else if b / 16 = 14 then some (2, b % 16)
    else if b / 8 = 30 then some (3, b % 8)
    else none
  let (n, r) ← continuation? more bits r
  if n.isValidChar then return (Char.ofNat n, more + 1, r) else none

/-- The characters of a tag; those of a verbatim one include the flow indicators. -/
def isTagChar (verbatim : Bool) (c : Char) : Bool :=
  isNameChar c ||
    [';', '/', '?', ':', '@', '&', '=', '+', '$', '.', '%', '!', '~', '*', '\'', '(', ')'].contains
      c ||
    (verbatim && [',', '[', ']'].contains c)

/-- The text of a tag with its escapes read. -/
def unescapeTag? : Nat → List Char → Option (List Char)
  | 0, _ => some []
  | _ + 1, [] => some []
  | n + 1, '%' :: r => do
    let (c, _, r) ← percentChar? ('%' :: r)
    return c :: (← unescapeTag? n r)
  | n + 1, c :: r => do return c :: (← unescapeTag? n r)

def tagText? (verbatim : Bool) (c : Cursor) : Option (List Char × Cursor) := do
  let (run, c) := c.span (isTagChar verbatim)
  return (← unescapeTag? run.length run, c)

/-- A tag: verbatim between angle brackets, with a handle, or with the handle `!` understood. -/
def tag? (inFlow : Bool) (c : Cursor) : Option (Token × Cursor) := do
  let (t, c) ←
    if (c.rest.drop 1).head? == some '<' then do
      let (text, c) ← tagText? true (c.skip 2)
      if text.isEmpty || c.rest.head? != some '>' then none
      else some (Token.tag "" (String.ofList text), c.skip 1)
    else
      let (name, d) := (c.skip 1).span isNameChar
      if d.rest.head? == some '!' then do
        let (text, d) ← tagText? false (d.skip 1)
        if text.isEmpty then none
        else some (Token.tag (String.ofList ('!' :: name ++ ['!'])) (String.ofList text), d)
      else do
        let (text, d) ← tagText? false d
        let text := name ++ text
        if text.isEmpty then some (Token.tag "" "!", d)
        else some (Token.tag "!" (String.ofList text), d)
  if endsWord c.rest || (inFlow && c.rest.head? == some ',') then some (t, c) else none

/-! ## Directives -/

/-- A number of at most nine digits. -/
def versionNumber? (c : Cursor) : Option (Nat × Cursor) :=
  let (digits, c) := c.span Char.isDigit
  if digits.isEmpty || 9 < digits.length then none
  else some (Text.decimalValue digits, c)

def versionDirective? (c : Cursor) : Option (Token × Cursor) := do
  let (major, c) ← versionNumber? (c.skipWhile isBlank)
  if c.rest.head? != some '.' then none
  let (minor, c) ← versionNumber? (c.skip 1)
  return (.version major minor, c)

def handleDirective? (c : Cursor) : Option (Token × Cursor) := do
  let c := c.skipWhile isBlank
  if c.rest.head? != some '!' then none
  let (name, c) := (c.skip 1).span isNameChar
  let (name, c) ←
    if c.rest.head? == some '!' then some ('!' :: name ++ ['!'], c.skip 1)
    else if name.isEmpty then some (['!'], c)
    else none
  if !c.rest.head?.any isBlank then none
  let (stands, c) ← tagText? true (c.skipWhile isBlank)
  if stands.isEmpty || !endsWord c.rest then none
  return (.handle (String.ofList name) (String.ofList stands), c)

/-- A directive and its line. -/
def directive? (c : Cursor) : Option (Token × Cursor) := do
  let (name, c) := (c.skip 1).span isNameChar
  if !endsWord c.rest then none
  let (t, c) ←
    if name == ['Y', 'A', 'M', 'L'] then versionDirective? c
    else if name == ['T', 'A', 'G'] then handleDirective? c
    else none
  let c := c.skipWhile isBlank
  let c := if c.rest.head? == some '#' then c.toLineEnd else c
  if c.rest.head?.all isBreak then return (t, c.lineBreak.2) else none

end Token

end PipeLoom.Yaml
