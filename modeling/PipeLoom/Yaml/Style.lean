import PipeLoom.Yaml.Char
import PipeLoom.Yaml.Scalar

/-!
# How a text is written

A text with a line feed is written as a literal block, one that reads back as itself stands plain,
and any other is quoted. What a style cannot hold moves on to the next one; double quotes hold
everything.
-/

namespace PipeLoom.Yaml

inductive Style where
  | plain | single | double | literal
  deriving DecidableEq, Repr

namespace Style

/-! ## What a text holds -/

/-- A space right before a line break. -/
def hasSpaceBreak : List Char → Bool
  | ' ' :: c :: r => isBreak c || hasSpaceBreak (c :: r)
  | _ :: r => hasSpaceBreak r
  | [] => false

/-- A space right after a line break. -/
def hasBreakSpace : List Char → Bool
  | c :: d :: r => (isBreak c && d == ' ') || hasBreakSpace (d :: r)
  | _ => false

/-- Characters that have a meaning at the start of a value. -/
def isIndicator (c : Char) : Bool :=
  ['#', ',', '[', ']', '{', '}', '&', '*', '!', '|', '>', '\'', '"', '%', '@', '\x60'].contains c

/-- An indicator at the start, also a `-`, `?` or `:` that stands alone, or a document mark. -/
def startsWithIndicator (s : List Char) : Bool :=
  ['-', '-', '-'].isPrefixOf s || ['.', '.', '.'].isPrefixOf s ||
    match s with
    | [] => false
    | c :: r => isIndicator c || (['-', '?', ':'].contains c && endsWord r)

/-- A `:` before a blank, or a `#` after one. -/
def holdsIndicator : List Char → Bool
  | c :: d :: r =>
    (c == ':' && (isBlank d || isBreak d)) || ((isBlank c || isBreak c) && d == '#') ||
      holdsIndicator (d :: r)
  | [c] => c == ':'
  | [] => false

def hasOuterBlank (s : List Char) : Bool :=
  let blank (c : Option Char) := c.any fun c => c == ' ' || isBreak c
  blank s.head? || blank s.getLast?

/-! ## Choice -/

def allowsPlain (s : List Char) : Bool :=
  !(hasOuterBlank s || s.any isBreak || s.any (!isPrintable ·) || startsWithIndicator s ||
    holdsIndicator s)

def allowsSingle (s : List Char) : Bool :=
  !(hasBreakSpace s || hasSpaceBreak s || s.any (!isPrintable ·))

def allowsLiteral (s : List Char) : Bool :=
  !(s.getLast? == some ' ' || hasSpaceBreak s || s.any (!isPrintable ·))

def ofText (text : String) : Style :=
  let s := text.toList
  if s.contains '\n' then if allowsLiteral s then literal else double
  else if !Scalar.isAmbiguous text && allowsPlain s then plain
  else if allowsSingle s then single
  else double

/-! ## Writing -/

def pad (indent : Nat) : List Char := List.replicate indent ' '

/-- The text with the indentation put before every line that starts inside it. -/
def indented (indent : Nat) : Bool → List Char → List Char
  | _, [] => []
  | fresh, c :: r =>
    if isBreak c then c :: indented indent true r
    else (if fresh then pad indent else []) ++ c :: indented indent false r

/-- In single quotes a quote is written twice. -/
def singleQuoted (indent : Nat) (s : List Char) : List Char :=
  let body := s.flatMap fun c => if c = '\'' then [c, c] else [c]
  ('\'' :: indented indent false body) ++
    (if s.getLast?.any isBreak then pad indent else []) ++ ['\'']

def hexDigit (n : Nat) : Char :=
  if n < 10 then Char.ofNat ('0'.toNat + n) else Char.ofNat ('A'.toNat + n - 10)

/-- A number in `width` hexadecimal digits. -/
def hex : Nat → Nat → List Char
  | 0, _ => []
  | width + 1, n => hex width (n / 16) ++ [hexDigit (n % 16)]

/-- The letters of the short escapes. -/
def escapeLetters : List (Char × Char) :=
  [('\x00', '0'), ('\x07', 'a'), ('\x08', 'b'), ('\t', 't'), ('\n', 'n'), ('\x0b', 'v'),
    ('\x0c', 'f'), ('\r', 'r'), ('\x1b', 'e'), ('"', '"'), ('\\', '\\'), ('\u0085', 'N'),
    ('\u2028', 'L'), ('\u2029', 'P')]

def escape (c : Char) : List Char :=
  match escapeLetters.lookup c with
  | some l => ['\\', l]
  | none =>
    if c.toNat ≤ 0xFF then '\\' :: 'x' :: hex 2 c.toNat
    else if c.toNat ≤ 0xFFFF then '\\' :: 'u' :: hex 4 c.toNat
    else '\\' :: 'U' :: hex 8 c.toNat

def doubleQuoted (s : List Char) : List Char :=
  let body := s.flatMap fun c =>
    if !isPrintable c || isBreak c || c == '"' || c == '\\' then escape c else [c]
  '"' :: body ++ ['"']

/-- The head of a literal block: an explicit indentation where the text starts with a blank, and
what becomes of the line breaks at its end. -/
def literalHead (s : List Char) : List Char :=
  let hint := if s.head?.any fun c => c == ' ' || isBreak c then ['2'] else []
  let chomp :=
    match s.reverse with
    | [] => ['-']
    | c :: r =>
      if !isBreak c then ['-']
      else match r with
        | [] => ['+']
        | d :: _ => if isBreak d then ['+'] else []
  '|' :: hint ++ chomp

def literalBlock (indent : Nat) (s : List Char) : List Char :=
  literalHead s ++ '\n' :: indented indent true s

def writeList (indent : Nat) (s : List Char) : Style → List Char
  | plain => s
  | single => singleQuoted indent s
  | double => doubleQuoted s
  | literal => literalBlock indent s

/-- A text in its style and the end of the line; lines inside it start at the indentation. -/
def line (indent : Nat) (text : String) : String :=
  let style := ofText text
  let written := writeList indent text.toList style
  let ended := style == literal && text.toList.getLast?.any isBreak
  String.ofList (if ended then written else written ++ ['\n'])

end Style

end PipeLoom.Yaml
