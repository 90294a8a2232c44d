import PipeLoom.Decimal
import PipeLoom.Text.Digit
import PipeLoom.Timestamp
import PipeLoom.Toml.Value

/-!
# TOML scalars

Readers for strings, numbers, dates and times. Each takes a value from the front of the text and
gives it with the rest.
-/

namespace PipeLoom.Toml

abbrev Reader (α : Type) := List Char → Option (α × List Char)

def isBlank (c : Char) : Bool := c == ' ' || c == '\t'

def skipBlanks (s : List Char) : List Char := s.dropWhile isBlank

/-- Characters of a comment: all but controls, with the tab. -/
def isCommentChar (c : Char) : Bool := c == '\t' || (0x20 ≤ c.toNat && c.toNat != 0x7F)

/-- A line feed, alone or after a carriage return. -/
def newline? : List Char → Option (List Char)
  | '\n' :: r | '\r' :: '\n' :: r => some r
  | _ => none

/-! ## Strings -/

def codePoint? (width : Nat) : Reader Char := fun s =>
  (Text.codePoint? width s).map fun c => (c, s.drop width)

/-- The character after a backslash. -/
def escape? : Reader Char
  | 'b' :: r => some ('\x08', r)
  | 't' :: r => some ('\t', r)
  | 'n' :: r => some ('\n', r)
  | 'f' :: r => some ('\x0c', r)
  | 'r' :: r => some ('\r', r)
  | '"' :: r => some ('"', r)
  | '\\' :: r => some ('\\', r)
  | 'u' :: r => codePoint? 4 r
  | 'U' :: r => codePoint? 8 r
  | _ => none

/-- A string on one line after its opening quote; backslashes escape only between double quotes. -/
def lineString? (quote : Char) : Nat → Reader (List Char)
  | 0, _ => none
  | _ + 1, [] => none
  | n + 1, c :: r =>
    if c == quote then some ([], r)
    else if c == '\\' && quote == '"' then do
      let (e, r) ← escape? r
      let (text, r) ← lineString? quote n r
      return (e :: text, r)
    else if isCommentChar c then do
      let (text, r) ← lineString? quote n r
      return (c :: text, r)
    else none

/-- Blanks and line breaks. -/
def skipBlankLines : Nat → List Char → List Char
  | 0, s => s
  | n + 1, s =>
    let s := skipBlanks s
    match newline? s with
    | some r => skipBlankLines n r
    | none => s

/-- A string of several lines after its opening quotes. Up to two quotes may stand before the
closing three. -/
def blockString? (quote : Char) : Nat → Reader (List Char)
  | 0, _ => none
  | _ + 1, [] => none
  | n + 1, c :: r =>
    let quotes := ((c :: r).takeWhile (· == quote)).length
    if 3 ≤ quotes then
      let extra := min 2 (quotes - 3)
      some (List.replicate extra quote, (c :: r).drop (extra + 3))
    else if c == '\\' && quote == '"' then
      match newline? (skipBlanks r) with
      | some r => blockString? quote n (skipBlankLines n r)
      | none => do
        let (e, r) ← escape? r
        let (text, r) ← blockString? quote n r
        return (e :: text, r)
    else
      match newline? (c :: r) with
      | some r => do
        let (text, r) ← blockString? quote n r
        return ('\n' :: text, r)
      | none =>
        if isCommentChar c then do
          let (text, r) ← blockString? quote n r
          return (c :: text, r)
        else none

def string? (s : List Char) : Option (String × List Char) := do
  let quote ← s.head?
  let (text, r) ←
    if [quote, quote, quote].isPrefixOf s then
      let r := s.drop 3
      blockString? quote s.length ((newline? r).getD r)
    else lineString? quote s.length (s.drop 1)
  return (String.ofList text, r)

/-! ## Numbers -/

/-- Digits in which single underscores may stand between two digits. -/
def digits? ( isDigit : Char → Bool) : Reader (List Char)
  | [] => none
  | c :: r => if isDigit c then some (more c r) else none
where
  more (first : Char) : List Char → List Char × List Char
    | '_' :: c :: r =>
      if isDigit c then
        let (ds, r) := more c r
        (first :: ds, r)
      else ([first], '_' :: c :: r)
    | c :: r =>
      if isDigit c then
        let (ds, r) := more c r
        (first :: ds, r)
      else ([first], c :: r)
    | [] => ([first], [])

/-- A decimal number without a zero before other digits. -/
def decimal? (s : List Char) : Option (List Char × List Char) :=
  match s with
  | '0' :: r => some (['0'], r)
  | s => digits? Char.isDigit s

def signed (s : List Char) : Bool × List Char :=
  match s with
  | '-' :: r => (true, r)
  | '+' :: r => (false, r)
  | s => (false, s)

def fraction? : Reader (List Char)
  | '.' :: r => digits? Char.isDigit r
  | _ => none

/-- The exponent of a float: its sign and its digits. -/
def exponent? : Reader (Bool × List Char)
  | c :: r =>
    if c == 'e' || c == 'E' then do
      let (negative, r) := signed r
      let (ds, r) ← digits? Char.isDigit r
      return ((negative, ds), r)
    else none
  | [] => none

def float? (s : List Char) : Option (Unit × List Char) := do
  let (negative, s) := signed s
  if ['i', 'n', 'f'].isPrefixOf s || ['n', 'a', 'n'].isPrefixOf s then return ((), s.drop 3)
  let (whole, s) ← decimal? s
  let (fraction, s, hasFraction) := match fraction? s with
    | some (ds, r) => (ds, r, true)
    | none => ([], s, false)
  let ((down, power), s, hasExponent) := match exponent? s with
    | some (e, r) => (e, r, true)
    | none => ((false, []), s, false)
  if !hasFraction && !hasExponent then none
  let power : Int := Text.decimalValue power
  let exponent := (if down then -power else power) - fraction.length
  let d : Decimal := ⟨negative, Text.decimalValue (whole ++ fraction), exponent⟩
  if negative || d.isFinite then return ((), s) else none

/-- A number in base 16, 8 or 2. -/
def based? (base : Nat) (s : List Char) : Option (Unit × List Char) := do
  let (ds, r) ← digits? (Text.isDigitOf base) s
  if (← Text.natural? base ds) < Nat.pow 2 63 then return ((), r) else none

def integer? (s : List Char) : Option (Unit × List Char) :=
  match s with
  | '0' :: 'x' :: r => based? 16 r
  | '0' :: 'o' :: r => based? 8 r
  | '0' :: 'b' :: r => based? 2 r
  | s => do
    let (negative, s) := signed s
    let (ds, r) ← decimal? s
    let n := Text.decimalValue ds
    if n < Nat.pow 2 63 || (negative && n = Nat.pow 2 63) then return ((), r) else none

/-! ## Dates and times -/

/-- Exactly so many digits. -/
def fixed? (width : Nat) (s : List Char) : Option (Nat × List Char) :=
  let ds := s.take width
  if ds.length == width && ds.all Char.isDigit then some (Text.decimalValue ds, s.drop width)
  else none

def char? (c : Char) : List Char → Option (List Char)
  | d :: r => if c = d then some r else none
  | [] => none

def date? (s : List Char) : Option (Unit × List Char) := do
  let (year, s) ← fixed? 4 s
  let (month, s) ← fixed? 2 (← char? '-' s)
  let (day, s) ← fixed? 2 (← char? '-' s)
  if Timestamp.isDate year month day then return ((), s) else none

def time? (s : List Char) : Option (Unit × List Char) := do
  let (hour, s) ← fixed? 2 s
  let (minute, s) ← fixed? 2 (← char? ':' s)
  let (second, s) ← fixed? 2 (← char? ':' s)
  if 23 < hour || 59 < minute || 60 < second then none
  match s with
  | '.' :: r =>
    let ds := r.takeWhile Char.isDigit
    if ds.isEmpty then none else return ((), r.drop ds.length)
  | s => return ((), s)

/-- An offset from UTC, if one stands here. -/
def offset? (s : List Char) : Option (List Char) :=
  let distance (r : List Char) : Option (List Char) := do
    let (hour, r) ← fixed? 2 r
    let (minute, r) ← fixed? 2 (← char? ':' r)
    if 23 < hour || 59 < minute then none else return r
  match s with
  | 'Z' :: r | 'z' :: r => some r
  | '+' :: r | '-' :: r => distance r
  | s => some s

/-- A date, a time or both; an offset may follow both. -/
def moment? (s : List Char) : Option (Unit × List Char) :=
  match date? s with
  | none => time? s
  | some (_, r) =>
    match r with
    | c :: t =>
      if c == 'T' || c == 't' || (c == ' ' && t.head?.any Char.isDigit) then do
        let (_, r) ← time? t
        return ((), ← offset? r)
      else some ((), r)
    | [] => some ((), [])

end PipeLoom.Toml
