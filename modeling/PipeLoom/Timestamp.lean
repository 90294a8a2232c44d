import PipeLoom.Text.Blank
import PipeLoom.Text.Digit

/-!
# Points in time

A point in time in UTC, to the nanosecond. It is read from a date, a time of day and an offset in
any of their usual spellings, and written in one.
-/

namespace PipeLoom

structure Timestamp where
  year : Int
  month : Nat
  day : Nat
  hour : Nat
  minute : Nat
  /-- A second 60 is a leap second. -/
  second : Nat
  nano : Nat
  deriving DecidableEq, Repr, Inhabited

namespace Timestamp

/-! ## The calendar -/

def isLeapYear (y : Int) : Bool := y % 4 == 0 && (y % 100 != 0 || y % 400 == 0)

def daysIn (y : Int) (month : Nat) : Nat :=
  if month = 2 then if isLeapYear y then 29 else 28
  else if [4, 6, 9, 11].contains month then 30
  else 31

/-- The years that dates may have. -/
def isYear (y : Int) : Bool := -262143 ≤ y && y ≤ 262142

def isDate (y : Int) (month day : Nat) : Bool :=
  isYear y && 1 ≤ month && month ≤ 12 && 1 ≤ day && day ≤ daysIn y month

def nextDay (t : Timestamp) : Timestamp :=
  if t.day < daysIn t.year t.month then { t with day := t.day + 1 }
  else if t.month < 12 then { t with month := t.month + 1, day := 1 }
  else { t with year := t.year + 1, month := 1, day := 1 }

def previousDay (t : Timestamp) : Timestamp :=
  if 1 < t.day then { t with day := t.day - 1 }
  else if 1 < t.month then { t with month := t.month - 1, day := daysIn t.year (t.month - 1) }
  else { t with year := t.year - 1, month := 12, day := 31 }

/-- The point that lies some nanoseconds after the start of 1970. -/
def ofNanos (nanos : Nat) : Timestamp :=
  let seconds := nanos / 1000000000
  let day := Nat.repeat nextDay (seconds / 86400) ⟨1970, 1, 1, 0, 0, 0, 0⟩
  { day with
    hour := seconds / 3600 % 24
    minute := seconds / 60 % 60
    second := seconds % 60
    nano := nanos % 1000000000 }

/-- The time some minutes earlier, by less than a day. -/
def minusMinutes (t : Timestamp) (minutes : Int) : Timestamp :=
  let total : Int := 60 * t.hour + t.minute - minutes
  let t := if total < 0 then t.previousDay else if 1440 ≤ total then t.nextDay else t
  let total := (total % 1440).toNat
  { t with hour := total / 60, minute := total % 60 }

/-! ## Reading -/

def skipBlanks (s : List Char) : List Char := s.dropWhile Text.isBlank

/-- A number of at most `width` digits, blanks before it. -/
def number? (width : Nat) (s : List Char) : Option (Nat × List Char) :=
  let s := skipBlanks s
  let run := (s.takeWhile Char.isDigit).take width
  if run.isEmpty then none else some (Text.decimalValue run, s.drop run.length)

/-- A year has four digits at most unless a sign stands before it. -/
def year? (s : List Char) : Option (Int × List Char) :=
  match skipBlanks s with
  | '-' :: r => do
    let (n, r) ← signed? r
    return (-(n : Int), r)
  | '+' :: r => do
    let (n, r) ← signed? r
    return ((n : Int), r)
  | s => do
    let (n, r) ← number? 4 s
    return ((n : Int), r)
where
  signed? (r : List Char) : Option (Nat × List Char) :=
    let run := r.takeWhile Char.isDigit
    if run.isEmpty then none else some (Text.decimalValue run, r.drop run.length)

def mark? (c : Char) (s : List Char) : Option (List Char) :=
  match skipBlanks s with
  | d :: r => if c = d then some r else none
  | [] => none

/-- A fraction of a second in nanoseconds; digits after the ninth do not count. -/
def fraction? (s : List Char) : Option (Nat × List Char) :=
  match s with
  | '.' :: r =>
    let run := r.takeWhile Char.isDigit
    if run.isEmpty then none
    else
      let kept := run.take 9
      some (Text.decimalValue kept * Nat.pow 10 (9 - kept.length), r.drop run.length)
  | _ => some (0, s)

/-- An offset from UTC in minutes. -/
def offset? (s : List Char) : Option (Int × List Char) :=
  let s := skipBlanks s
  if (s.take 3).map Char.toLower == ['u', 't', 'c'] then some (0, s.drop 3)
  else
    match s with
    | 'Z' :: r | 'z' :: r => some (0, r)
    | '+' :: r => distance? r
    | '-' :: r | '\u2212' :: r => (distance? r).map fun d => (-d.1, d.2)
    | _ => none
where
  distance? : List Char → Option (Int × List Char)
    | a :: b :: r =>
      match r.dropWhile fun c => c == ':' || Text.isBlank c with
      | c :: d :: r =>
        if [a, b, c, d].all Char.isDigit then
          let hours := Text.decimalValue [a, b]
          let minutes := Text.decimalValue [c, d]
          if hours < 24 ∧ minutes < 60 then some (60 * hours + minutes, r) else none
        else none
      | _ => none
    | _ => none

def ofText? (s : String) : Option Timestamp := do
  let (year, s) ← year? s.toList
  let s ← mark? '-' s
  let (month, s) ← number? 2 s
  let s ← mark? '-' s
  let (day, s) ← number? 2 s
  let s ← match s with
    | 't' :: r | 'T' :: r | ' ' :: r => some r
    | _ => none
  let (hour, s) ← number? 2 s
  let s ← mark? ':' s
  let (minute, s) ← number? 2 s
  let s ← mark? ':' s
  let (second, s) ← number? 2 s
  let (nano, s) ← fraction? s
  let (offset, s) ← offset? s
  if !s.all Text.isBlank then none
  if !isDate year month day || 23 < hour || 59 < minute || 60 < second then none
  let t := minusMinutes ⟨year, month, day, hour, minute, second, nano⟩ offset
  if isYear t.year then some t else none

/-! ## Writing -/

/-- A number with zeros before it up to a width. -/
def padded (width n : Nat) : String :=
  let s := toString n
  String.ofList (List.replicate (width - s.length) '0') ++ s

/-- Four digits; other years have a sign. -/
def yearText (y : Int) : String :=
  if 0 ≤ y ∧ y ≤ 9999 then padded 4 y.toNat
  else (if y < 0 then "-" else "+") ++ padded 4 y.natAbs

/-- The fraction of a second in 0, 3, 6 or 9 digits, the fewest that lose nothing. -/
def fractionText (nano : Nat) : String :=
  if nano = 0 then ""
  else if nano % 1000000 = 0 then "." ++ padded 3 (nano / 1000000)
  else if nano % 1000 = 0 then "." ++ padded 6 (nano / 1000)
  else "." ++ padded 9 nano

def print (t : Timestamp) : String :=
  yearText t.year ++ "-" ++ padded 2 t.month ++ "-" ++ padded 2 t.day ++ "T" ++ padded 2 t.hour ++
    ":" ++ padded 2 t.minute ++ ":" ++ padded 2 t.second ++ fractionText t.nano ++ "Z"

end Timestamp

end PipeLoom
