import PipeLoom.Expression

/-!
# Reading expressions

The grammar that texts of expressions are read by: words, quoted texts and marks; then negation
before comparison, comparison before `&&`, `&&` before `||`, and each operator from the left.
Numbers, indices and calls with arguments are left out, so texts with them are not read.
-/

namespace PipeLoom.Expression

/-! ## Operators -/

inductive Operator where
  | equal | differ | both | either
  deriving DecidableEq, Repr

namespace Operator

/-- How tightly an operator binds. -/
def level : Operator → Nat
  | either => 1
  | both => 2
  | equal | differ => 3

def apply : Operator → Expression → Expression → Expression
  | equal => .equal
  | differ => .differ
  | both => .both
  | either => .either

def mark : Operator → List Char
  | equal => ['=', '=']
  | differ => ['!', '=']
  | both => ['&', '&']
  | either => ['|', '|']

end Operator

/-! ## Tokens -/

inductive Token where
  | word (text : String)
  | quoted (text : String)
  | operator (o : Operator)
  | bang
  | opening
  | closing
  deriving DecidableEq, Repr

def isWordChar (c : Char) : Bool := c.isAlphanum || c == '_' || c == '-' || c == '.'

/-- The token of the characters of a word, none where there are no characters. -/
def wordToken (w : List Char) : List Token :=
  if w.isEmpty then [] else [.word (String.ofList w)]

mutual

/-- The tokens of a text, where `w` is the part of a word that stands just before it. -/
def lex (w : List Char) : List Char → Option (List Token)
  | [] => some (wordToken w)
  | ' ' :: r => (lex [] r).map (wordToken w ++ ·)
  | '(' :: r => (lex [] r).map (wordToken w ++ .opening :: ·)
  | ')' :: r => (lex [] r).map (wordToken w ++ .closing :: ·)
  | '=' :: '=' :: r => (lex [] r).map (wordToken w ++ .operator .equal :: ·)
  | '!' :: '=' :: r => (lex [] r).map (wordToken w ++ .operator .differ :: ·)
  | '&' :: '&' :: r => (lex [] r).map (wordToken w ++ .operator .both :: ·)
  | '|' :: '|' :: r => (lex [] r).map (wordToken w ++ .operator .either :: ·)
  | '!' :: r => (lex [] r).map (wordToken w ++ .bang :: ·)
  | '\'' :: r => (lexQuoted [] r).map (wordToken w ++ ·)
  | c :: r => if isWordChar c then lex (w ++ [c]) r else none

/-- The tokens from within a quoted text on, of which `q` is read. -/
def lexQuoted (q : List Char) : List Char → Option (List Token)
  | [] => none
  | '\'' :: '\'' :: r => lexQuoted (q ++ ['\'']) r
  | '\'' :: r => (lex [] r).map (.quoted (String.ofList q) :: ·)
  | c :: r => lexQuoted (q ++ [c]) r

end

/-! ## Expressions -/

/-- What a word that calls nothing stands for. -/
def ofWord? (w : String) : Option Expression :=
  if w = "true" then some (.literal true)
  else if w = "false" then some (.literal false)
  else if w = "null" || !(w.toList.head?.any fun c => c.isAlpha || c == '_') then none
  else some (.context w)

/-- What is still open before an operand. -/
inductive Frame where
  | not
  | left (a : Expression) (o : Operator)
  | group
  deriving DecidableEq, Repr

/-- Completes what is open before the operand and binds at least as tightly as `k`. -/
def reduce (k : Nat) : List Frame → Expression → List Frame × Expression
  | .not :: fs, e => reduce k fs (.not e)
  | .left a o :: fs, e =>
    if k ≤ o.level then reduce k fs (o.apply a e) else (.left a o :: fs, e)
  | fs, e => (fs, e)

/-- Reads on, given what is open and the operand just read, if there is one. -/
def readTokens : List Frame → Option Expression → List Token → Option Expression
  | fs, some e, [] =>
    match reduce 1 fs e with
    | ([], e) => some e
    | _ => none
  | fs, none, .bang :: ts => readTokens (.not :: fs) none ts
  | fs, none, .opening :: ts => readTokens (.group :: fs) none ts
  | fs, none, .word f :: .opening :: .closing :: ts => readTokens fs (some (.call f)) ts
  | fs, none, .word w :: ts => (ofWord? w).bind fun e => readTokens fs (some e) ts
  | fs, none, .quoted s :: ts => readTokens fs (some (.text s)) ts
  | fs, some e, .operator o :: ts =>
    let (fs, a) := reduce o.level fs e
    readTokens (.left a o :: fs) none ts
  | fs, some e, .closing :: ts =>
    match reduce 1 fs e with
    | (.group :: fs, e) => readTokens fs (some (.group e)) ts
    | _ => none
  | _, _, _ => none

def ofChars? (s : List Char) : Option Expression := (lex [] s).bind (readTokens [] none)

def ofText? (s : String) : Option Expression := ofChars? s.toList

/-- The expression in the place of a workflow value. -/
def ofEmbedded? (s : String) : Option Expression :=
  match s.toList with
  | '$' :: '\x7b' :: '\x7b' :: r =>
    if ['\x7d', '\x7d'].isSuffixOf r then ofChars? (r.take (r.length - 2)) else none
  | _ => none

example : ofText? "!a && b == 'it''s' || c()" =
    some (.either (.both (.not (.context "a")) (.equal (.context "b") (.text "it's")))
      (.call "c")) := by
  decide +kernel

end PipeLoom.Expression
