import PipeLoom.Text.Pattern

/-!
# Tag patterns

The patterns of release tags. `Tag.parse` matches names against them, and their texts stand in shell
scripts.
-/

namespace PipeLoom.Release

open Pattern (char oneOf either group optional many manyOne upTo word)

def digit : Pattern := oneOf [('0', '9')]

def firstDigit : Pattern := oneOf [('1', '9')]

def identifierChar : Pattern := oneOf [('0', '9'), ('A', 'Z'), ('a', 'z'), ('-', '-')]

/-- A number of at most nineteen digits. -/
def number : Pattern := group (either (char '0') (firstDigit ++ upTo 18 digit))

def core : Pattern :=
  char 'v' ++ (number ++ (char '.' ++ (number ++ (char '.' ++ number))))

/-- Only a numeral of one digit may start with a zero. -/
def preIdentifier : Pattern :=
  group <| either (char '0') <| either (firstDigit ++ many digit) <|
    many digit ++ (oneOf [('A', 'Z'), ('a', 'z'), ('-', '-')] ++ many identifierChar)

def buildIdentifier : Pattern := manyOne identifierChar

/-- Identifiers with full stops between them, led by a mark; there may be none at all. -/
def part (mark : Char) (identifier : Pattern) : Pattern :=
  optional (group (char mark ++ (identifier ++ many (group (char '.' ++ identifier)))))

def stable : Pattern := core ++ (part '-' preIdentifier ++ part '+' buildIdentifier)

def hotfix : Pattern :=
  core ++ (word '-' "hotfix".toList ++ (char '.' ++ (number ++ part '+' buildIdentifier)))

def stablePattern : String := stable.wholeText

def hotfixPattern : String := hotfix.wholeText

end PipeLoom.Release
