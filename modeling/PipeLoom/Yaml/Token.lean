/-!
# Tokens

A document as a list of tokens. Indentation is made explicit: a block collection has an opening and
a closing token, and a key is announced before it.
-/

namespace PipeLoom.Yaml

inductive Token where
  | version (major minor : Nat)
  /-- A directive: what a tag handle stands for. -/
  | handle (name stands : String)
  | documentStart
  | documentEnd
  | openBlockList
  | openBlockMap
  | closeBlock
  | openList
  | closeList
  | openMap
  | closeMap
  /-- The dash of a block list. -/
  | dash
  | comma
  | key
  | value
  | anchor (name : String)
  | reference (anchor : String)
  | tag (handle name : String)
  /-- A scalar; only an unquoted one can stand for something other than text. -/
  | scalar (text : String) ( isPlain : Bool)
  deriving DecidableEq, Repr

end PipeLoom.Yaml
