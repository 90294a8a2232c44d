import PipeLoom.Yaml.Token.Layout

/-!
# Syntax trees

A document as a tree of scalars, lists and mappings. Anchors are numbered and references stand for
their number, so a tree may refer to a node that it is part of.
-/

namespace PipeLoom.Yaml

inductive Tree where
  | reference (anchor : Nat)
  | scalar (tag : Option String) (text : String) ( isPlain : Bool)
  | list (tag : Option String) (items : List Tree)
  | map (tag : Option String) (entries : List (Tree × Tree))
  deriving Inhabited

namespace Tree

/-- What is written nowhere: a missing key or value. -/
def missing : Tree := scalar none "" true

end Tree

/-- One definition of an anchor. Of two with one number the later one counts. -/
structure Anchor where
  number : Nat
  order : Nat
  target : Tree

structure Document where
  /-- A document may be empty. -/
  root : Option Tree
  anchors : List Anchor
  /-- The number of scalars and references plus twice that of lists and mappings. -/
  size : Nat

namespace Document

/-- What a reference stands for. -/
def target? (d : Document) (number : Nat) : Option Tree :=
  let found := d.anchors.foldl (fun best a =>
    if a.number != number then best
    else match best with
      | some b => if (b : Anchor).order < a.order then some a else best
      | none => some a) none
  found.map (·.target)

end Document

/-- Tokens on their way into a tree. -/
structure TreeReader where
  tokens : List Token
  /-- What tag handles stand for. -/
  handles : List (String × String)
  /-- The numbers of the anchors by their names. -/
  numbers : List (String × Nat)
  anchors : List Anchor
  defined : Nat
  size : Nat

namespace TreeReader

abbrev Reading := StateT TreeReader Option

def peek : Reading (Option Token) := fun r => some (r.tokens.head?, r)

def skip : Reading Unit := fun r => some ((), { r with tokens := r.tokens.drop 1 })

def fail {α : Type} : Reading α := fun _ => none

/-- Whether the next token is one of these. -/
def isAt (ts : List Token) : Reading Bool := fun r => some (r.tokens.head?.any ts.contains, r)

/-- Passes over a token if it is the next one. -/
def skipIf (t : Token) : Reading Bool := do
  if ← isAt [t] then
    skip
    return true
  else return false

def count (n : Nat) : Reading Unit := fun r => some ((), { r with size := r.size + n })

def missing : Reading Tree := do
  count 1
  return .missing

/-! ## Anchors and tags -/

/-- Numbers an anchor. The number is that of the names in use, so a name that is defined again
gets a number that the next new name gets as well. -/
def define (name : String) : Reading (Nat × Nat) := fun r =>
  let number := r.numbers.length
  let numbers := (name, number) :: r.numbers.filter (·.1 != name)
  some ((number, r.defined), { r with numbers, defined := r.defined + 1 })

def reference (name : String) : Reading Tree := do
  count 1
  match (← get).numbers.lookup name with
  | some number => return .reference number
  | none => fail

def resolveTag (handle name : String) : Reading String := do
  if handle.isEmpty then return name
  else
    match (← get).handles.lookup handle with
    | some stands => return stands ++ name
    | none => fail

def anchor : Reading (Option (Nat × Nat)) := do
  match ← peek with
  | some (.anchor name) =>
    skip
    some <$> define name
  | _ => return none

def tag : Reading (Option String) := do
  match ← peek with
  | some (.tag handle name) =>
    skip
    some <$> resolveTag handle name
  | _ => return none

/-- An anchor and a tag, in either order. -/
def properties : Reading (Option (Nat × Nat) × Option String) := do
  match ← anchor with
  | some a => return (some a, ← tag)
  | none =>
    let t ← tag
    let a ← if t.isSome then anchor else pure none
    return (a, t)

/-- Records what an anchor was put on. -/
def anchored (a : Option (Nat × Nat)) (t : Tree) : Reading Tree := fun r =>
  match a with
  | some (number, order) => some (t, { r with anchors := ⟨number, order, t⟩ :: r.anchors })
  | none => some (t, r)

/-! ## Nodes

`inBlock` says that a block collection may follow, `indentless` that a block list may stand at the
column of the mapping it belongs to. -/

mutual

def node : Nat → Bool → Bool → Reading Tree
  | 0, _, _ => fail
  | n + 1, inBlock, indentless => do
    if let some (.reference name) ← peek then
      skip
      return ← reference name
    let (a, tag) ← properties
    let t ← match ← peek with
      | some .dash =>
        if indentless then do
          count 2
          Tree.list tag <$> indentlessItems n
        else bare n a tag
      | some (.scalar text isPlain) => do
        skip
        count 1
        pure (Tree.scalar (tag.filter (· != "!")) text isPlain)
      | some .openList => do
        skip
        count 2
        Tree.list tag <$> flowItems n true
      | some .openMap => do
        skip
        count 2
        Tree.map tag <$> flowEntries n true
      | some .openBlockList =>
        if inBlock then do
          skip
          count 2
          Tree.list tag <$> blockItems n
        else bare n a tag
      | some .openBlockMap =>
        if inBlock then do
          skip
          count 2
          Tree.map tag <$> blockEntries n
        else bare n a tag
      | _ => bare n a tag
    anchored a t

/-- An anchor or a tag with nothing after it is put on an empty scalar. -/
def bare : Nat → Option (Nat × Nat) → Option String → Reading Tree
  | _, a, tag => do
    count 1
    if a.isSome || tag.isSome then return .scalar tag "" true else fail

/-- The nodes of a block list. -/
def blockItems : Nat → Reading (List Tree)
  | 0 => fail
  | n + 1 => do
    if ← skipIf .dash then
      let t ← if ← isAt [.dash, .closeBlock] then missing else node n true false
      return t :: (← blockItems n)
    else if ← skipIf .closeBlock then return []
    else fail

def indentlessItems : Nat → Reading (List Tree)
  | 0 => fail
  | n + 1 => do
    if ← skipIf .dash then
      let t ← if ← isAt [.dash, .key, .value, .closeBlock] then missing else node n true false
      return t :: (← indentlessItems n)
    else return []

def blockEntries : Nat → Reading (List (Tree × Tree))
  | 0 => fail
  | n + 1 => do
    if ← skipIf .key then
      let k ← if ← isAt [.key, .value, .closeBlock] then missing else node n true true
      let v ←
        if ← skipIf .value then
          if ← isAt [.key, .value, .closeBlock] then missing else node n true true
        else missing
      return (k, v) :: (← blockEntries n)
    else if ← skipIf .closeBlock then return []
    else fail

/-- The nodes of a flow list. An entry `k: v` in it is a mapping of its own. -/
def flowItems : Nat → Bool → Reading (List Tree)
  | 0, _ => fail
  | n + 1, first => do
    if ← skipIf .closeList then return []
    if !first then
      unless ← skipIf .comma do fail
    if ← skipIf .key then
      count 2
      let k ←
        if ← isAt [.value, .comma, .closeList] then
          -- an empty key takes the token after it along
          skip
          missing
        else node n false false
      let v ←
        if ← skipIf .value then
          if ← isAt [.comma, .closeList] then missing else node n false false
        else missing
      return .map none [(k, v)] :: (← flowItems n false)
    else if ← skipIf .closeList then return []
    else
      let t ← node n false false
      return t :: (← flowItems n false)

def flowEntries : Nat → Bool → Reading (List (Tree × Tree))
  | 0, _ => fail
  | n + 1, first => do
    if ← skipIf .closeMap then return []
    if !first then
      unless ← skipIf .comma do fail
    if ← skipIf .key then
      let k ← if ← isAt [.value, .comma, .closeMap] then missing else node n false false
      let v ←
        if ← skipIf .value then
          if ← isAt [.comma, .closeMap] then missing else node n false false
        else missing
      return (k, v) :: (← flowEntries n false)
    else if ← skipIf .closeMap then return []
    else
      let k ← node n false false
      count 1
      return (k, .missing) :: (← flowEntries n false)

end

/-! ## Documents -/

/-- The directives before a document: at most one version, each handle once. -/
def directives : Nat → Bool → List String → Reading Unit
  | 0, _, _ => fail
  | n + 1, versioned, named => do
    match ← peek with
    | some (.version major minor) =>
      if versioned || major != 1 || !(minor == 1 || minor == 2) then fail
      skip
      directives n true named
    | some (.handle name stands) =>
      if named.contains name then fail
      skip
      modify fun r => { r with handles := (name, stands) :: r.handles }
      directives n versioned (name :: named)
    | _ => return ()

def root (n : Nat) : Reading (Option Tree) := do
  match ← peek with
  | none => return none
  | some first =>
    directives n false []
    let explicit ← skipIf .documentStart
    match first, explicit with
    | .version _ _, false | .handle _ _, false => fail
    | _, _ => pure ()
    if explicit && ((← peek).isNone || (← isAt [.documentStart, .documentEnd])) then
      some <$> missing
    else some <$> node n true false

/-- The one document that the tokens make up. -/
def document (tokens : List Token) : Option Document := do
  let fuel := 4 * tokens.length + 8
  let (root, r) ← (root fuel).run
    ⟨tokens, [("!", "!"), ("!!", "tag:yaml.org,2002:")], [], [], 0, 0⟩
  if r.tokens.all (· == .documentEnd) then some ⟨root, r.anchors, r.size⟩ else none

end TreeReader

def Document.ofText? (s : String) : Option Document := do
  TreeReader.document (← Token.ofText? s)

end PipeLoom.Yaml
