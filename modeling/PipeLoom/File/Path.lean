/-!
# Paths

A path is kept as it is written. Its components leave out empty parts and every `.` but a leading
one; paths with the same components are the same path.
-/

namespace PipeLoom

structure Path where
  text : String
  deriving DecidableEq, Repr, Inhabited

namespace Path

/-- The parts between slashes, without the empty ones. -/
def segments (p : Path) : List String :=
  ((p.text.toList.splitOn '/').map String.ofList).filter (· != "")

def isAbsolute (p : Path) : Bool := p.text.toList.head? == some '/'

/-- A path seen from another one, which an absolute path leaves behind. -/
def join (p q : Path) : Path :=
  if q.isAbsolute || p.text.isEmpty then q
  else if p.text.toList.getLast? == some '/' then ⟨p.text ++ q.text⟩
  else ⟨p.text ++ "/" ++ q.text⟩

def child (p : Path) (name : String) : Path := p.join ⟨name⟩

/-- The components; that of the root is a slash. -/
def components (p : Path) : List String :=
  let inner := p.segments.filter (· != ".")
  if p.isAbsolute then "/" :: inner
  else
    match p.segments with
    | "." :: _ => "." :: inner
    | _ => inner

def same (p q : Path) : Bool := p.components == q.components

def ofComponents : List String → Path
  | "/" :: cs => ⟨"/" ++ String.intercalate "/" cs⟩
  | cs => ⟨String.intercalate "/" cs⟩

/-- The path without its last component. The root and the empty path have no parent. -/
def parent? (p : Path) : Option Path :=
  match p.components with
  | [] | ["/"] => none
  | cs => some (ofComponents cs.dropLast)

/-- The parts between slashes as they are written, without those before component `n`. -/
def partsFrom : Nat → List String → List String
  | _, [] => []
  | n, s :: r =>
    if s == "" || s == "." then partsFrom n r
    else
      match n with
      | 0 => s :: r
      | n + 1 => partsFrom n r

/-- What is left of a path below another one, as it is written. -/
def relativeTo? (p root : Path) : Option Path :=
  if !root.components.isPrefixOf p.components then none
  else
    let parts := (p.text.toList.splitOn '/').map String.ofList
    -- the first part is that of the first component, also of a slash or a full stop
    let parts := match root.components.length with
      | 0 => parts
      | n + 1 => partsFrom n (parts.drop 1)
    let parts := (parts.reverse.dropWhile fun s => s == "" || s == ".").reverse
    some ⟨String.intercalate "/" parts⟩

/-- Whether the path can only be that of a directory. -/
def endsInSlash (p : Path) : Bool := p.text.toList.getLast? == some '/'

/-- The part of the last segment from its last full stop on, if that is not its first character. -/
def extension? (p : Path) : Option String :=
  match p.components.getLast? with
  | none => none
  | some name =>
    if name == ".." then none
    else
      let (after, before) := name.toList.reverse.span (· != '.')
      match before with
      | _ :: _ :: _ => some (String.ofList after.reverse)
      | _ => none

end Path

end PipeLoom
