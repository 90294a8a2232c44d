/-!
# TOML values

Values, and tables that are put together entry by entry. How a table came to be decides what may
still be added to it: a table under a header is defined once, one that only a longer header implies
may get a header of its own, and one made by dotted keys takes further dotted keys only.
-/

namespace PipeLoom.Toml

/-- How a table is written. -/
inductive TableForm where
  /-- Under its own header. -/
  | header
  /-- Only by headers of tables in it. -/
  | implied
  /-- By dotted keys. -/
  | dotted
  /-- Between braces. -/
  | inline
  /-- By dotted keys between braces. -/
  | inlineDotted
  deriving DecidableEq, Repr

inductive Value where
  | text (value : String)
  | number
  | bool (value : Bool)
  /-- A date, a time of day or both. -/
  | moment
  | list (items : List Value)
  | table (form : TableForm) (entries : List (String × Value))
  /-- Tables under headers in double brackets. -/
  | tables (elements : List Value)
  deriving Inhabited

namespace Value

/-- Puts a value at a key, in place of an earlier one. -/
def setEntry (k : String) (v : Value) : List (String × Value) → List (String × Value)
  | [] => [(k, v)]
  | e :: es => if e.1 = k then (k, v) :: es else e :: setEntry k v es

/-! ## Headers -/

/-- Changes the table on the path of a header. Tables on the way are made as needed; of tables in
double brackets the last one is meant. -/
def atHeader (change : Value → Option Value) : List String → Value → Option Value
  | [], t => change t
  | k :: ks, .table form es =>
    match es.lookup k with
    | none => do
      return .table form (setEntry k (← atHeader change ks (.table .implied [])) es)
    | some (.tables ts) => do
      let last ← ts.getLast?
      return .table form (setEntry k (.tables (ts.dropLast ++ [← atHeader change ks last])) es)
    | some (.table .inline _) | some (.table .inlineDotted _) => none
    | some (.table f fs) => do
      return .table form (setEntry k (← atHeader change ks (.table f fs)) es)
    | some _ => none
  | _, _ => none

/-- Opens the table of a header. -/
def open? (key : String) : Value → Option Value
  | .table form es =>
    match es.lookup key with
    | none => some (.table form (setEntry key (.table .header []) es))
    | some (.table .implied fs) => some (.table form (setEntry key (.table .header fs) es))
    | some _ => none
  | _ => none

/-- Adds a table under a header in double brackets. -/
def append? (key : String) : Value → Option Value
  | .table form es =>
    match es.lookup key with
    | none => some (.table form (setEntry key (.tables [.table .header []]) es))
    | some (.tables ts) =>
      some (.table form (setEntry key (.tables (ts ++ [.table .header []])) es))
    | some _ => none
  | _ => none

/-! ## Keys -/

/-- Adds an entry to a table that has none at the key. -/
def add? (key : String) (v : Value) : Value → Option Value
  | .table form es =>
    match es.lookup key with
    | none => some (.table form (es ++ [(key, v)]))
    | some _ => none
  | _ => none

/-- Adds an entry at a dotted key. Tables on the way are made as needed and come from dotted keys
themselves; `made` is the form of new ones. -/
def addDotted? (made : TableForm) (key : String) (v : Value) : List String → Value → Option Value
  | [], t => add? key v t
  | k :: ks, .table form es => do
    let changed ←
      match es.lookup k with
      | none => addDotted? made key v ks (.table made [])
      | some (.tables ts) => do
        let last ← ts.getLast?
        if ks.isEmpty then none
        return .tables (ts.dropLast ++ [← addDotted? made key v ks last])
      | some (.table .implied fs) =>
        if ks.isEmpty then none else addDotted? made key v ks (.table .implied fs)
      | some (.table .dotted fs) =>
        if made = .dotted then addDotted? made key v ks (.table .dotted fs) else none
      | some (.table .inlineDotted fs) =>
        if made = .inlineDotted then addDotted? made key v ks (.table .inlineDotted fs) else none
      | some _ => none
    return .table form (setEntry k changed es)
  | _, _ => none

end Value

end PipeLoom.Toml
