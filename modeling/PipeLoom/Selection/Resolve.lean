import PipeLoom.Catalogue.Basic
import PipeLoom.Selection.Basic
import PipeLoom.Selection.Issue

/-!
# Resolution

Checks a raw selection against a catalogue. Every issue is found in one pass: first keys that name
no axis, then each axis, then conflicts between the chosen fragments, then their unmet requirements.
-/

namespace PipeLoom.Catalogue

variable (c : Catalogue) (raw : RawSelection)

/-- The values that count as chosen: the given hooks that exist, in declaration order, and of any
other axis the only given value if it exists. -/
def chosen (a : Axis) : List String :=
  if a.isMultiValued then ((c.values a).map (·.value)).filter fun v => (raw.given a).contains v
  else
    match raw.given a with
    | [v] => if c.contains a v then [v] else []
    | _ => []

def chosenFragments : List Fragment :=
  Axis.all.flatMap fun a => (c.chosen raw a).filterMap (c.get? a)

def unknownValues (a : Axis) (vs : List String) : List Issue :=
  (vs.filter fun v => !c.contains a v).map (.unknownFragment a)

def axisIssues (a : Axis) : List Issue :=
  let vs := raw.given a
  if a.isMultiValued then c.unknownValues a vs
  else
    match vs with
    | [] => if a.isRequired then [.missingAxis a] else []
    | [_] => c.unknownValues a vs
    | _ => [.multipleValues a vs]

/-- The conflict between two fragments, with the reason of the first if it declares one. -/
def conflict? (f g : Fragment) : Option Issue :=
  (f.exclusionOf? g.ref <|> g.exclusionOf? f.ref).map fun e =>
    .conflict f.ref g.ref (e.reason.getD "mutually exclusive")

/-- The conflicts of every pair, in the order of the list. -/
def conflicts : List Fragment → List Issue
  | [] => []
  | f :: fs => fs.filterMap (conflict? f) ++ conflicts fs

def unmetRequirements : List Issue :=
  (c.chosenFragments raw).flatMap fun f =>
    (f.requires.filter fun r => !r.isSatisfiedBy (c.chosen raw r.axis)).map
      (.unmetRequirement f.ref)

/-- Every reason against the selection. -/
def issues : List Issue :=
  raw.unknownKeys.map .unknownAxis ++ Axis.all.flatMap (c.axisIssues raw) ++
    conflicts ((c.chosenFragments raw).mergeSort fun f g => f.ref.le g.ref) ++
    c.unmetRequirements raw

/-- The selection, or all issues. -/
def resolve : Except (List Issue) Selection :=
  match c.issues raw, c.chosen raw .language, c.chosen raw .packageManager,
      c.chosen raw .provider, c.chosen raw .service with
  | [], [language], [packageManager], [provider], [service] =>
    .ok { language, packageManager, framework := (c.chosen raw .framework).head?, provider, service,
          hooks := c.chosen raw .hooks }
  | is, _, _, _, _ => .error is

end PipeLoom.Catalogue
