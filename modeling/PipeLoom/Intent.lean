import PipeLoom.Text.Blank
import PipeLoom.Text.Caseless
import PipeLoom.Text.Substring

/-!
# Events and intents

An event may start a pipeline; the intent says what the pipeline then does.
-/

namespace PipeLoom

/-- A repository event. -/
inductive Event where
  | pullRequest
  | tagPush (tag : String)
  | releasePublished (tag : String)
  | workflowDispatch
  deriving DecidableEq, Repr

namespace Event

/-- The event named in any letter case, with hyphens or underscores; the two tag events need a tag
and the others ignore one. -/
def ofParts? (event : String) (tag : Option String) : Option Event :=
  let word := Text.replaceChar '-' '_' (Text.lower (Text.trim event))
  if ["pull_request", "pr"].contains word then some pullRequest
  else if ["workflow_dispatch", "dispatch"].contains word then some workflowDispatch
  else if ["tag_push", "push", "tag"].contains word then tag.map tagPush
  else if ["release_published", "release"].contains word then tag.map releasePublished
  else none

/-- The event's name without its tag. -/
def name : Event → String
  | pullRequest => "pull_request"
  | tagPush _ => "tag_push"
  | releasePublished _ => "release_published"
  | workflowDispatch => "workflow_dispatch"

def tag? : Event → Option String
  | tagPush tag | releasePublished tag => some tag
  | _ => none

def text (e : Event) : String :=
  match e.tag? with
  | some tag => e.name ++ "(" ++ tag ++ ")"
  | none => e.name

end Event

inductive IntentKind where
  | validateOnly | deployStaging | deployProduction | deployProductionHotfix | noOp
  deriving DecidableEq, Repr

namespace IntentKind

def all : List IntentKind :=
  [validateOnly, deployStaging, deployProduction, deployProductionHotfix, noOp]

theorem mem_all (k : IntentKind) : k ∈ all := by cases k <;> decide

def name : IntentKind → String
  | validateOnly => "validate-only"
  | deployStaging => "deploy-staging"
  | deployProduction => "deploy-production"
  | deployProductionHotfix => "deploy-production-hotfix"
  | noOp => "no-op"

def ofName? (s : String) : Option IntentKind := all.find? fun k => k.name == s

/-- The environment that a deployment of this kind reaches. -/
def environment? : IntentKind → Option String
  | deployStaging => some "staging"
  | deployProduction | deployProductionHotfix => some "production"
  | validateOnly | noOp => none

def isDeploy (k : IntentKind) : Bool := k.environment?.isSome

end IntentKind

inductive Intent where
  | validateOnly | deployStaging | deployProduction
  | deployProductionHotfix (skipGates : Bool)
  | noOp
  deriving DecidableEq, Repr

namespace Intent

def kind : Intent → IntentKind
  | validateOnly => .validateOnly
  | deployStaging => .deployStaging
  | deployProduction => .deployProduction
  | deployProductionHotfix _ => .deployProductionHotfix
  | noOp => .noOp

/-- Whether the lint and test gates are passed over. -/
def skipsGates : Intent → Bool
  | deployProductionHotfix skipGates => skipGates
  | _ => false

def environment? (i : Intent) : Option String := i.kind.environment?

def name (i : Intent) : String := i.kind.name

def text : Intent → String
  | deployProductionHotfix skipGates =>
    IntentKind.deployProductionHotfix.name ++ " (skip_gates=" ++
      (if skipGates then "true" else "false") ++ ")"
  | i => i.name

end Intent

end PipeLoom
