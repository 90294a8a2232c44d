import PipeLoom.Expression
import PipeLoom.Intent
import PipeLoom.StageName

/-!
# Stage guards

A guard decides from the intent whether a stage runs, and prints as the condition of the stage's
job. Only gates may be passed over.
-/

namespace PipeLoom

structure Guard where
  /-- The kinds of intent the stage runs for. -/
  activatesOn : IntentKind → Bool
  /-- Whether an intent that skips gates skips the stage. -/
  gated : Bool

inductive Decision where
  | run | skip
  deriving DecidableEq, Repr

namespace Guard

/-- Deployments activate every stage; validation activates all but the deploying ones. -/
def ofKind (k : StageKind) : Guard where
  activatesOn i := i.isDeploy || (i == .validateOnly && k != .deploy)
  gated := k == .gate

def without (g : Guard) (k : IntentKind) : Guard :=
  { g with activatesOn := fun i => i != k && g.activatesOn i }

def restrictedTo (g : Guard) (ks : List IntentKind) : Guard :=
  { g with activatesOn := fun i => ks.contains i && g.activatesOn i }

/-- The activating kinds, in order. -/
def kinds (g : Guard) : List IntentKind := IntentKind.all.filter g.activatesOn

def isNever (g : Guard) : Bool := g.kinds.isEmpty

def evaluate (g : Guard) (i : Intent) : Decision :=
  if g.activatesOn i.kind && !(g.gated && i.skipsGates) then .run else .skip

/-- The guard over outputs of the classifying job, found under the given path. -/
def condition (g : Guard) (outputs : String) : Expression :=
  let isIntent (k : IntentKind) : Expression :=
    .equal (.context (outputs ++ ".intent")) (.text k.name)
  let intents := Expression.anyOf (g.kinds.map isIntent)
  if g.isNever then .literal false
  else if g.gated && g.activatesOn .deployProductionHotfix then
    .both (.group intents) (.differ (.context (outputs ++ ".skip_gates")) (.text "true"))
  else if g.kinds.length > 1 then .group intents
  else intents

end Guard

end PipeLoom
