import PipeLoom.Proofs.Pipeline.EnvReference
import PipeLoom.Proofs.Pipeline.Stages

/-!
# What a composed pipeline warns of

A guard may refer to variables that nothing declares. A pipeline warns of each such reference in its
steps as they are composed, in their order (`Catalogue.warnings_of_compose`).
-/

namespace PipeLoom

/-- A reference to a variable in the guard of a step. -/
structure GuardReference where
  /-- The stage of the step, or `setup`. -/
  scope : String
  step : String
  name : String
  deriving DecidableEq

def GuardReference.warning (r : GuardReference) : String :=
  "step '" ++ r.step ++ "' in " ++ r.scope ++ " guards on env." ++ r.name ++
    ", which no selected fragment declares"

/-- The references in the guard of the step, from left to right. -/
def Step.guardReferences (scope : String) (s : Step) : List GuardReference :=
  ((s.guard.map EnvReference.names).getD []).map (GuardReference.mk scope s.name)

namespace Pipeline

variable {fs : List Fragment} {name : String}

/-- The references in all guards: the setup first, then the stages in order. -/
def guardReferences (p : Pipeline) : List GuardReference :=
  p.setup.flatMap (Step.guardReferences "setup") ++
    p.stages.flatMap fun st => st.steps.flatMap (Step.guardReferences st.name.name)

theorem mem_declaredOf : name ∈ declaredOf fs ↔
    (∃ f ∈ fs, name ∈ f.env.keys ∨ name ∈ f.secrets.keys) ∨ name ∈ builtinEnv := by
  unfold declaredOf Fragment.declaredNames
  simp only [List.mem_append, List.mem_flatMap]

theorem stepWarnings_eq (declared : List String) (scope : String) (s : Step) :
    stepWarnings declared scope s =
      ((s.guardReferences scope).filter (·.name ∉ declared)).map GuardReference.warning := by
  unfold stepWarnings Step.guardReferences
  induction (s.guard.map EnvReference.names).getD [] with
  | nil => rfl
  | cons name names ih =>
    rw [List.filterMap_cons, ih, List.map_cons, List.filter_cons]
    by_cases hname : name ∈ declared
    · simp [hname]
    · simp [hname, GuardReference.warning]

theorem warningsOf_eq (declared : List String) (p : Pipeline) :
    warningsOf declared p.setup p.stages =
      (p.guardReferences.filter (·.name ∉ declared)).map GuardReference.warning := by
  unfold warningsOf guardReferences
  simp only [List.filter_append, List.map_append, List.filter_flatMap, List.map_flatMap,
    funext (stepWarnings_eq declared _)]

end Pipeline

namespace Catalogue

variable {c : Catalogue} {s : Selection} {p : Pipeline} {name : String}

/-- A selected fragment has the variable in its environment or among its secrets, or every workflow
sets it. -/
def Declares (c : Catalogue) (s : Selection) (name : String) : Prop :=
  (∃ f ∈ c.selected s, name ∈ f.env.keys ∨ name ∈ f.secrets.keys) ∨
    name ∈ ["APP_NAME", "EMERGENCY_MODE"]

instance : Decidable (c.Declares s name) := inferInstanceAs (Decidable (_ ∨ _))

/-- A composed pipeline warns of each reference in its guards to a variable that is not declared, in
the order of its setup, of its stages, which is the canonical one, of their steps and of the
references in a guard. So it has no warnings if and only if every reference is declared. -/
theorem warnings_of_compose (h : c.compose s = .ok p) :
    (∀ guard names, EnvReference.RefersTo guard names ↔ names = EnvReference.names guard) ∧
      (p.stages.map Stage.name).Sublist StageName.all ∧
      p.warnings =
        (p.guardReferences.filter (¬c.Declares s ·.name)).map GuardReference.warning ∧
      (p.warnings = [] ↔ ∀ r ∈ p.guardReferences, c.Declares s r.name) := by
  have hwarnings : p.warnings =
      (p.guardReferences.filter (¬c.Declares s ·.name)).map GuardReference.warning := by
    obtain ⟨-, -, rfl⟩ := compose_eq_ok_iff_found.1 h
    have hdeclared (name : String) :
        name ∉ Pipeline.declaredOf (c.selected s) ↔ ¬c.Declares s name :=
      not_congr Pipeline.mem_declaredOf
    refine (Pipeline.warningsOf_eq _ (.ofFragments (c.selected s) s.fragments)).trans ?_
    simp only [hdeclared]
  refine ⟨fun _ _ => EnvReference.refersTo_iff, sublist_of_compose h, hwarnings, ?_⟩
  rw [hwarnings, List.map_eq_nil_iff, List.filter_eq_nil_iff]
  simp only [decide_eq_true_eq, not_not]

/-- Fragments with guards, one of them in a step that is replaced. -/
def guarding : Catalogue :=
  (∅ : Catalogue).registerAll
    [(Fragment.new .language "go" "Go").addStep .test
        ((Step.run "Test" "go test").withGuard "env.GONE"),
      (Fragment.new .packageManager "gomod" "Go modules").addStep .test
        ((Step.run "Test" "go test ./...").withGuard
          "env.CACHE == env.env.CACHE && xenv.LOST || env.TOKEN"),
      (Fragment.new .provider "gcp" "Google Cloud").addEnv "CACHE" "on" |>.addSecret "TOKEN",
      (Fragment.new .service "cloudrun" "Cloud Run").addSetup
        ((Step.run "Sign in" "gcloud auth login").withGuard "env.APP_NAME != env.KEY"),
      (Fragment.new .hooks "smoke" "Smoke test").addStep .test
        ((Step.run "Test" "curl --fail").withGuard "env.PROBE")]

def guardingSelection : Selection := ⟨"go", "gomod", none, "gcp", "cloudrun", ["smoke"]⟩

/-- Nothing is said of the guard that went with its step. The step of the hook has its new name. -/
theorem warnings_of_compose_guarding :
    guarding.resolve guardingSelection.toRaw = .ok guardingSelection ∧
      ∃ p, guarding.compose guardingSelection = .ok p ∧ p.warnings =
        ["step 'Sign in' in setup guards on env.KEY, which no selected fragment declares",
          "step 'Test' in test guards on env.env, which no selected fragment declares",
          "step 'Test (smoke)' in test guards on env.PROBE, " ++
            "which no selected fragment declares"] := by
  have hresolve : guarding.resolve guardingSelection.toRaw = .ok guardingSelection :=
    resolve_of_checks (by decide +kernel)
  have hcompose := compose_of_verify (c := guarding) (by decide +kernel) hresolve
  obtain ⟨-, -, hwarnings, -⟩ := warnings_of_compose hcompose
  exact ⟨hresolve, _, hcompose, hwarnings.trans (by decide +kernel)⟩

end Catalogue

end PipeLoom
