import PipeLoom.Catalogue.Basic

/-!
# Integrity of a catalogue

A catalogue is sound when every fragment is well formed and names only stages and fragments that
exist. `faults` lists every breach, fragment by fragment.
-/

namespace PipeLoom

/-- What is wrong with one fragment of a catalogue. -/
inductive Fault where
  | hookSetup (fragment : FragmentRef)
  | repeatedStep (fragment : FragmentRef) (step scope : String)
  | undefinedStage (fragment : FragmentRef) (stage : String)
  | hookStage (fragment : FragmentRef) (stage : StageName)
  | emptyContribution (fragment : FragmentRef) (stage : StageName)
  | repeatedStage (fragment : FragmentRef) (stage : String)
  | emptyRequirement (fragment : FragmentRef) (axis : Axis)
  | unknownRequirement (fragment needed : FragmentRef)
  | selfExclusion (fragment : FragmentRef)
  | unknownExclusion (fragment excluded : FragmentRef)
  deriving DecidableEq, Repr

namespace Fault

/-- The fragment at fault. -/
def fragment : Fault → FragmentRef
  | hookSetup f | repeatedStep f _ _ | undefinedStage f _ | hookStage f _ | emptyContribution f _
  | repeatedStage f _ | emptyRequirement f _ | unknownRequirement f _ | selfExclusion f
  | unknownExclusion f _ => f

def text : Fault → String
  | hookSetup f => f.text ++ ": hook fragments cannot contribute setup steps"
  | repeatedStep f step scope => f.text ++ ": duplicate step name '" ++ step ++ "' in " ++ scope
  | undefinedStage f stage => f.text ++ ": references undefined stage '" ++ stage ++ "'"
  | hookStage f stage =>
    f.text ++ ": only hooks may contribute to the '" ++ stage.name ++ "' sub-stage"
  | emptyContribution f stage => f.text ++ ": empty contribution to stage '" ++ stage.name ++ "'"
  | repeatedStage f stage => f.text ++ ": more than one contribution to stage '" ++ stage ++ "'"
  | emptyRequirement f axis => f.text ++ ": empty requirement on " ++ axis.name
  | unknownRequirement f needed => f.text ++ ": requires unknown fragment " ++ needed.text
  | selfExclusion f => f.text ++ ": excludes itself"
  | unknownExclusion f excluded => f.text ++ ": excludes unknown fragment " ++ excluded.text

end Fault

/-- The members that stand in `seen` or earlier in the list. -/
def repeats (seen : List String) : List String → List String
  | [] => []
  | x :: xs => if seen.contains x then x :: repeats seen xs else repeats (x :: seen) xs

theorem repeats_eq_nil_iff {seen xs : List String} :
    repeats seen xs = [] ↔ xs.Nodup ∧ ∀ x ∈ xs, x ∉ seen := by
  induction xs generalizing seen with
  | nil => simp [repeats]
  | cons x xs ih =>
    simp only [repeats]
    split
    · rename_i h
      have : x ∈ seen := by simpa using h
      simp [this]
    · rename_i h
      have hx : x ∉ seen := by simpa using h
      rw [ih, List.nodup_cons]
      constructor
      · rintro ⟨hn, hs⟩
        refine ⟨⟨fun hm => hs x hm (List.mem_cons_self ..), hn⟩, fun y hy => ?_⟩
        rcases List.mem_cons.1 hy with rfl | hy
        · exact hx
        · exact fun hm => hs y hy (List.mem_cons_of_mem _ hm)
      · rintro ⟨⟨hm, hn⟩, hs⟩
        refine ⟨hn, fun y hy hc => ?_⟩
        rcases List.mem_cons.1 hc with rfl | hc
        · exact hm hy
        · exact hs y (List.mem_cons_of_mem _ hy) hc

namespace Fragment

def repeatedSteps (f : Fragment) (scope : String) (steps : List Step) : List Fault :=
  (repeats [] (steps.map (·.name))).map (.repeatedStep f.ref · scope)

def setupFaults (f : Fragment) : List Fault :=
  (if f.isHook && !f.setup.isEmpty then [.hookSetup f.ref] else []) ++
    f.repeatedSteps "setup" f.setup

/-- A contribution to an undefined stage has no other fault. -/
def contributionFaults (f : Fragment) (c : Contribution) : List Fault :=
  match c.stageName? with
  | none => [.undefinedStage f.ref c.stage]
  | some stage =>
    (if stage.isHookStage && !f.isHook then [.hookStage f.ref stage] else []) ++
      (if c.steps.isEmpty then [.emptyContribution f.ref stage] else []) ++
      f.repeatedSteps stage.name c.steps

def stageFaults (f : Fragment) : List Fault :=
  f.contributions.flatMap f.contributionFaults ++
    (repeats [] (f.contributions.map (·.stage))).map (.repeatedStage f.ref)

def requirementFaults (c : Catalogue) (f : Fragment) (r : Requirement) : List Fault :=
  (if r.anyOf.isEmpty then [.emptyRequirement f.ref r.axis] else []) ++
    (r.anyOf.filter fun v => !c.contains r.axis v).map fun v =>
      .unknownRequirement f.ref ⟨r.axis, v⟩

def exclusionFaults (c : Catalogue) (f : Fragment) (e : Exclusion) : List Fault :=
  if e.fragment = f.ref then [.selfExclusion f.ref]
  else if (c.find? e.fragment).isNone then [.unknownExclusion f.ref e.fragment]
  else []

/-- Every fault of a fragment that stands in the catalogue. -/
def faults (c : Catalogue) (f : Fragment) : List Fault :=
  f.setupFaults ++ f.stageFaults ++ f.requires.flatMap (requirementFaults c f) ++
    f.excludes.flatMap (exclusionFaults c f)

end Fragment

namespace Catalogue

def faults (c : Catalogue) : List Fault := c.list.flatMap (Fragment.faults c)

/-- Fails with every fault found. -/
def verify (c : Catalogue) : Except (List Fault) Unit :=
  match c.faults with
  | [] => .ok ()
  | fs => .error fs

end Catalogue

end PipeLoom
