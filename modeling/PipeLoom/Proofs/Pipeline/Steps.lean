import PipeLoom.Proofs.Pipeline.Composable
import PipeLoom.Proofs.Pipeline.Overriding
import PipeLoom.Proofs.Pipeline.Renaming

/-!
# The steps of a composed pipeline

The fragments that are no hooks override one another, and behind their steps those of the hooks are
added. So a stage begins with the last step of each name, in the order in which the names first occur
(`Catalogue.compose_merges_core`), and no two of its steps have one name
(`Catalogue.names_distinct_of_compose`).
-/

namespace PipeLoom

/-- The axes whose fragments are no hooks, in precedence order. -/
def Axis.core : List Axis := [language, packageManager, framework, provider, service]

theorem Axis.hooks_notMem_core : hooks ∉ core := by decide

namespace Fragment

/-- The steps that a hook declares for a stage, each with the hook. -/
def declared (f : Fragment) (n : StageName) : List (String × Step) :=
  (f.stepsFor n).map fun s => (f.value, s)

theorem stepsFor_eq_nil {f : Fragment} {n : StageName} (h : f.targets n = false) :
    f.stepsFor n = [] := by
  have hnone : f.contributions.filter (fun k => k.stageName? == some n) = [] :=
    List.filter_eq_nil_iff.2 (List.any_eq_false.1 h)
  unfold stepsFor
  rw [hnone, List.flatMap_nil]

theorem distinctNames_place {steps : List Step} (h : DistinctNames steps) (f : Fragment) (s : Step) :
    DistinctNames (f.place steps s) := by
  unfold place
  split
  · exact h.appendHook s f.value
  · exact h.override s

end Fragment

namespace Pipeline

variable {fs gs : List Fragment} {n : StageName}

/-- The steps of a stage, none if the pipeline does not have it. -/
def stepsIn (p : Pipeline) (n : StageName) : List Step := ((p.stage? n).map (·.steps)).getD []

/-- Adds the steps of fragments for a stage to those that are there. -/
theorem stepsOf_append : stepsOf (fs ++ gs) n =
    gs.foldl (fun steps f => (f.stepsFor n).foldl f.place steps) (stepsOf fs n) := List.foldl_append

theorem stepsOf_eq_nil (h : ∀ f ∈ fs, f.targets n = false) : stepsOf fs n = [] := by
  unfold stepsOf
  induction fs with
  | nil => rfl
  | cons f fs ih =>
    rw [List.foldl_cons, Fragment.stepsFor_eq_nil (h f List.mem_cons_self)]
    exact ih fun g hg => h g (List.mem_cons_of_mem _ hg)

theorem stepsIn_ofFragments (fs : List Fragment) (refs : List FragmentRef) (n : StageName) :
    (ofFragments fs refs).stepsIn n = stepsOf fs n := by
  show (((stagesOf fs).find? (·.name == n)).map (·.steps)).getD [] = _
  have hfind : (stagesOf fs).find? (·.name == n) =
      ((StageName.all.filter fun m => fs.any (·.targets m)).find? (· == n)).map
        fun m => Stage.new m (stepsOf fs m) := by
    unfold stagesOf
    rw [List.find?_map]
    rfl
  rw [hfind]
  cases hn : (StageName.all.filter fun m => fs.any (·.targets m)).find? (· == n) with
  | some m =>
    have hmn : (m == n) = true := List.find?_some (p := (· == n)) hn
    rw [eq_of_beq hmn]
    rfl
  | none =>
    have hany : ¬fs.any (·.targets n) = true := fun h =>
      List.find?_eq_none.1 hn n (List.mem_filter.2 ⟨n.mem_all, h⟩) (beq_self_eq_true n)
    rw [stepsOf_eq_nil fun f hf =>
      Bool.eq_false_iff.2 fun hf' => hany (List.any_eq_true.2 ⟨f, hf, hf'⟩)]
    rfl

/-- Fragments that are no hooks override one another. -/
theorem stepsOf_core (h : ∀ f ∈ fs, f.isHook = false) :
    stepsOf fs n =
      (fs.flatMap (·.stepsFor n)).foldl (fun steps s => overrideStep s steps) [] := by
  rw [List.foldl_flatMap]
  unfold stepsOf
  refine List.foldl_ext _ _ _ fun steps f hf => ?_
  refine List.foldl_ext _ _ _ fun steps s _ => ?_
  rw [Fragment.place, h f hf]
  rfl

/-- Hooks add their steps behind those that are there. -/
theorem foldl_hooks (h : ∀ f ∈ fs, f.isHook = true) (before : List Step) :
    fs.foldl (fun steps f => (f.stepsFor n).foldl f.place steps) before =
      (fs.flatMap (·.declared n)).foldl (fun steps d => appendHookStep steps d.2 d.1) before := by
  rw [List.foldl_flatMap]
  refine List.foldl_ext _ _ _ fun steps f hf => ?_
  unfold Fragment.declared
  rw [List.foldl_map]
  refine List.foldl_ext _ _ _ fun steps s _ => ?_
  rw [Fragment.place, h f hf]
  rfl

theorem distinctNames_stepsOf (fs : List Fragment) (n : StageName) :
    DistinctNames (stepsOf fs n) := by
  refine List.foldlRecOn (motive := DistinctNames) fs _ .nil fun steps hsteps f _ => ?_
  exact List.foldlRecOn (motive := DistinctNames) _ _ hsteps fun steps hsteps s _ =>
    f.distinctNames_place hsteps s

end Pipeline

namespace Catalogue

variable {c : Catalogue} {raw : RawSelection} {s : Selection} {p : Pipeline} {f : Fragment}

/-! ## The selected fragments -/

/-- The selected fragments of an axis. -/
def selectedOn (c : Catalogue) (s : Selection) (a : Axis) : List Fragment :=
  (s.values a).filterMap (c.get? a)

/-- The selected fragments that are no hooks, in precedence order. -/
def coreFragments (c : Catalogue) (s : Selection) : List Fragment :=
  Axis.core.flatMap (c.selectedOn s)

theorem axis_of_mem_selectedOn {a : Axis} (h : f ∈ c.selectedOn s a) : f.axis = a := by
  obtain ⟨v, -, hv⟩ := List.mem_filterMap.1 h
  exact congrArg FragmentRef.axis (ref_of_get? hv)

theorem selected_eq : c.selected s = c.coreFragments s ++ c.selectedOn s .hooks := by
  have hall : c.selected s = Axis.all.flatMap (c.selectedOn s) := by
    unfold selected Selection.fragments selectedOn
    rw [List.filterMap_flatMap]
    simp only [List.filterMap_map]
    rfl
  rw [hall, show Axis.all = Axis.core ++ [.hooks] from rfl, List.flatMap_append]
  exact congrArg _ (List.flatMap_singleton _ _)

theorem isHook_of_mem_core (h : f ∈ c.coreFragments s) : f.isHook = false := by
  obtain ⟨a, ha, hf⟩ := List.mem_flatMap.1 h
  unfold Fragment.isHook
  rw [axis_of_mem_selectedOn hf, beq_eq_false_iff_ne]
  rintro rfl
  exact Axis.hooks_notMem_core ha

theorem isHook_of_mem_hooks (h : f ∈ c.selectedOn s .hooks) : f.isHook = true := by
  unfold Fragment.isHook
  rw [axis_of_mem_selectedOn h]
  rfl

/-! ## Stages -/

theorem merges_stepsOf_core (c : Catalogue) (s : Selection) (n : StageName) :
    Merges ((c.coreFragments s).flatMap (·.stepsFor n))
      (Pipeline.stepsOf (c.coreFragments s) n) := by
  rw [Pipeline.stepsOf_core fun f => isHook_of_mem_core]
  exact merges_foldl _

/-- Behind the steps of the fragments that are no hooks, those of the hooks are added. -/
theorem exists_stepsIn_of_compose (h : c.compose s = .ok p) (n : StageName) :
    ∃ added, p.stepsIn n = Pipeline.stepsOf (c.coreFragments s) n ++ added ∧
      Adds (Pipeline.stepsOf (c.coreFragments s) n)
        ((c.selectedOn s .hooks).flatMap (·.declared n)) added := by
  obtain ⟨-, -, rfl⟩ := compose_eq_ok_iff_found.1 h
  obtain ⟨added, hadded, hall⟩ := exists_adds (Pipeline.stepsOf (c.coreFragments s) n)
    ((c.selectedOn s .hooks).flatMap (·.declared n))
  refine ⟨added, ?_, hall⟩
  rw [Pipeline.stepsIn_ofFragments, selected_eq, Pipeline.stepsOf_append,
    Pipeline.foldl_hooks fun f => isHook_of_mem_hooks, hadded]

/-- The steps of a stage begin with one step for each name in what the fragments that are no hooks
contribute to it: at the place where the name first occurs, and as it last occurs. The setup is made
up in this way of what all fragments contribute to it. -/
theorem compose_merges_core (h : c.compose s = .ok p) :
    Merges ((c.selected s).flatMap (·.setup)) p.setup ∧
      ∀ n, ∃ core rest, p.stepsIn n = core ++ rest ∧
        Merges ((c.coreFragments s).flatMap (·.stepsFor n)) core := by
  refine ⟨?_, fun n => ?_⟩
  · obtain ⟨-, -, rfl⟩ := compose_eq_ok_iff_found.1 h
    exact merges_foldl _
  · obtain ⟨rest, hsteps, -⟩ := exists_stepsIn_of_compose h n
    exact ⟨_, rest, hsteps, merges_stepsOf_core c s n⟩

/-- A catalogue that is not sound: a fragment repeats names, in one contribution and in two, and
steps are named as if a hook had been renamed. -/
def careless : Catalogue :=
  Catalogue.empty.registerAll
    [{ Fragment.new .language "go" "Go" with
        setup := [.run "Set up" "first", .run "Set up" "second"]
        contributions := [⟨"build", [.run "Build" "first", .run "Vet" "vet", .run "Build" "second"]⟩,
          ⟨"build", [.run "Build" "third"]⟩] },
      .new .packageManager "gomod" "Go modules", .new .provider "gcp" "Google Cloud",
      { Fragment.new .service "cloudrun" "Cloud Run" with
        contributions := [⟨"deploy", [.run "Deploy" "deploy", .run "Deploy (smoke)" "",
          .run "Deploy (smoke) 2" ""]⟩] },
      { Fragment.new .hooks "smoke" "Smoke test" with
        contributions := [⟨"deploy", [.run "Deploy" "smoke", .run "Deploy" "again"]⟩] }]

def carelessSelection : Selection := ⟨"go", "gomod", none, "gcp", "cloudrun", ["smoke"]⟩

theorem exists_compose_careless : ∃ p, careless.compose carelessSelection = .ok p :=
  Except.exists_ok_of_isOk (by decide +kernel)

example : Pipeline.stepsOf (careless.selected carelessSelection) .build =
    [.run "Build" "third", .run "Vet" "vet"] := by decide +kernel

theorem compose_merges_core_careless :
    ∃ p, careless.compose carelessSelection = .ok p ∧ p.setup.map (·.name) = ["Set up"] ∧
      ∃ core rest, p.stepsIn .deploy = core ++ rest ∧
        core.map (·.name) = ["Deploy", "Deploy (smoke)", "Deploy (smoke) 2"] := by
  obtain ⟨p, hp⟩ := exists_compose_careless
  obtain ⟨hsetup, hstages⟩ := compose_merges_core hp
  obtain ⟨core, rest, hsteps, hcore⟩ := hstages .deploy
  refine ⟨p, hp, ?_, core, rest, hsteps, ?_⟩
  · rw [hsetup.names]
    decide +kernel
  · rw [hcore.names]
    decide +kernel

/-- No two steps of a stage have one name, and no two steps of the setup, whatever the catalogue. -/
theorem names_distinct_of_compose (h : c.compose s = .ok p) :
    DistinctNames p.setup ∧ ∀ st ∈ p.stages, DistinctNames st.steps := by
  obtain ⟨-, -, rfl⟩ := compose_eq_ok_iff_found.1 h
  refine ⟨DistinctNames.nil.overrideAll _, fun st hst => ?_⟩
  obtain ⟨n, -, rfl⟩ := List.mem_map.1 hst
  exact Pipeline.distinctNames_stepsOf _ n

theorem names_distinct_of_compose_careless :
    ∃ p, careless.compose carelessSelection = .ok p ∧ DistinctNames p.setup ∧
      ∀ st ∈ p.stages, DistinctNames st.steps := by
  obtain ⟨p, hp⟩ := exists_compose_careless
  exact ⟨p, hp, names_distinct_of_compose hp⟩

end Catalogue

end PipeLoom
