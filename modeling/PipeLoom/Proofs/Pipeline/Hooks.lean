import PipeLoom.Proofs.Pipeline.Steps

/-!
# What hooks add

Of a verified catalogue no hook takes part in the setup, so that a pipeline with hooks differs from
the one without them only in the steps that the hooks add, behind all others
(`Catalogue.hooks_only_add`).
-/

namespace PipeLoom

def Selection.withoutHooks (s : Selection) : Selection := { s with hooks := [] }

namespace Catalogue

variable {c : Catalogue} {raw : RawSelection} {s : Selection} {f : Fragment}

/-! ## The selected hooks -/

/-- The hooks of a resolved selection stand in the order of the catalogue. -/
theorem selectedOn_hooks (h : c.resolve raw = .ok s) :
    c.selectedOn s .hooks = (c.values .hooks).filter fun f => s.hooks.contains f.value := by
  have hhooks : s.hooks = c.chosen raw .hooks := (resolve_eq_ok_iff.1 h).2 .hooks
  have hmem : ∀ f ∈ c.values .hooks,
      (s.hooks.contains f.value) = (raw.given .hooks).contains f.value := by
    intro f hf
    rw [Bool.eq_iff_iff, List.contains_iff_mem, List.contains_iff_mem, hhooks, mem_chosen_hooks]
    exact and_iff_right (contains_iff_mem.2 (List.mem_map_of_mem hf))
  rw [List.filter_congr hmem]
  show s.hooks.filterMap _ = _
  rw [hhooks, chosen_hooks, List.filter_map, List.filterMap_map]
  rw [List.filterMap_congr (g := some) fun f hf => ?_, List.filterMap_some]
  · rfl
  · exact get?_eq_some_iff.2 ⟨(List.mem_filter.1 hf).1, rfl⟩

theorem setupOf_selected (hc : c.verify = .ok ()) :
    Pipeline.setupOf (c.selected s) = Pipeline.setupOf (c.coreFragments s) := by
  have hhooks : (c.selectedOn s .hooks).flatMap (·.setup) = [] := by
    refine List.flatMap_eq_nil_iff.2 fun f hf => ?_
    obtain ⟨v, -, hv⟩ := List.mem_filterMap.1 hf
    have hmem := (get?_eq_some_iff.1 hv).1
    exact (verify_eq_ok_iff.1 hc f (mem_list.2 ⟨.hooks, hmem⟩)).setup (c.axis_eq .hooks f hmem)
  unfold Pipeline.setupOf
  rw [selected_eq, List.flatMap_append, hhooks, List.append_nil]

theorem selected_withoutHooks : c.selected s.withoutHooks = c.coreFragments s := by
  rw [selected_eq]
  exact List.append_nil _

theorem mem_fragments_of_withoutHooks {r : FragmentRef} (h : r ∈ s.withoutHooks.fragments) :
    r ∈ s.fragments := by
  rw [mem_fragments] at h ⊢
  cases ha : r.axis with
  | hooks => rw [ha] at h; cases h
  | _ => rw [ha] at h; exact h

/-- Hooks leave the setup as it is and every stage too, but for steps behind those that it has
without them: one for each step that the selected hooks declare for the stage, in the order of the
catalogue. -/
theorem hooks_only_add (hc : c.verify = .ok ()) (hs : c.resolve raw = .ok s) :
    ∃ p p₀, c.compose s = .ok p ∧ c.compose s.withoutHooks = .ok p₀ ∧ p.setup = p₀.setup ∧
      ∀ n, ∃ added, p.stepsIn n = p₀.stepsIn n ++ added ∧
        Adds (p₀.stepsIn n) (((c.values .hooks).filter fun f => s.hooks.contains f.value).flatMap
          (·.declared n)) added := by
  have hp := compose_of_verify hc hs
  have hp₀ := compose_of_found hc fun r hr =>
    exists_find?_of_resolve hs (mem_fragments_of_withoutHooks hr)
  rw [selected_withoutHooks] at hp₀
  refine ⟨_, _, hp, hp₀, setupOf_selected hc, fun n => ?_⟩
  obtain ⟨added, hsteps, hadds⟩ := exists_stepsIn_of_compose hp n
  rw [selectedOn_hooks hs] at hadds
  rw [Pipeline.stepsIn_ofFragments (c.coreFragments s)]
  exact ⟨added, hsteps, hadds⟩

/-- A sound catalogue in which the steps of two hooks have the name of another step, and one of them
would take the name of a third. -/
def crowded : Catalogue :=
  Catalogue.empty.registerAll
    [(Fragment.new .language "go" "Go").addSetup (.run "Set up" "go version"),
      .new .packageManager "gomod" "Go modules", .new .provider "gcp" "Google Cloud",
      ((Fragment.new .service "cloudrun" "Cloud Run").addStep .deploy (.run "Deploy" "deploy")).addStep
        .deploy (.run "Deploy (smoke)" "prepare"),
      (Fragment.new .hooks "smoke" "Smoke test").addStep .deploy (.run "Deploy" "smoke"),
      (Fragment.new .hooks "audit" "Audit").addStep .deploy (.run "Deploy" "audit")]

def crowdedRaw : RawSelection :=
  .ofList [("language", .one "go"), ("package-manager", .one "gomod"), ("provider", .one "gcp"),
    ("service", .one "cloudrun"), ("hooks", .many ["audit", "smoke"])]

def crowdedSelection : Selection := ⟨"go", "gomod", none, "gcp", "cloudrun", ["smoke", "audit"]⟩

example : (Pipeline.stepsOf (crowded.selected crowdedSelection) .deploy).map (·.name) =
    ["Deploy", "Deploy (smoke)", "Deploy (smoke) 2", "Deploy (audit)"] := by decide +kernel

theorem hooks_only_add_crowded :
    crowded.verify = .ok () ∧ crowded.resolve crowdedRaw = .ok crowdedSelection ∧
      ∃ p p₀, crowded.compose crowdedSelection = .ok p ∧
        crowded.compose crowdedSelection.withoutHooks = .ok p₀ ∧ p.setup = p₀.setup ∧
        ∃ added, p.stepsIn .deploy = p₀.stepsIn .deploy ++ added ∧
          Adds (p₀.stepsIn .deploy)
            [("smoke", .run "Deploy" "smoke"), ("audit", .run "Deploy" "audit")] added := by
  have hverify : crowded.verify = .ok () := by decide +kernel
  have hresolve : crowded.resolve crowdedRaw = .ok crowdedSelection :=
    resolve_of_checks (by decide +kernel)
  obtain ⟨p, p₀, hp, hp₀, hsetup, hstages⟩ := hooks_only_add hverify hresolve
  obtain ⟨added, hsteps, hadds⟩ := hstages .deploy
  refine ⟨hverify, hresolve, p, p₀, hp, hp₀, hsetup, added, hsteps, ?_⟩
  have hdeclared : (((crowded.values .hooks).filter fun f =>
      crowdedSelection.hooks.contains f.value).flatMap (·.declared .deploy)) =
      [("smoke", .run "Deploy" "smoke"), ("audit", .run "Deploy" "audit")] := by decide +kernel
  rwa [hdeclared] at hadds

end Catalogue

end PipeLoom
