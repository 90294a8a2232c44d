import PipeLoom.Proofs.Pipeline.Composable

/-!
# The stages of a composed pipeline

A pipeline has a stage where a selected fragment contributes to it, whatever the order in which the
fragments contribute (`Catalogue.stages_of_compose`). The steps of a stage are only ever replaced or
added to, so that no stage is empty if no contribution is.
-/

namespace PipeLoom

namespace Fragment

variable {c : Catalogue} {f : Fragment} {n : StageName} {s : Step} {steps ss : List Step}

/-- The fragment has a contribution for the stage, be it without steps. -/
def ContributesTo (f : Fragment) (n : StageName) : Prop := ∃ k ∈ f.contributions, k.stage = n.name

instance (f : Fragment) (n : StageName) : Decidable (f.ContributesTo n) :=
  inferInstanceAs (Decidable (∃ k ∈ f.contributions, _))

theorem targets_iff : f.targets n = true ↔ f.ContributesTo n := by
  unfold targets ContributesTo
  simp only [List.any_eq_true, beq_iff_eq, Contribution.stageName?_eq_some_iff]

/-- A hook stage has only hooks, or nothing is composed. -/
theorem isHook_of_contributesTo (h : ¬f.Misplaced) (hn : f.ContributesTo n)
    (hhook : n.isHookStage = true) : f.axis = .hooks := by
  obtain ⟨k, hk, hstage⟩ := hn
  by_contra hne
  refine h ⟨k, hk, .inr ⟨hne, ?_⟩⟩
  rw [hstage]
  exact StageName.name_mem_hookStages.2 hhook

/-! ## Steps are not lost -/

theorem overrideStep_ne_nil : overrideStep s steps ≠ [] := by
  cases steps with
  | nil => exact List.cons_ne_nil _ _
  | cons t ts =>
    unfold overrideStep
    split
    · exact List.cons_ne_nil _ _
    · exact List.cons_ne_nil _ _

theorem place_ne_nil : f.place steps s ≠ [] := by
  unfold place
  split
  · exact List.append_ne_nil_of_right_ne_nil _ (List.cons_ne_nil _ _)
  · exact overrideStep_ne_nil

theorem foldl_place_ne_nil (h : steps ≠ [] ∨ ss ≠ []) : ss.foldl f.place steps ≠ [] := by
  induction ss generalizing steps with
  | nil => exact h.resolve_right (not_not_intro rfl)
  | cons s ss ih => exact ih (.inl place_ne_nil)

/-- A sound fragment has steps for every stage that it contributes to. -/
theorem Sound.stepsFor_ne_nil (h : f.Sound c) (hn : f.ContributesTo n) : f.stepsFor n ≠ [] := by
  obtain ⟨k, hk, hstage⟩ := hn
  have hname : k.stageName? = some n := Contribution.stageName?_eq_some_iff.2 hstage
  unfold stepsFor
  rw [ne_eq, List.flatMap_eq_nil_iff]
  intro hall
  exact (h.contributions k hk).steps (hall k (List.mem_filter.2 ⟨hk, by simp [hname]⟩))

end Fragment

namespace Pipeline

variable {fs : List Fragment} {f : Fragment} {n : StageName} {st : Stage}

theorem stepsOf_ne_nil (hf : f ∈ fs) (h : f.stepsFor n ≠ []) : stepsOf fs n ≠ [] := by
  obtain ⟨before, after, rfl⟩ := List.append_of_mem hf
  unfold stepsOf
  rw [List.foldl_append, List.foldl_cons]
  refine List.foldlRecOn (motive := (· ≠ [])) after _ ?_ fun steps hsteps g _ => ?_
  · exact Fragment.foldl_place_ne_nil (.inr h)
  · exact Fragment.foldl_place_ne_nil (.inl hsteps)

theorem names_stagesOf (fs : List Fragment) :
    (stagesOf fs).map Stage.name = StageName.all.filter fun n => fs.any (·.targets n) := by
  unfold stagesOf
  rw [List.map_map]
  exact List.map_id _

theorem mem_names_stagesOf :
    n ∈ (stagesOf fs).map Stage.name ↔ ∃ f ∈ fs, f.ContributesTo n := by
  rw [names_stagesOf, List.mem_filter, List.any_eq_true]
  simp only [StageName.mem_all, true_and, Fragment.targets_iff]

theorem guard_of_mem_stagesOf (h : st ∈ stagesOf fs) : st.guard = .ofKind st.name.kind := by
  obtain ⟨n, -, rfl⟩ := List.mem_map.1 h
  rfl

theorem steps_of_mem_stagesOf (h : st ∈ stagesOf fs) : st.steps = stepsOf fs st.name := by
  obtain ⟨n, -, rfl⟩ := List.mem_map.1 h
  rfl

end Pipeline

namespace Catalogue

variable {c : Catalogue} {s : Selection} {p : Pipeline} {f : Fragment} {n : StageName} {st : Stage}

theorem guard_of_compose (h : c.compose s = .ok p) (hst : st ∈ p.stages) :
    st.guard = .ofKind st.name.kind := by
  obtain ⟨-, -, rfl⟩ := compose_eq_ok_iff_found.1 h
  exact Pipeline.guard_of_mem_stagesOf hst

/-- Composition takes the stages in canonical order. -/
theorem sublist_of_compose (h : c.compose s = .ok p) :
    (p.stages.map Stage.name).Sublist StageName.all := by
  obtain ⟨-, -, rfl⟩ := compose_eq_ok_iff_found.1 h
  show ((Pipeline.stagesOf (c.selected s)).map Stage.name).Sublist StageName.all
  rw [Pipeline.names_stagesOf]
  exact List.filter_sublist

/-- Composition puts no stage into a pipeline twice. -/
theorem nodup_of_compose (h : c.compose s = .ok p) : (p.stages.map Stage.name).Nodup :=
  List.Nodup.sublist (sublist_of_compose h) (by decide)

theorem contributed_of_compose (h : c.compose s = .ok p) :
    n ∈ p.stages.map Stage.name ↔ ∃ f ∈ c.selected s, f.ContributesTo n := by
  obtain ⟨-, -, rfl⟩ := compose_eq_ok_iff_found.1 h
  exact Pipeline.mem_names_stagesOf

theorem steps_ne_nil_of_compose (h : c.compose s = .ok p) (hc : c.verify = .ok ())
    (hst : st ∈ p.stages) : st.steps ≠ [] := by
  obtain ⟨f, hf, hcontributes⟩ := (contributed_of_compose h).1 (List.mem_map_of_mem hst)
  obtain ⟨-, -, rfl⟩ := compose_eq_ok_iff_found.1 h
  rw [Pipeline.steps_of_mem_stagesOf hst]
  exact Pipeline.stepsOf_ne_nil hf ((sound_of_mem_selected hc hf).stepsFor_ne_nil hcontributes)

/-- A composed pipeline has the stages that selected fragments contribute to and no others, each
once and in canonical order, with the guard of its kind. A hook stage is there because of a selected
hook. With a verified catalogue every stage has steps. -/
theorem stages_of_compose (h : c.compose s = .ok p) :
    (∀ n, n ∈ p.stages.map Stage.name ↔ ∃ f ∈ c.selected s, f.ContributesTo n) ∧
      (p.stages.map Stage.name).Nodup ∧ (p.stages.map Stage.name).Sublist StageName.all ∧
      ∀ st ∈ p.stages, st.guard = .ofKind st.name.kind ∧
        (c.verify = .ok () → st.steps ≠ []) ∧
        (st.name.isHookStage = true →
          ∃ f ∈ c.selected s, f.axis = .hooks ∧ f.ContributesTo st.name) := by
  refine ⟨fun n => contributed_of_compose h, nodup_of_compose h, sublist_of_compose h,
    fun st hst => ⟨guard_of_compose h hst, fun hc => steps_ne_nil_of_compose h hc hst, ?_⟩⟩
  intro hhook
  obtain ⟨f, hf, hcontributes⟩ := (contributed_of_compose h).1 (List.mem_map_of_mem hst)
  have hplaced := (compose_eq_ok_iff_found.1 h).2.1 f hf
  exact ⟨f, hf, Fragment.isHook_of_contributesTo hplaced hcontributes hhook, hcontributes⟩

/-- The sample's hooks bring two hook stages; no stage comes of a hook that is not selected. -/
theorem stages_of_compose_sample :
    builtin.verify = .ok () ∧ ∃ p, builtin.compose sample = .ok p ∧
      .preDeploy ∈ p.stages.map Stage.name ∧ .postDeploy ∈ p.stages.map Stage.name ∧
      .preBuild ∉ p.stages.map Stage.name ∧ (p.stages.map Stage.name).Sublist StageName.all ∧
      ∀ st ∈ p.stages, st.steps ≠ [] := by
  have hcompose := compose_of_verify verify_builtin resolve_sampleRaw
  obtain ⟨hnames, -, hcanonical, hstages⟩ := stages_of_compose hcompose
  refine ⟨verify_builtin, _, hcompose, (hnames _).2 ?_, (hnames _).2 ?_, fun h => ?_, hcanonical,
    fun st hst => (hstages st hst).2.1 verify_builtin⟩
  · decide +kernel
  · decide +kernel
  · have hnone : ¬∃ f ∈ builtin.selected sample, f.ContributesTo .preBuild := by decide +kernel
    exact hnone ((hnames _).1 h)

end Catalogue

end PipeLoom
