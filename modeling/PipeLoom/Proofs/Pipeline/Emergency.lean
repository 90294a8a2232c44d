import PipeLoom.Proofs.Intent.Classification
import PipeLoom.Proofs.Pipeline.Stages

/-!
# Emergencies

In an emergency the same event is classified as without one, but for hotfix releases, whose intent
then skips gates. Composition gives every stage the guard of its kind, so what an emergency changes
is that the gates of hotfix releases are passed over (`Catalogue.emergency_skips_hotfix_gates`).
-/

namespace PipeLoom

/-! ## Events -/

/-- A release is published under the tag of a hotfix. -/
def Event.ReleasesHotfix (e : Event) : Prop :=
  ∃ tag v n, e = .releasePublished tag ∧ Tag.parse tag = .ok (.hotfix v n)

namespace Event

variable {e : Event}

theorem classify_of_releasesHotfix (h : e.ReleasesHotfix) (emergencyMode : Bool) :
    (e.classify emergencyMode).intent = .deployProductionHotfix emergencyMode := by
  obtain ⟨tag, v, n, rfl, hparse⟩ := h
  simp only [classify, hparse, Classification.of]

theorem classify_of_not_releasesHotfix (h : ¬e.ReleasesHotfix) (m m' : Bool) :
    e.classify m = e.classify m' := by
  cases e with
  | pullRequest | workflowDispatch | tagPush => rfl
  | releasePublished tag =>
    cases hparse : Tag.parse tag with
    | error err => simp only [classify, hparse]
    | ok t =>
      cases t with
      | stable v => simp only [classify, hparse]
      | hotfix v n => exact absurd ⟨tag, v, n, rfl, hparse⟩ h

end Event

/-! ## Stages -/

theorem StageName.kind_eq_gate_iff {n : StageName} : n.kind = .gate ↔ n = .lint ∨ n = .test := by
  cases n <;> decide

/-- Hotfixes run every stage, but for the gates where they skip these. -/
theorem Guard.evaluate_ofKind_hotfix (k : StageKind) (skipGates : Bool) :
    (ofKind k).evaluate (.deployProductionHotfix skipGates) =
      if k = .gate ∧ skipGates = true then .skip else .run := by
  cases k <;> cases skipGates <;> decide

namespace Catalogue

variable {c : Catalogue} {s : Selection} {p : Pipeline} {st : Stage}

/-- An emergency decides on a stage of a composed pipeline as there would be decided without one,
but for the linting and testing of hotfix releases, which run without and are skipped with one. So
it adds no stage, takes away none that builds or deploys, and leaves the environment as it is. -/
theorem emergency_skips_hotfix_gates (h : c.compose s = .ok p) (hst : st ∈ p.stages) (e : Event) :
    let decision (emergencyMode : Bool) := st.guard.evaluate (e.classify emergencyMode).intent
    (e.ReleasesHotfix ∧ (st.name = .lint ∨ st.name = .test) →
      decision false = .run ∧ decision true = .skip) ∧
    (¬(e.ReleasesHotfix ∧ (st.name = .lint ∨ st.name = .test)) → decision true = decision false) ∧
    (decision true = .run → decision false = .run) ∧
    (st.name.kind = .build ∨ st.name.kind = .deploy → decision true = decision false) ∧
    (e.classify true).intent.environment? = (e.classify false).intent.environment? := by
  intro decision
  have hguard := guard_of_compose h hst
  simp only [← StageName.kind_eq_gate_iff]
  by_cases he : e.ReleasesHotfix
  · have hdecision : ∀ m, decision m = if st.name.kind = .gate ∧ m = true then .skip else .run := by
      intro m
      show st.guard.evaluate (e.classify m).intent = _
      rw [Event.classify_of_releasesHotfix he, hguard, Guard.evaluate_ofKind_hotfix]
    have henvironment : ∀ m, (e.classify m).intent.environment? = some "production" := by
      intro m
      rw [Event.classify_of_releasesHotfix he]
      rfl
    simp only [hdecision, henvironment]
    cases st.name.kind <;> simp [he]
  · have hsame : e.classify true = e.classify false := Event.classify_of_not_releasesHotfix he _ _
    have hdecision : decision true = decision false :=
      congrArg (fun k => st.guard.evaluate k.intent) hsame
    exact ⟨fun h => absurd h.1 he, fun _ => hdecision, fun h => hdecision ▸ h, fun _ => hdecision,
      congrArg (fun k => k.intent.environment?) hsame⟩

/-- A hotfix of the sample is linted before it is deployed, but not in an emergency. -/
theorem emergency_skips_hotfix_gates_sample :
    let e := Event.releasePublished "v1.4.0-hotfix.2"
    ∃ p st, builtin.compose sample = .ok p ∧ st ∈ p.stages ∧ st.name = .lint ∧ e.ReleasesHotfix ∧
      st.guard.evaluate (e.classify false).intent = .run ∧
      st.guard.evaluate (e.classify true).intent = .skip := by
  intro e
  have hcompose := compose_of_verify verify_builtin resolve_sampleRaw
  have hlint : StageName.lint ∈ StageName.all.filter fun n =>
      (builtin.selected sample).any (·.targets n) := by decide +kernel
  have he : e.ReleasesHotfix :=
    ⟨_, ⟨1, 4, 0, ["hotfix", "2"], []⟩, 2, rfl, by decide +kernel⟩
  have hst := List.mem_map_of_mem
    (f := fun n => Stage.new n (Pipeline.stepsOf (builtin.selected sample) n)) hlint
  exact ⟨_, _, hcompose, hst, rfl, he,
    (emergency_skips_hotfix_gates hcompose hst e).1 ⟨he, .inl rfl⟩⟩

end Catalogue

end PipeLoom
