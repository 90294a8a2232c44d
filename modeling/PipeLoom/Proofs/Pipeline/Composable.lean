import PipeLoom.Pipeline.Compose
import PipeLoom.Proofs.Catalogue.Soundness
import PipeLoom.Proofs.Except
import PipeLoom.Proofs.Selection.Acceptance

/-!
# When fragments can be composed

A fragment stands in the way of composition when it contributes to a stage that does not exist, or
to a hook stage without being a hook. `compose_fails_iff`: for a resolved selection composition
fails in no other way. `compose_of_verify`: with a verified catalogue it does not fail.
-/

namespace PipeLoom

/-- Some contribution names no stage, or the fragment is no hook and contributes to a stage that
belongs to hooks. -/
def Fragment.Misplaced (f : Fragment) : Prop :=
  ∃ k ∈ f.contributions, (∀ n : StageName, k.stage ≠ n.name) ∨
    (f.axis ≠ .hooks ∧ k.stage ∈ ["pre-build", "post-build", "pre-deploy", "post-deploy"])

theorem StageName.name_mem_hookStages {n : StageName} :
    n.name ∈ ["pre-build", "post-build", "pre-deploy", "post-deploy"] ↔ n.isHookStage = true := by
  cases n <;> decide

namespace Fragment

variable {f : Fragment} {k : Contribution}

theorem contributionError?_ne_none_iff :
    f.contributionError? k ≠ none ↔ (∀ n : StageName, k.stage ≠ n.name) ∨
      (f.axis ≠ .hooks ∧ k.stage ∈ ["pre-build", "post-build", "pre-deploy", "post-deploy"]) := by
  unfold contributionError?
  cases hk : k.stageName? with
  | none => simp [Contribution.stageName?_eq_none_iff.1 hk]
  | some n =>
    have hstage := Contribution.stageName?_eq_some_iff.1 hk
    have hdefined : ¬∀ m : StageName, n.name ≠ m.name := fun h => h n rfl
    rw [hstage, StageName.name_mem_hookStages, or_iff_right hdefined]
    cases hn : n.isHookStage <;> simp [isHook, hn]

theorem misplaced_iff : f.Misplaced ↔ ∃ k ∈ f.contributions, f.contributionError? k ≠ none := by
  simp only [Misplaced, contributionError?_ne_none_iff]

theorem Sound.not_misplaced {c : Catalogue} (h : f.Sound c) : ¬f.Misplaced := by
  rintro ⟨k, hk, hmisplaced⟩
  obtain ⟨n, hstage, hhook⟩ := (h.contributions k hk).stage
  rcases hmisplaced with hundefined | ⟨hne, hmem⟩
  · exact hundefined n hstage
  · rw [hstage, StageName.name_mem_hookStages] at hmem
    exact hne (hhook hmem)

end Fragment

namespace Catalogue

variable {c : Catalogue} {raw : RawSelection} {s : Selection} {f : Fragment}

/-! ## Composition of a resolved selection -/

/-- The fragments that a selection names, in the order of the selection. -/
def selected (c : Catalogue) (s : Selection) : List Fragment := s.fragments.filterMap c.find?

theorem mem_selected : f ∈ c.selected s ↔ ∃ r ∈ s.fragments, c.find? r = some f :=
  List.mem_filterMap

/-- Every fragment of a resolved selection stands in the catalogue. -/
theorem exists_find?_of_resolve (h : c.resolve raw = .ok s) {r : FragmentRef}
    (hr : r ∈ s.fragments) : ∃ f, c.find? r = some f := by
  have hv := (resolve_eq_ok_iff.1 h).2 r.axis
  exact contains_iff.1 (contains_of_mem_chosen (hv ▸ mem_fragments.1 hr))

theorem fragmentsOf_eq_ok (h : ∀ r ∈ s.fragments, ∃ f, c.find? r = some f) :
    c.fragmentsOf s = .ok (c.selected s) := by
  let g (r : FragmentRef) : Fragment := (c.find? r).getD (.new r.axis r.value "")
  have hg : ∀ r ∈ s.fragments, c.find? r = some (g r) := by
    intro r hr
    obtain ⟨f, hf⟩ := h r hr
    simp [g, hf]
  have hmap : c.selected s = s.fragments.map g := by
    rw [selected, ← List.filterMap_eq_map]
    exact List.filterMap_congr hg
  rw [fragmentsOf, hmap]
  exact Except.mapM_eq_ok fun r hr => by rw [hg r hr]

theorem fragmentsOf_eq_ok_iff {fs : List Fragment} :
    c.fragmentsOf s = .ok fs ↔
      (∀ r ∈ s.fragments, ∃ f, c.find? r = some f) ∧ fs = c.selected s := by
  constructor
  · intro h
    have hfound : ∀ r ∈ s.fragments, ∃ f, c.find? r = some f := by
      intro r hr
      obtain ⟨f, hf⟩ := Except.exists_ok_of_mapM h hr
      split at hf
      · rename_i g hg
        exact ⟨g, hg⟩
      · cases hf
    rw [fragmentsOf_eq_ok hfound] at h
    exact ⟨hfound, (Except.ok.inj h).symm⟩
  · rintro ⟨hfound, rfl⟩
    exact fragmentsOf_eq_ok hfound

theorem findSome?_contributionError?_eq_none_iff {fs : List Fragment} :
    (fs.findSome? fun f => f.contributions.findSome? f.contributionError?) = none ↔
      ∀ f ∈ fs, ¬f.Misplaced := by
  rw [List.findSome?_eq_none_iff]
  refine forall₂_congr fun f _ => ?_
  rw [List.findSome?_eq_none_iff, Fragment.misplaced_iff]
  push Not
  rfl

/-- Composition asks that every fragment of the selection is found and none is misplaced. -/
theorem compose_eq_ok_iff_found {p : Pipeline} :
    c.compose s = .ok p ↔ (∀ r ∈ s.fragments, ∃ f, c.find? r = some f) ∧
      (∀ f ∈ c.selected s, ¬f.Misplaced) ∧ p = .ofFragments (c.selected s) s.fragments := by
  rw [← findSome?_contributionError?_eq_none_iff]
  unfold compose
  rw [Except.bind_eq_ok_iff]
  constructor
  · rintro ⟨fs, hfs, hp⟩
    obtain ⟨hfound, rfl⟩ := fragmentsOf_eq_ok_iff.1 hfs
    split at hp
    · cases hp
    · rename_i hnone
      cases hp
      exact ⟨hfound, hnone, rfl⟩
  · rintro ⟨hfound, hnone, rfl⟩
    exact ⟨_, fragmentsOf_eq_ok hfound, by rw [hnone]⟩

theorem compose_eq_ok_iff (h : c.resolve raw = .ok s) {p : Pipeline} :
    c.compose s = .ok p ↔
      (∀ f ∈ c.selected s, ¬f.Misplaced) ∧ p = .ofFragments (c.selected s) s.fragments := by
  rw [compose_eq_ok_iff_found]
  exact and_iff_right fun _ => exists_find?_of_resolve h

theorem compose_fails_iff (h : c.resolve raw = .ok s) :
    (∃ e, c.compose s = .error e) ↔ ∃ f ∈ c.selected s, f.Misplaced := by
  rw [← not_iff_not]
  push Not
  constructor
  · intro herror
    cases hp : c.compose s with
    | error e => exact absurd hp (herror e)
    | ok p => exact ((compose_eq_ok_iff h).1 hp).1
  · intro hsound e he
    have hok := (compose_eq_ok_iff h).2 ⟨hsound, rfl⟩
    rw [he] at hok
    cases hok

/-! ## Verified catalogues -/

theorem sound_of_mem_selected (hc : c.verify = .ok ()) (hf : f ∈ c.selected s) : f.Sound c := by
  obtain ⟨r, -, hr⟩ := mem_selected.1 hf
  exact verify_eq_ok_iff.1 hc f (mem_list_of_find? hr)

theorem compose_of_found (hc : c.verify = .ok ()) (h : ∀ r ∈ s.fragments, ∃ f, c.find? r = some f) :
    c.compose s = .ok (.ofFragments (c.selected s) s.fragments) := by
  exact compose_eq_ok_iff_found.2
    ⟨h, fun f hf => (sound_of_mem_selected hc hf).not_misplaced, rfl⟩

/-- Whatever is selected from a verified catalogue can be composed. -/
theorem compose_of_verify (hc : c.verify = .ok ()) (h : c.resolve raw = .ok s) :
    c.compose s = .ok (.ofFragments (c.selected s) s.fragments) :=
  compose_of_found hc fun _ => exists_find?_of_resolve h

end Catalogue

end PipeLoom
