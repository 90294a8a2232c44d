import PipeLoom.Proofs.Pipeline.Composable
import PipeLoom.Proofs.Selection.Report

/-!
# What meets a requirement

A requirement of a selected fragment is met by a selected fragment that it lists, be it the fragment
that requires (`Catalogue.requirement_reported_iff`). So another fragment meets it unless it lists
its own.
-/

namespace PipeLoom

/-- One of the values that may be selected names the fragment. -/
def Requirement.Lists (q : Requirement) (r : FragmentRef) : Prop :=
  r.axis = q.axis ∧ r.value ∈ q.anyOf

instance (q : Requirement) (r : FragmentRef) : Decidable (q.Lists r) :=
  inferInstanceAs (Decidable (_ ∧ _))

namespace Catalogue

variable {c : Catalogue} {raw : RawSelection} {s : Selection} {f : Fragment} {q : Requirement}

theorem meets_iff : c.Meets raw q ↔ ∃ f, c.SelectsFragment raw f ∧ q.Lists f.ref := by
  constructor
  · rintro ⟨v, hv, hselects⟩
    obtain ⟨f, hf⟩ := contains_iff.1 hselects.2.1
    have href : f.ref = ⟨q.axis, v⟩ := ref_of_get? hf
    obtain ⟨haxis, hvalue⟩ := FragmentRef.mk.inj href
    refine ⟨f, ⟨?_, ?_⟩, haxis, ?_⟩
    · rwa [haxis, hvalue]
    · rwa [href]
    · rwa [show f.ref.value = v from hvalue]
  · rintro ⟨f, hf, haxis, hvalue⟩
    refine ⟨f.value, hvalue, ?_⟩
    rw [← haxis]
    exact hf.1

theorem mem_issues_unmet (hf : c.SelectsFragment raw f) (hq : q ∈ f.requires) :
    .unmetRequirement f.ref q ∈ c.issues raw ↔ ¬c.Meets raw q := by
  rw [← List.count_pos_iff, count_unmetRequirement hf]
  split
  · rename_i hmeets
    simp [hmeets]
  · rename_i hmeets
    simp [hmeets, hq]

/-- What a resolved selection names is what counts as selected. -/
theorem mem_selected_iff (hs : c.resolve raw = .ok s) :
    f ∈ c.selected s ↔ c.SelectsFragment raw f := by
  rw [← mem_chosenFragments_iff, mem_chosenFragments, mem_selected]
  have hvalues := (resolve_eq_ok_iff.1 hs).2
  constructor
  · rintro ⟨r, hr, hf⟩
    exact ⟨r.axis, r.value, hvalues r.axis ▸ mem_fragments.1 hr, hf⟩
  · rintro ⟨a, v, hv, hf⟩
    exact ⟨⟨a, v⟩, mem_fragments.2 (hvalues a ▸ hv), hf⟩

/-- The fragment that requires is selected, so it counts among those that meet the requirement. -/
theorem unmet_reported_iff (hf : c.SelectsFragment raw f) (hq : q ∈ f.requires) :
    .unmetRequirement f.ref q ∈ c.issues raw ↔ ¬q.Lists f.ref ∧
      ∀ g, c.SelectsFragment raw g → g ≠ f → ¬q.Lists g.ref := by
  rw [mem_issues_unmet hf hq, meets_iff, not_exists]
  constructor
  · intro h
    exact ⟨fun hlists => h f ⟨hf, hlists⟩, fun g hg _ hlists => h g ⟨hg, hlists⟩⟩
  · rintro ⟨hown, hothers⟩ g ⟨hg, hlists⟩
    by_cases hgf : g = f
    · exact hown (hgf ▸ hlists)
    · exact hothers g hg hgf hlists

theorem lists_of_resolve (hs : c.resolve raw = .ok s) (hf : f ∈ c.selected s)
    (hq : q ∈ f.requires) : q.Lists f.ref ∨ ∃ g ∈ c.selected s, g ≠ f ∧ q.Lists g.ref := by
  have hnone : .unmetRequirement f.ref q ∉ c.issues raw := by
    rw [(resolve_eq_ok_iff.1 hs).1]
    exact List.not_mem_nil
  rw [unmet_reported_iff ((mem_selected_iff hs).1 hf) hq] at hnone
  by_contra hnot
  push Not at hnot
  exact hnone ⟨hnot.1, fun g hg => hnot.2 g ((mem_selected_iff hs).2 hg)⟩

/-- A requirement of a selected fragment is reported if and only if it does not list the fragment
and no other selected fragment is listed. So with a resolved selection each requirement is met by
another selected fragment, or it lists its own: a fragment that asks for itself has what it asks
for. -/
theorem requirement_reported_iff (c : Catalogue) (raw : RawSelection) :
    (∀ f, c.SelectsFragment raw f → ∀ q ∈ f.requires,
      (.unmetRequirement f.ref q ∈ c.issues raw ↔ ¬q.Lists f.ref ∧
        ∀ g, c.SelectsFragment raw g → g ≠ f → ¬q.Lists g.ref)) ∧
      ∀ s, c.resolve raw = .ok s → ∀ f ∈ c.selected s, ∀ q ∈ f.requires,
        q.Lists f.ref ∨ ∃ g ∈ c.selected s, g ≠ f ∧ q.Lists g.ref :=
  ⟨fun _ hf _ hq => unmet_reported_iff hf hq, fun _ hs _ hf _ hq => lists_of_resolve hs hf hq⟩

/-- A catalogue with a hook that requires itself. -/
def lonely : Catalogue :=
  builtin.register ((Fragment.new .hooks "canary" "Canary").addRequirement .hooks ["canary"])

def lonelyRaw : RawSelection :=
  .ofList [("language", .one "go"), ("packageManager", .one "gomod"), ("provider", .one "gcp"),
    ("service", .one "cloudrun"), ("hook", .one "canary")]

def lonelySelection : Selection := ⟨"go", "gomod", none, "gcp", "cloudrun", ["canary"]⟩

/-- The catalogue is sound and the hook is selected, though no other fragment meets its requirement;
what others require is there. -/
theorem requirement_reported_iff_lonely :
    lonely.verify = .ok () ∧ lonely.resolve lonelyRaw = .ok lonelySelection ∧
      (∃ f ∈ lonely.selected lonelySelection, ∃ q ∈ f.requires, q.Lists f.ref ∧
        ∀ g ∈ lonely.selected lonelySelection, g ≠ f → ¬q.Lists g.ref) ∧
      ∀ f ∈ lonely.selected lonelySelection, f.value ≠ "canary" → ∀ q ∈ f.requires,
        ∃ g ∈ lonely.selected lonelySelection, g ≠ f ∧ q.Lists g.ref := by
  have hresolve : lonely.resolve lonelyRaw = .ok lonelySelection :=
    resolve_of_checks (by decide +kernel)
  have hmet := (requirement_reported_iff lonely lonelyRaw).2 lonelySelection hresolve
  have hown : ∀ f ∈ lonely.selected lonelySelection, f.value ≠ "canary" →
      ∀ q ∈ f.requires, ¬q.Lists f.ref := by
    decide +kernel
  exact ⟨by decide +kernel, hresolve, by decide +kernel,
    fun f hf hne q hq => (hmet f hf q hq).resolve_left (hown f hf hne q hq)⟩

end Catalogue

end PipeLoom
