import Mathlib.Data.List.Nodup
import Mathlib.Data.List.Pairwise
import PipeLoom.Proofs.Catalogue.Lookup
import PipeLoom.Selection.Resolve

/-!
# What a raw selection chooses

`Gives raw a v` says that `v` is given for the axis `a`; `given` lists what is given, with
repetitions. Each check of the resolution is pinned by the condition under which it finds no issue.
-/

namespace PipeLoom

namespace Axis

variable {a : Axis}

theorem isMultiValued_iff : a.isMultiValued = true ↔ a = .hooks := by cases a <;> decide

theorem isMultiValued_eq_false_iff : a.isMultiValued = false ↔ a ≠ .hooks := by cases a <;> decide

theorem isMultiValued_of_isRequired (h : a.isRequired = true) : a.isMultiValued = false := by
  revert h
  cases a <;> decide

/-- Only a framework is a single value that may be left out. -/
theorem eq_framework (hr : a.isRequired = false) (hm : a.isMultiValued = false) :
    a = .framework := by
  revert hr hm
  cases a <;> decide

end Axis

namespace RawSelection

variable {raw : RawSelection} {a : Axis} {v : String}

/-- The value stands, up to blanks around it, under a key that means the axis, and it is a choice:
neither nothing nor `none` in some letter case. -/
def Gives (raw : RawSelection) (a : Axis) (v : String) : Prop :=
  ∃ key value, (key, value) ∈ raw.entries ∧ Axis.ofText? key = some a ∧
    ∃ w ∈ value.toList, Text.trim w = v ∧ v ≠ "" ∧ Text.eqIgnoreAsciiCase v "none" = false

theorem mem_given : v ∈ raw.given a ↔ raw.Gives a v := by
  unfold given Gives
  rw [List.mem_flatMap]
  constructor
  · rintro ⟨⟨key, value⟩, he, hv⟩
    split at hv
    · rename_i hk
      simp only [isNoValue, List.mem_filter, List.mem_map, Bool.not_eq_true', Bool.or_eq_false_iff,
        beq_eq_false_iff_ne] at hv
      obtain ⟨⟨w, hw, rfl⟩, hne, hnone⟩ := hv
      exact ⟨key, value, he, hk, w, hw, rfl, hne, hnone⟩
    · cases hv
  · rintro ⟨key, value, he, hk, w, hw, rfl, hne, hnone⟩
    refine ⟨(key, value), he, ?_⟩
    simp only [hk, if_true, isNoValue, List.mem_filter, List.mem_map, Bool.not_eq_true',
      Bool.or_eq_false_iff, beq_eq_false_iff_ne]
    exact ⟨⟨w, hw, rfl⟩, hne, hnone⟩

theorem unknownKeys_eq_nil_iff :
    raw.unknownKeys = [] ↔ ∀ key ∈ raw.keys, ∃ a, Axis.ofText? key = some a := by
  unfold unknownKeys
  simp only [List.filter_eq_nil_iff, Option.isNone_iff_eq_none, ← ne_eq, Option.ne_none_iff_exists']

end RawSelection

namespace Catalogue

variable {c : Catalogue} {raw : RawSelection} {a : Axis} {v : String} {f g : Fragment}

/-- The fragment stands in the catalogue for a given value. -/
def Picks (c : Catalogue) (raw : RawSelection) (f : Fragment) : Prop :=
  ∃ a v, raw.Gives a v ∧ c.get? a v = some f

/-! ## Chosen values -/

theorem axisIssues_eq_nil_iff :
    c.axisIssues raw a = [] ↔
      (∀ v ∈ raw.given a, c.contains a v = true) ∧
        (a.isMultiValued = false →
          (raw.given a).length ≤ 1 ∧ (a.isRequired = true → raw.given a ≠ [])) := by
  have hunknown : ∀ vs, c.unknownValues a vs = [] ↔ ∀ v ∈ vs, c.contains a v = true := by
    intro vs
    simp [unknownValues, List.filter_eq_nil_iff]
  unfold axisIssues
  cases ha : a.isMultiValued with
  | true => simp [hunknown]
  | false =>
    rcases hg : raw.given a with _ | ⟨v, _ | ⟨w, vs⟩⟩
    · cases a.isRequired <;> simp
    · simp [hunknown]
    · simp

/-- Where no issue is found with an axis of one value, the given values are the chosen ones. -/
theorem chosen_eq_given (h : c.axisIssues raw a = []) (ha : a.isMultiValued = false) :
    c.chosen raw a = raw.given a := by
  obtain ⟨hknown, hsingle⟩ := axisIssues_eq_nil_iff.1 h
  unfold chosen
  rw [if_neg (by simp [ha])]
  rcases hg : raw.given a with _ | ⟨v, _ | ⟨w, vs⟩⟩
  · rfl
  · simp only
    rw [if_pos (hknown v (by simp [hg]))]
  · have := (hsingle ha).1
    simp [hg] at this

theorem chosen_hooks :
    c.chosen raw .hooks =
      ((c.values .hooks).map (·.value)).filter fun v => (raw.given .hooks).contains v := rfl

theorem mem_chosen_hooks :
    v ∈ c.chosen raw .hooks ↔ c.contains .hooks v = true ∧ v ∈ raw.given .hooks := by
  rw [chosen_hooks, List.mem_filter, contains_iff_mem, List.contains_iff_mem]

theorem mem_chosen_iff (h : c.axisIssues raw a = []) : v ∈ c.chosen raw a ↔ raw.Gives a v := by
  cases ha : a.isMultiValued with
  | false => rw [chosen_eq_given h ha, RawSelection.mem_given]
  | true =>
    obtain rfl := Axis.isMultiValued_iff.1 ha
    rw [mem_chosen_hooks, RawSelection.mem_given]
    exact ⟨fun hv => hv.2, fun hv =>
      ⟨(axisIssues_eq_nil_iff.1 h).1 v (RawSelection.mem_given.2 hv), hv⟩⟩

theorem contains_of_mem_chosen (h : v ∈ c.chosen raw a) : c.contains a v = true := by
  cases ha : a.isMultiValued with
  | true =>
    obtain rfl := Axis.isMultiValued_iff.1 ha
    exact (mem_chosen_hooks.1 h).1
  | false =>
    unfold chosen at h
    rw [if_neg (by simp [ha])] at h
    split at h
    · split at h
      · rename_i hc
        rwa [List.mem_singleton.1 h]
      · cases h
    · cases h

theorem nodup_chosen : (c.chosen raw a).Nodup := by
  unfold chosen
  split
  · exact (c.nodup a).filter _
  · split
    · split <;> simp
    · simp

/-! ## Chosen fragments -/

theorem mem_chosenFragments :
    f ∈ c.chosenFragments raw ↔ ∃ a, ∃ v ∈ c.chosen raw a, c.get? a v = some f := by
  unfold chosenFragments
  simp only [List.mem_flatMap, List.mem_filterMap]
  exact ⟨fun ⟨a, _, h⟩ => ⟨a, h⟩, fun ⟨a, h⟩ => ⟨a, Axis.mem_all a, h⟩⟩

theorem nodup_chosenFragments : (c.chosenFragments raw).Nodup := by
  unfold chosenFragments
  rw [List.nodup_flatMap]
  constructor
  · intro a _
    refine nodup_chosen.filterMap fun v w f hv hw => ?_
    have h := (ref_of_get? hv).symm.trans (ref_of_get? hw)
    exact congrArg FragmentRef.value h
  · refine List.Pairwise.imp (R := (· ≠ ·)) (fun {a b} hab f hf hg => ?_) (by decide)
    obtain ⟨v, _, hv⟩ := List.mem_filterMap.1 hf
    obtain ⟨w, _, hw⟩ := List.mem_filterMap.1 hg
    have h := (ref_of_get? hv).symm.trans (ref_of_get? hw)
    exact hab (congrArg FragmentRef.axis h)

/-! ## Conflicts and requirements -/

theorem conflict?_eq_none_iff :
    conflict? f g = none ↔
      (∀ e ∈ f.excludes, e.fragment ≠ g.ref) ∧ ∀ e ∈ g.excludes, e.fragment ≠ f.ref := by
  have hnone : ∀ (h : Fragment) r, h.exclusionOf? r = none ↔ ∀ e ∈ h.excludes, e.fragment ≠ r := by
    intro h r
    simp [Fragment.exclusionOf?]
  rw [← hnone, ← hnone]
  unfold conflict?
  cases f.exclusionOf? g.ref <;> cases g.exclusionOf? f.ref <;> simp

theorem conflicts_eq_nil_iff {fs : List Fragment} :
    conflicts fs = [] ↔ fs.Pairwise fun f g => conflict? f g = none := by
  induction fs with
  | nil => simp [conflicts]
  | cons f fs ih =>
    rw [conflicts, List.append_eq_nil_iff, ih, List.pairwise_cons, List.filterMap_eq_nil_iff]

theorem conflict?_eq_none_symm (h : conflict? f g = none) : conflict? g f = none :=
  conflict?_eq_none_iff.2 (conflict?_eq_none_iff.1 h).symm

/-- Sorting the fragments does not decide whether two of them conflict. -/
theorem conflicts_mergeSort_eq_nil_iff (le : Fragment → Fragment → Bool) {fs : List Fragment}
    (hfs : fs.Nodup) :
    conflicts (fs.mergeSort le) = [] ↔
      ∀ f ∈ fs, ∀ g ∈ fs, f ≠ g → ∀ e ∈ f.excludes, e.fragment ≠ g.ref := by
  rw [conflicts_eq_nil_iff, (List.mergeSort_perm fs le).pairwise_iff conflict?_eq_none_symm]
  constructor
  · intro h f hf g hg hne
    have hsymm : Std.Symm fun f g => conflict? f g = none := ⟨fun _ _ => conflict?_eq_none_symm⟩
    exact (conflict?_eq_none_iff.1 (h.forall hf hg hne)).1
  · intro h
    refine hfs.pairwise_of_forall_ne fun f hf g hg hne => ?_
    exact conflict?_eq_none_iff.2 ⟨h f hf g hg hne, h g hg f hf hne.symm⟩

theorem unmetRequirements_eq_nil_iff :
    c.unmetRequirements raw = [] ↔
      ∀ f ∈ c.chosenFragments raw, ∀ r ∈ f.requires, ∃ v ∈ c.chosen raw r.axis, v ∈ r.anyOf := by
  unfold unmetRequirements
  simp [Requirement.isSatisfiedBy, List.filter_eq_nil_iff]

theorem issues_eq_nil_iff :
    c.issues raw = [] ↔
      raw.unknownKeys = [] ∧ (∀ a ∈ Axis.all, c.axisIssues raw a = []) ∧
        (∀ f ∈ c.chosenFragments raw, ∀ g ∈ c.chosenFragments raw, f ≠ g →
          ∀ e ∈ f.excludes, e.fragment ≠ g.ref) ∧
        c.unmetRequirements raw = [] := by
  rw [← conflicts_mergeSort_eq_nil_iff (fun f g => f.ref.le g.ref) nodup_chosenFragments]
  unfold issues
  simp only [List.append_eq_nil_iff, List.map_eq_nil_iff, List.flatMap_eq_nil_iff, and_assoc]

theorem axisIssues_eq_nil (h : c.issues raw = []) (a : Axis) : c.axisIssues raw a = [] :=
  (issues_eq_nil_iff.1 h).2.1 a (Axis.mem_all a)

end Catalogue

end PipeLoom
