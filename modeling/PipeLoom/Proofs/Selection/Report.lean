import Mathlib.Data.List.Count
import PipeLoom.Catalogue.Builtin
import PipeLoom.Proofs.Selection.Acceptance
import PipeLoom.Proofs.Selection.Conflicts

/-!
# What the report of a rejected selection lists

`Catalogue.Reports` says how often each issue stands in a report, by what is given and what of it
counts as selected, without reference to the passes that find the issues. A selection that is
rejected gets such a report (`Catalogue.reports_of_resolve`): no reason against it is missing, none
is made up, and no two fragments are reported twice.
-/

namespace PipeLoom

theorem Dict.nodup_keys {α : Type} (d : Dict α) : d.keys.Nodup := by
  refine List.pairwise_map.2 (d.ascend.imp fun {e e'} h heq => ?_)
  rw [heq] at h
  exact String.lt_irrefl _ h

/-! ## Counting in lists -/

section Count

variable {α β : Type} [DecidableEq β]

theorem count_filter_eq (l : List β) (p : β → Bool) (x : β) :
    (l.filter p).count x = if p x = true then l.count x else 0 := by
  split
  · rename_i hp
    exact List.count_filter hp
  · rename_i hp
    rw [List.count_eq_zero, List.mem_filter]
    exact fun h => hp h.2

/-- What only one member of a list leads to. -/
theorem count_flatMap_of_mem {l : List α} (hl : l.Nodup) {x : α} (hx : x ∈ l) {f : α → List β}
    {i : β} (hother : ∀ y ∈ l, y ≠ x → i ∉ f y) : (l.flatMap f).count i = (f x).count i := by
  induction l with
  | nil => exact absurd hx List.not_mem_nil
  | cons y l ih =>
    obtain ⟨hy, hl⟩ := List.nodup_cons.1 hl
    rw [List.flatMap_cons, List.count_append]
    rcases List.mem_cons.1 hx with rfl | hx
    · have hrest : i ∉ l.flatMap f := by
        rw [List.mem_flatMap]
        rintro ⟨z, hz, hi⟩
        have hne : z ≠ x := fun h => hy (h ▸ hz)
        exact hother z (List.mem_cons_of_mem _ hz) hne hi
      rw [List.count_eq_zero.2 hrest, Nat.add_zero]
    · have hne : y ≠ x := fun h => hy (h ▸ hx)
      have hfirst := List.count_eq_zero.2 (hother y List.mem_cons_self hne)
      rw [hfirst, Nat.zero_add]
      exact ih hl hx fun z hz => hother z (List.mem_cons_of_mem _ hz)

end Count

/-! ## Reports -/

namespace Catalogue

variable (c : Catalogue) (raw : RawSelection)

/-- A selected value meets the requirement. -/
def Meets (q : Requirement) : Prop := ∃ v ∈ q.anyOf, c.Selects raw q.axis v

instance (q : Requirement) : Decidable (c.Meets raw q) :=
  inferInstanceAs (Decidable (∃ v ∈ q.anyOf, _))

/-- The list has each reason against the raw selection, and nothing else. -/
structure Reports (is : List Issue) : Prop where
  unknownAxis : ∀ key, is.count (.unknownAxis key) =
    if key ∈ raw.keys ∧ Axis.ofText? key = none then 1 else 0
  missingAxis : ∀ a, is.count (.missingAxis a) =
    if a.isRequired = true ∧ raw.given a = [] then 1 else 0
  multipleValues : ∀ a vs, is.count (.multipleValues a vs) =
    if raw.Crowds a ∧ vs = raw.given a then 1 else 0
  /-- As often as the value is given. -/
  unknownFragment : ∀ a v, is.count (.unknownFragment a v) =
    if ¬raw.Crowds a ∧ c.contains a v = false then (raw.given a).count v else 0
  conflict : ∀ r q reason, .conflict r q reason ∈ is ↔
    r.Before q ∧ ∃ f g, c.SelectsFragment raw f ∧ c.SelectsFragment raw g ∧
      f.ref = r ∧ g.ref = q ∧ f.Clash g reason
  /-- No two fragments are in two conflicts. -/
  pairs_once : (is.filterMap Issue.pair?).Nodup
  /-- As often as the fragment has the requirement. -/
  unmetRequirement : ∀ f q, c.SelectsFragment raw f → is.count (.unmetRequirement f.ref q) =
    if c.Meets raw q then 0 else f.requires.count q
  unmet_selected : ∀ r q, .unmetRequirement r q ∈ is → ∃ f, c.SelectsFragment raw f ∧ f.ref = r

end Catalogue

/-! ## Passes -/

/-- The parts of a report, by what was looked at. -/
inductive Pass where
  | keys | axes | pairs | requirements
  deriving DecidableEq

/-- The part of a report that the issue belongs to. -/
def Issue.pass : Issue → Pass
  | unknownAxis _ => .keys
  | missingAxis _ | multipleValues _ _ | unknownFragment _ _ => .axes
  | conflict _ _ _ => .pairs
  | unmetRequirement _ _ => .requirements

/-- The axis whose values are at fault. -/
def Issue.axis? : Issue → Option Axis
  | missingAxis a | multipleValues a _ | unknownFragment a _ => some a
  | _ => none

namespace Catalogue

variable (c : Catalogue) (raw : RawSelection)

/-- The issues that a pass finds. -/
def found : Pass → List Issue
  | .keys => raw.unknownKeys.map .unknownAxis
  | .axes => Axis.all.flatMap (c.axisIssues raw)
  | .pairs => conflicts (c.sortedFragments raw)
  | .requirements => c.unmetRequirements raw

variable {c raw} {a : Axis} {v : String} {f : Fragment} {i : Issue}

theorem axisIssues_eq :
    c.axisIssues raw a =
      if raw.Crowds a then [.multipleValues a (raw.given a)]
      else if a.isRequired = true ∧ raw.given a = [] then [.missingAxis a]
      else c.unknownValues a (raw.given a) := by
  by_cases hcrowds : raw.Crowds a
  · obtain ⟨hm, hlength⟩ := hcrowds
    rw [if_pos ⟨hm, hlength⟩]
    unfold axisIssues
    rw [hm]
    rcases hgiven : raw.given a with _ | ⟨v, _ | ⟨w, vs⟩⟩
    · simp [hgiven] at hlength
    · simp [hgiven] at hlength
    · rfl
  · rw [if_neg hcrowds]
    unfold axisIssues
    cases hm : a.isMultiValued with
    | true =>
      have hr : a.isRequired = false := by
        obtain rfl := Axis.isMultiValued_iff.1 hm
        rfl
      simp [hr]
    | false =>
      rcases hgiven : raw.given a with _ | ⟨v, _ | ⟨w, vs⟩⟩
      · cases a.isRequired <;> simp [unknownValues]
      · simp
      · exact absurd ⟨hm, by simp [hgiven]⟩ hcrowds

theorem axis?_of_mem_axisIssues (h : i ∈ c.axisIssues raw a) : i.axis? = some a := by
  rw [axisIssues_eq] at h
  split at h
  · rw [List.mem_singleton.1 h]
    rfl
  · split at h
    · rw [List.mem_singleton.1 h]
      rfl
    · obtain ⟨v, -, rfl⟩ := List.mem_map.1 h
      rfl

theorem pass_of_mem_found {p : Pass} (h : i ∈ c.found raw p) : i.pass = p := by
  cases p with
  | keys =>
    obtain ⟨key, -, rfl⟩ := List.mem_map.1 h
    rfl
  | axes =>
    obtain ⟨a, -, h⟩ := List.mem_flatMap.1 h
    have haxis := axis?_of_mem_axisIssues h
    cases i <;> first | rfl | cases haxis
  | pairs =>
    obtain ⟨f, -, g, -, -, h⟩ := (mem_conflicts pairwise_sortedFragments).1 h
    obtain ⟨reason, -, rfl⟩ := conflict?_eq_some_iff.1 h
    rfl
  | requirements =>
    obtain ⟨f, -, h⟩ := List.mem_flatMap.1 h
    obtain ⟨q, -, rfl⟩ := List.mem_map.1 h
    rfl

theorem issues_eq_found :
    c.issues raw = c.found raw .keys ++ c.found raw .axes ++ c.found raw .pairs ++
      c.found raw .requirements := rfl

/-- Each issue comes from one pass only. -/
theorem count_issues (i : Issue) : (c.issues raw).count i = (c.found raw i.pass).count i := by
  have hother : ∀ p, p ≠ i.pass → (c.found raw p).count i = 0 := by
    intro p hp
    rw [List.count_eq_zero]
    exact fun h => hp (pass_of_mem_found h).symm
  rw [issues_eq_found, List.count_append, List.count_append, List.count_append]
  cases hp : i.pass <;> simp [hp, hother]

theorem mem_issues : i ∈ c.issues raw ↔ i ∈ c.found raw i.pass := by
  rw [← List.count_pos_iff, count_issues, List.count_pos_iff]

/-! ## Keys and axes -/

theorem count_unknownAxis (key : String) :
    (c.issues raw).count (.unknownAxis key) =
      if key ∈ raw.keys ∧ Axis.ofText? key = none then 1 else 0 := by
  have hinjective : Function.Injective Issue.unknownAxis := fun _ _ h => by cases h; rfl
  have hkeys : raw.unknownKeys.Nodup := raw.nodup_keys.filter _
  rw [count_issues]
  show (raw.unknownKeys.map Issue.unknownAxis).count (.unknownAxis key) = _
  rw [List.count_map_of_injective _ _ hinjective, hkeys.count]
  simp only [RawSelection.unknownKeys, List.mem_filter, Option.isNone_iff_eq_none]

/-- Issues with the values of an axis come from a look at that axis. -/
theorem count_of_axis? (h : i.axis? = some a) :
    (c.issues raw).count i = (c.axisIssues raw a).count i := by
  have hpass : i.pass = .axes := by
    cases i <;> first | rfl | cases h
  rw [count_issues, hpass]
  refine count_flatMap_of_mem (by decide) (Axis.mem_all a) fun b _ hb hi => ?_
  have haxis := axis?_of_mem_axisIssues hi
  rw [h] at haxis
  exact hb (Option.some.inj haxis).symm

theorem count_unknownValues (vs : List String) :
    (c.unknownValues a vs).count (.unknownFragment a v) =
      if c.contains a v = false then vs.count v else 0 := by
  have hinjective : Function.Injective (Issue.unknownFragment a) := fun _ _ h => by cases h; rfl
  unfold unknownValues
  rw [List.count_map_of_injective _ _ hinjective, count_filter_eq]
  simp only [Bool.not_eq_true']

theorem notMem_unknownValues {vs : List String} (h : ∀ v, i ≠ .unknownFragment a v) :
    i ∉ c.unknownValues a vs := by
  intro hi
  obtain ⟨v, -, rfl⟩ := List.mem_map.1 hi
  exact h v rfl

theorem count_missingAxis (a : Axis) :
    (c.issues raw).count (.missingAxis a) =
      if a.isRequired = true ∧ raw.given a = [] then 1 else 0 := by
  rw [count_of_axis? rfl, axisIssues_eq]
  split
  · rename_i hcrowds
    have hgiven : raw.given a ≠ [] := by
      intro h
      have := hcrowds.2
      simp [h] at this
    simp [hgiven]
  · split
    · simp
    · exact List.count_eq_zero.2 (notMem_unknownValues fun _ => nofun)

theorem count_multipleValues (a : Axis) (vs : List String) :
    (c.issues raw).count (.multipleValues a vs) =
      if raw.Crowds a ∧ vs = raw.given a then 1 else 0 := by
  rw [count_of_axis? rfl, axisIssues_eq]
  by_cases hcrowds : raw.Crowds a
  · simp only [hcrowds, if_true, true_and, List.count_singleton, beq_iff_eq,
      Issue.multipleValues.injEq]
    simp only [eq_comm]
  · simp only [hcrowds, if_false, false_and]
    split
    · simp
    · exact List.count_eq_zero.2 (notMem_unknownValues fun _ => nofun)

theorem count_unknownFragment (a : Axis) (v : String) :
    (c.issues raw).count (.unknownFragment a v) =
      if ¬raw.Crowds a ∧ c.contains a v = false then (raw.given a).count v else 0 := by
  rw [count_of_axis? rfl, axisIssues_eq]
  by_cases hcrowds : raw.Crowds a
  · simp [hcrowds]
  · simp only [hcrowds, if_false, not_false_eq_true, true_and]
    split
    · rename_i hmissing
      simp [hmissing.2]
    · exact count_unknownValues _

/-! ## Requirements -/

theorem isSatisfiedBy_chosen (q : Requirement) :
    q.isSatisfiedBy (c.chosen raw q.axis) = true ↔ c.Meets raw q := by
  unfold Requirement.isSatisfiedBy Meets
  simp only [List.any_eq_true, List.contains_iff_mem, mem_chosen]
  exact exists_congr fun v => and_comm

theorem count_unmetRequirement (hf : c.SelectsFragment raw f) (q : Requirement) :
    (c.issues raw).count (.unmetRequirement f.ref q) =
      if c.Meets raw q then 0 else f.requires.count q := by
  have hinjective : Function.Injective (Issue.unmetRequirement f.ref) := fun _ _ h => by
    cases h
    rfl
  rw [count_issues]
  show (c.unmetRequirements raw).count _ = _
  unfold unmetRequirements
  rw [count_flatMap_of_mem nodup_chosenFragments (mem_chosenFragments_iff.2 hf)]
  · rw [List.count_map_of_injective _ _ hinjective, count_filter_eq]
    simp only [← isSatisfiedBy_chosen]
    cases q.isSatisfiedBy (c.chosen raw q.axis) <;> rfl
  · intro g hg hne hi
    obtain ⟨q', -, hq'⟩ := List.mem_map.1 hi
    have href : g.ref = f.ref := (Issue.unmetRequirement.inj hq').1
    exact hne (eq_of_ref_eq (mem_chosenFragments_iff.1 hg) hf href)

theorem selected_of_unmetRequirement {r : FragmentRef} {q : Requirement}
    (h : .unmetRequirement r q ∈ c.issues raw) : ∃ f, c.SelectsFragment raw f ∧ f.ref = r := by
  rw [mem_issues] at h
  obtain ⟨f, hf, hq⟩ := List.mem_flatMap.1 h
  obtain ⟨q', -, hq'⟩ := List.mem_map.1 hq
  exact ⟨f, mem_chosenFragments_iff.1 hf, (Issue.unmetRequirement.inj hq').1⟩

/-! ## Conflicts -/

theorem mem_conflict {r q : FragmentRef} {reason : String} :
    .conflict r q reason ∈ c.issues raw ↔
      r.Before q ∧ ∃ f g, c.SelectsFragment raw f ∧ c.SelectsFragment raw g ∧
        f.ref = r ∧ g.ref = q ∧ f.Clash g reason := by
  rw [mem_issues]
  show _ ∈ conflicts (c.sortedFragments raw) ↔ _
  rw [mem_conflicts pairwise_sortedFragments]
  simp only [mem_sortedFragments, conflict?_eq_some_iff]
  constructor
  · rintro ⟨f, hf, g, hg, hbefore, reason', hclash, heq⟩
    cases heq
    exact ⟨hbefore, f, g, hf, hg, rfl, rfl, hclash⟩
  · rintro ⟨hbefore, f, g, hf, hg, rfl, rfl, hclash⟩
    exact ⟨f, hf, g, hg, hbefore, reason, hclash, rfl⟩

/-- Only the pass over pairs finds conflicts. -/
theorem filterMap_pair?_issues :
    (c.issues raw).filterMap Issue.pair? =
      (conflicts (c.sortedFragments raw)).filterMap Issue.pair? := by
  have hother : ∀ p, p ≠ .pairs → (c.found raw p).filterMap Issue.pair? = [] := by
    intro p hp
    rw [List.filterMap_eq_nil_iff]
    intro i hi
    have hpass := pass_of_mem_found hi
    cases i <;> first | rfl | exact absurd hpass.symm hp
  rw [issues_eq_found, List.filterMap_append, List.filterMap_append, List.filterMap_append,
    hother .keys (by decide), hother .axes (by decide), hother .requirements (by decide)]
  simp [found]

/-! ## The report -/

theorem reports_issues : c.Reports raw (c.issues raw) where
  unknownAxis := count_unknownAxis
  missingAxis := count_missingAxis
  multipleValues := count_multipleValues
  unknownFragment := count_unknownFragment
  conflict _ _ _ := mem_conflict
  pairs_once := by
    rw [filterMap_pair?_issues]
    exact nodup_pairs pairwise_sortedFragments
  unmetRequirement _ q hf := count_unmetRequirement hf q
  unmet_selected _ _ := selected_of_unmetRequirement

theorem resolve_eq_error_iff {is : List Issue} :
    c.resolve raw = .error is ↔ is = c.issues raw ∧ is ≠ [] := by
  cases hissues : c.issues raw with
  | nil =>
    obtain ⟨s, hs⟩ := exists_resolve hissues
    rw [hs]
    constructor
    · nofun
    · rintro ⟨h, hne⟩
      exact absurd h hne
  | cons i rest =>
    have herror : c.resolve raw = .error (i :: rest) := by
      unfold resolve
      rw [hissues]
    rw [herror, Except.error.injEq]
    constructor
    · rintro rfl
      exact ⟨rfl, nofun⟩
    · exact fun h => h.1.symm

/-- A rejected selection is reported with at least one issue, and with exactly those there are: each
unknown key, each axis with no value or with too many, each value that is not in the catalogue, each
pair of selected fragments that exclude each other and each requirement that nothing selected
meets. -/
theorem reports_of_resolve {is : List Issue} (h : c.resolve raw = .error is) :
    is ≠ [] ∧ c.Reports raw is := by
  obtain ⟨rfl, hne⟩ := resolve_eq_error_iff.1 h
  exact ⟨hne, reports_issues⟩

/-- Two languages, no provider, a package manager and a service that exclude each other, an unknown
hook given twice and a key that is no axis. -/
def faultyRaw : RawSelection :=
  .ofList [("language", .many ["go", " ruby"]), ("packageManager", .one "bundler"),
    ("service", .one "lambda"), ("hooks", .many ["canary", "none", "canary "]),
    ("runtime", .one "")]

theorem reports_of_resolve_faultyRaw :
    ∃ is, builtin.resolve faultyRaw = .error is ∧ is.count (.unknownAxis "runtime") = 1 ∧
      is.count (.missingAxis .provider) = 1 ∧
      is.count (.multipleValues .language ["go", "ruby"]) = 1 ∧
      is.count (.unknownFragment .hooks "canary") = 2 ∧
      .conflict ⟨.packageManager, "bundler"⟩ ⟨.service, "lambda"⟩ Builtin.lambdaGems ∈ is ∧
      .conflict ⟨.service, "lambda"⟩ ⟨.packageManager, "bundler"⟩ Builtin.lambdaGems ∉ is ∧
      is.count (.unmetRequirement ⟨.packageManager, "bundler"⟩ ⟨.language, ["ruby"]⟩) = 1 := by
  have hresolve : builtin.resolve faultyRaw = .error (builtin.issues faultyRaw) := by
    refine resolve_eq_error_iff.2 ⟨rfl, fun h => ?_⟩
    have hkeys := (issues_eq_nil_iff.1 h).1
    revert hkeys
    decide +kernel
  obtain ⟨-, hreports⟩ := reports_of_resolve hresolve
  obtain ⟨f, hf⟩ : ∃ f, builtin.find? ⟨.packageManager, "bundler"⟩ = some f :=
    Option.isSome_iff_exists.1 (by decide +kernel)
  obtain ⟨g, hg⟩ : ∃ g, builtin.find? ⟨.service, "lambda"⟩ = some g :=
    Option.isSome_iff_exists.1 (by decide +kernel)
  have hfref : f.ref = ⟨.packageManager, "bundler"⟩ := ref_of_get? hf
  have hgref : g.ref = ⟨.service, "lambda"⟩ := ref_of_get? hg
  have hfselects : builtin.Selects faultyRaw f.ref.axis f.ref.value := by
    rw [hfref]
    decide +kernel
  have hgselects : builtin.Selects faultyRaw g.ref.axis g.ref.value := by
    rw [hgref]
    decide +kernel
  have hfselected : builtin.SelectsFragment faultyRaw f := ⟨hfselects, hfref ▸ hf⟩
  have hgselected : builtin.SelectsFragment faultyRaw g := ⟨hgselects, hgref ▸ hg⟩
  have hexcludes : (builtin.find? ⟨.packageManager, "bundler"⟩).map
      (·.exclusionOf? ⟨.service, "lambda"⟩) =
        some (some ⟨⟨.service, "lambda"⟩, some Builtin.lambdaGems⟩) := by
    decide +kernel
  have hrequires : (builtin.find? ⟨.packageManager, "bundler"⟩).map (·.requires) =
      some [⟨.language, ["ruby"]⟩] := by
    decide +kernel
  rw [hf] at hexcludes hrequires
  have hclash : f.Clash g Builtin.lambdaGems :=
    .first (hgref ▸ Option.some.inj hexcludes)
  have hrequires : f.requires = [⟨.language, ["ruby"]⟩] := Option.some.inj hrequires
  have hunmet := hreports.unmetRequirement f ⟨.language, ["ruby"]⟩ hfselected
  rw [hfref, hrequires, if_neg (by decide +kernel)] at hunmet
  refine ⟨_, hresolve, ?_, ?_, ?_, ?_, ?_, ?_, hunmet⟩
  · rw [hreports.unknownAxis]
    decide +kernel
  · rw [hreports.missingAxis]
    decide +kernel
  · rw [hreports.multipleValues]
    decide +kernel
  · rw [hreports.unknownFragment]
    decide +kernel
  · refine (hreports.conflict _ _ _).2 ⟨by decide, f, g, hfselected, hgselected, ?_⟩
    exact ⟨hfref, hgref, hclash⟩
  · exact fun h => absurd ((hreports.conflict _ _ _).1 h).1 (by decide)

end Catalogue

end PipeLoom
