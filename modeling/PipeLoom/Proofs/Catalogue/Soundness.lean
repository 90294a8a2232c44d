import PipeLoom.Catalogue.Builtin
import PipeLoom.Catalogue.Integrity
import PipeLoom.Proofs.Catalogue.Lookup

/-!
# Sound catalogues

`Fragment.Sound` says what a catalogue asks of each of its fragments, without reference to faults.
A catalogue is verified if and only if all its fragments are sound, and otherwise every fragment
that is not is named in the report (`Catalogue.verify_reports`).
-/

namespace PipeLoom

namespace Contribution

variable {k : Contribution}

theorem stageName?_eq_some_iff {n : StageName} : k.stageName? = some n ↔ k.stage = n.name := by
  unfold stageName?
  refine ⟨StageName.ofName?_eq_some, fun h => ?_⟩
  rw [h, StageName.ofName?_name]

theorem stageName?_eq_none_iff : k.stageName? = none ↔ ∀ n : StageName, k.stage ≠ n.name := by
  rw [Option.eq_none_iff_forall_ne_some]
  simp only [ne_eq, stageName?_eq_some_iff]

end Contribution

namespace Fragment

variable {c : Catalogue} {f : Fragment} {k : Contribution} {r : Requirement} {e : Exclusion}
  {i : Fault}

/-! ## Soundness -/

/-- The contribution is steps of different names for a stage that is open to the fragment. -/
structure Admits (f : Fragment) (k : Contribution) : Prop where
  stage : ∃ n : StageName, k.stage = n.name ∧ (n.isHookStage = true → f.axis = .hooks)
  steps : k.steps ≠ []
  names : (k.steps.map (·.name)).Nodup

/-- The fragment is well formed and refers only to fragments of the catalogue. -/
structure Sound (c : Catalogue) (f : Fragment) : Prop where
  setup : f.axis = .hooks → f.setup = []
  setup_names : (f.setup.map (·.name)).Nodup
  contributions : ∀ k ∈ f.contributions, f.Admits k
  stages : (f.contributions.map (·.stage)).Nodup
  requires : ∀ r ∈ f.requires, r.anyOf ≠ [] ∧ ∀ v ∈ r.anyOf, ∃ g, c.find? ⟨r.axis, v⟩ = some g
  excludes : ∀ e ∈ f.excludes, e.fragment ≠ f.ref ∧ ∃ g, c.find? e.fragment = some g

/-! ## Checks -/

theorem isHook_iff : f.isHook = true ↔ f.axis = .hooks := beq_iff_eq

theorem repeatedSteps_eq_nil_iff {scope : String} {steps : List Step} :
    f.repeatedSteps scope steps = [] ↔ (steps.map (·.name)).Nodup := by
  unfold repeatedSteps
  rw [List.map_eq_nil_iff, repeats_eq_nil_iff]
  exact and_iff_left fun _ _ => List.not_mem_nil

theorem setupFaults_eq_nil_iff :
    f.setupFaults = [] ↔ (f.axis = .hooks → f.setup = []) ∧ (f.setup.map (·.name)).Nodup := by
  unfold setupFaults
  rw [List.append_eq_nil_iff, repeatedSteps_eq_nil_iff, ← isHook_iff]
  refine and_congr_left fun _ => ?_
  cases f.isHook <;> simp

theorem contributionFaults_eq_nil_iff : f.contributionFaults k = [] ↔ f.Admits k := by
  unfold contributionFaults
  cases hk : k.stageName? with
  | none =>
    have hundefined := Contribution.stageName?_eq_none_iff.1 hk
    exact ⟨nofun, fun ⟨⟨n, hn, _⟩, _, _⟩ => absurd hn (hundefined n)⟩
  | some n =>
    have hstage := Contribution.stageName?_eq_some_iff.1 hk
    have hopen : (if n.isHookStage && !f.isHook then [Fault.hookStage f.ref n] else []) = [] ↔
        (n.isHookStage = true → f.axis = .hooks) := by
      rw [← isHook_iff]
      cases n.isHookStage <;> cases f.isHook <;> simp
    have hsteps : (if k.steps.isEmpty then [Fault.emptyContribution f.ref n] else []) = [] ↔
        k.steps ≠ [] := by
      simp
    simp only [List.append_eq_nil_iff, hopen, hsteps, repeatedSteps_eq_nil_iff, and_assoc]
    constructor
    · rintro ⟨hhook, hne, hnames⟩
      exact ⟨⟨n, hstage, hhook⟩, hne, hnames⟩
    · rintro ⟨⟨m, hm, hhook⟩, hne, hnames⟩
      -- the text of a contribution names one stage
      have hmn := Contribution.stageName?_eq_some_iff.2 hm
      rw [hk] at hmn
      cases hmn
      exact ⟨hhook, hne, hnames⟩

theorem stageFaults_eq_nil_iff :
    f.stageFaults = [] ↔ (∀ k ∈ f.contributions, f.Admits k) ∧
      (f.contributions.map (·.stage)).Nodup := by
  unfold stageFaults
  rw [List.append_eq_nil_iff, List.flatMap_eq_nil_iff, List.map_eq_nil_iff, repeats_eq_nil_iff]
  simp only [contributionFaults_eq_nil_iff, List.not_mem_nil, not_false_eq_true, implies_true,
    and_true]

theorem requirementFaults_eq_nil_iff :
    requirementFaults c f r = [] ↔
      r.anyOf ≠ [] ∧ ∀ v ∈ r.anyOf, ∃ g, c.find? ⟨r.axis, v⟩ = some g := by
  unfold requirementFaults
  rw [List.append_eq_nil_iff, List.map_eq_nil_iff, List.filter_eq_nil_iff]
  refine and_congr (by simp) (forall₂_congr fun v _ => ?_)
  rw [Bool.not_eq_true', Bool.not_eq_false]
  exact Catalogue.contains_iff

theorem exclusionFaults_eq_nil_iff :
    exclusionFaults c f e = [] ↔ e.fragment ≠ f.ref ∧ ∃ g, c.find? e.fragment = some g := by
  unfold exclusionFaults
  by_cases hself : e.fragment = f.ref
  · simp [hself]
  · cases hfind : c.find? e.fragment <;> simp [hself]

theorem faults_eq_nil_iff : f.faults c = [] ↔ f.Sound c := by
  unfold faults
  simp only [List.append_eq_nil_iff, List.flatMap_eq_nil_iff, setupFaults_eq_nil_iff,
    stageFaults_eq_nil_iff, requirementFaults_eq_nil_iff, exclusionFaults_eq_nil_iff]
  constructor
  · rintro ⟨⟨⟨⟨hsetup, hnames⟩, hcontributions, hstages⟩, hrequires⟩, hexcludes⟩
    exact ⟨hsetup, hnames, hcontributions, hstages, hrequires, hexcludes⟩
  · rintro ⟨hsetup, hnames, hcontributions, hstages, hrequires, hexcludes⟩
    exact ⟨⟨⟨⟨hsetup, hnames⟩, hcontributions, hstages⟩, hrequires⟩, hexcludes⟩

instance : Decidable (f.Sound c) := decidable_of_iff _ faults_eq_nil_iff

/-! ## What faults name -/

theorem fragment_of_mem_repeatedSteps {scope : String} {steps : List Step}
    (h : i ∈ f.repeatedSteps scope steps) : i.fragment = f.ref := by
  obtain ⟨name, -, rfl⟩ := List.mem_map.1 h
  rfl

theorem fragment_of_mem_setupFaults (h : i ∈ f.setupFaults) : i.fragment = f.ref := by
  rcases List.mem_append.1 h with h | h
  · rw [List.mem_singleton.1 (List.mem_ite_nil_right.1 h).2]
    rfl
  · exact fragment_of_mem_repeatedSteps h

theorem fragment_of_mem_contributionFaults (h : i ∈ f.contributionFaults k) :
    i.fragment = f.ref := by
  unfold contributionFaults at h
  split at h
  · rw [List.mem_singleton.1 h]
    rfl
  · simp only [List.mem_append, List.mem_ite_nil_right, List.mem_singleton] at h
    rcases h with (⟨-, rfl⟩ | ⟨-, rfl⟩) | h
    · rfl
    · rfl
    · exact fragment_of_mem_repeatedSteps h

theorem fragment_of_mem_stageFaults (h : i ∈ f.stageFaults) : i.fragment = f.ref := by
  rcases List.mem_append.1 h with h | h
  · obtain ⟨k, -, hk⟩ := List.mem_flatMap.1 h
    exact fragment_of_mem_contributionFaults hk
  · obtain ⟨stage, -, rfl⟩ := List.mem_map.1 h
    rfl

theorem fragment_of_mem_requirementFaults (h : i ∈ requirementFaults c f r) :
    i.fragment = f.ref := by
  rcases List.mem_append.1 h with h | h
  · rw [List.mem_singleton.1 (List.mem_ite_nil_right.1 h).2]
    rfl
  · obtain ⟨v, -, rfl⟩ := List.mem_map.1 h
    rfl

theorem fragment_of_mem_exclusionFaults (h : i ∈ exclusionFaults c f e) : i.fragment = f.ref := by
  unfold exclusionFaults at h
  split at h
  · rw [List.mem_singleton.1 h]
    rfl
  · rw [List.mem_singleton.1 (List.mem_ite_nil_right.1 h).2]
    rfl

/-- A fault is put down to the fragment that has it. -/
theorem fragment_of_mem_faults (h : i ∈ f.faults c) : i.fragment = f.ref := by
  unfold faults at h
  simp only [List.mem_append, List.mem_flatMap] at h
  rcases h with ((h | h) | ⟨r, -, h⟩) | ⟨e, -, h⟩
  · exact fragment_of_mem_setupFaults h
  · exact fragment_of_mem_stageFaults h
  · exact fragment_of_mem_requirementFaults h
  · exact fragment_of_mem_exclusionFaults h

end Fragment

/-- The text of a fault starts with its fragment. -/
theorem Fault.prefix_text (i : Fault) : (i.fragment.text ++ ": ").toList <+: i.text.toList := by
  cases i <;> simp [text, fragment, String.toList_append, List.append_assoc]

namespace Catalogue

variable {c : Catalogue} {f : Fragment}

/-! ## Verification -/

theorem verify_eq_ok_iff : c.verify = .ok () ↔ ∀ f ∈ c.list, f.Sound c := by
  simp only [← Fragment.faults_eq_nil_iff, ← List.flatMap_eq_nil_iff]
  change _ ↔ c.faults = []
  unfold verify
  cases c.faults <;> simp

theorem verify_eq_error (h : ¬∀ f ∈ c.list, f.Sound c) : c.verify = .error c.faults := by
  rw [← verify_eq_ok_iff] at h
  revert h
  unfold verify
  cases c.faults <;> simp

theorem verify_builtin : builtin.verify = .ok () := by decide +kernel

/-- The report names the fragments that are not sound. -/
theorem exists_mem_faults_iff (hf : f ∈ c.list) :
    (∃ i ∈ c.faults, i.fragment = f.ref) ↔ ¬f.Sound c := by
  rw [← Fragment.faults_eq_nil_iff]
  constructor
  · rintro ⟨i, hi, href⟩ hnone
    obtain ⟨g, hg, hgi⟩ := List.mem_flatMap.1 hi
    have hgf : g.ref = f.ref := (Fragment.fragment_of_mem_faults hgi).symm.trans href
    rw [eq_of_mem_list hg hf hgf, hnone] at hgi
    cases hgi
  · intro hne
    obtain ⟨i, hi⟩ := List.exists_mem_of_ne_nil _ hne
    exact ⟨i, List.mem_flatMap.2 ⟨f, hf, hi⟩, Fragment.fragment_of_mem_faults hi⟩

/-- Verification succeeds if and only if every fragment of the catalogue is sound. Otherwise it
fails with a report that names every fragment that is not, and no other: each issue is put down to
one of them and its text starts with it. -/
theorem verify_reports (c : Catalogue) :
    (c.verify = .ok () ↔ ∀ f ∈ c.list, f.Sound c) ∧
      ((∃ f ∈ c.list, ¬f.Sound c) → ∃ is, c.verify = .error is ∧
        (∀ f ∈ c.list, (∃ i ∈ is, i.fragment = f.ref) ↔ ¬f.Sound c) ∧
        ∀ i ∈ is, (∃ f ∈ c.list, i.fragment = f.ref) ∧
          (i.fragment.text ++ ": ").toList <+: i.text.toList) := by
  refine ⟨verify_eq_ok_iff, fun ⟨f, hf, hunsound⟩ => ?_⟩
  have herror := verify_eq_error fun hall => hunsound (hall f hf)
  refine ⟨c.faults, herror, fun g hg => exists_mem_faults_iff hg, fun i hi => ⟨?_, i.prefix_text⟩⟩
  obtain ⟨g, hg, hgi⟩ := List.mem_flatMap.1 hi
  exact ⟨g, hg, Fragment.fragment_of_mem_faults hgi⟩

/-- A language that contributes to a stage that does not exist, a hook with setup steps that
excludes itself and needs a value that is not there, and a provider without a fault. -/
def unsound : Catalogue :=
  Catalogue.empty.registerAll
    [{ Fragment.new .language "go" "Go" with contributions := [⟨"package", [.run "Pack" "pack"]⟩] },
      (((Fragment.new .hooks "canary" "Canary").addSetup (.run "Set up" "set up")).addExclusion .hooks
        "canary" "twice").addRequirement .hooks ["smoke"],
      .new .provider "gcp" "Google Cloud"]

theorem verify_reports_unsound :
    (∃ f ∈ unsound.list, ¬f.Sound unsound) ∧ ∃ is, unsound.verify = .error is ∧
      (∃ i ∈ is, i.fragment = ⟨.language, "go"⟩) ∧ (∃ i ∈ is, i.fragment = ⟨.hooks, "canary"⟩) ∧
      ¬∃ i ∈ is, i.fragment = ⟨.provider, "gcp"⟩ := by
  have hunsound : ∃ f ∈ unsound.list, ¬f.Sound unsound := by decide +kernel
  obtain ⟨is, herror, hnamed, -⟩ := (verify_reports unsound).2 hunsound
  have hnames : ∀ r : FragmentRef, (∃ f ∈ unsound.list, f.ref = r ∧ ¬f.Sound unsound) →
      ∃ i ∈ is, i.fragment = r := by
    rintro r ⟨f, hf, rfl, hnot⟩
    exact (hnamed f hf).2 hnot
  refine ⟨hunsound, is, herror, hnames _ (by decide +kernel), hnames _ (by decide +kernel), ?_⟩
  have hsound : ∃ f ∈ unsound.list, f.ref = ⟨.provider, "gcp"⟩ ∧ f.Sound unsound := by
    decide +kernel
  obtain ⟨f, hf, href, hnot⟩ := hsound
  rw [← href, hnamed f hf]
  exact not_not_intro hnot

end Catalogue

end PipeLoom
