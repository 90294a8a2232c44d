import PipeLoom.Catalogue.Builtin
import PipeLoom.Proofs.Selection.Chosen

/-!
# Which raw selections are accepted

`Accepts c raw` says what a catalogue asks of a raw selection, without reference to issues or their
order, and `Selection.Holds` what the selection made of it contains. `resolve_ok_iff_accepts`:
resolution succeeds on exactly the accepted ones and gives the selection that holds what was given.
-/

namespace PipeLoom

/-- What a catalogue asks of a raw selection. -/
structure Catalogue.Accepts (c : Catalogue) (raw : RawSelection) : Prop where
  keys : ∀ key ∈ raw.keys, ∃ a, Axis.ofText? key = some a
  /-- A value given twice counts twice. -/
  required : ∀ a, a.isRequired = true → ∃ v, raw.given a = [v]
  framework : (raw.given .framework).length ≤ 1
  known : ∀ a v, raw.Gives a v → ∃ f, c.get? a v = some f
  compatible : ∀ f g, c.Picks raw f → c.Picks raw g → f ≠ g → ∀ e ∈ f.excludes, e.fragment ≠ g.ref
  satisfied : ∀ f, c.Picks raw f → ∀ r ∈ f.requires, ∃ v ∈ r.anyOf, raw.Gives r.axis v

/-- The selection contains what is given and nothing else, in the order of the catalogue. -/
structure Selection.Holds (s : Selection) (c : Catalogue) (raw : RawSelection) : Prop where
  single : ∀ a, a ≠ .hooks → s.values a = raw.given a
  mem_hooks : ∀ h, h ∈ s.hooks ↔ raw.Gives .hooks h
  nodup_hooks : s.hooks.Nodup
  /-- Hooks stand in declaration order. -/
  declared : s.hooks.Sublist ((c.values .hooks).map (·.value))
  /-- The fragments of other axes come first, by precedence. -/
  fragments : ∃ rs, s.fragments = rs ++ s.hooks.map (FragmentRef.mk .hooks) ∧
    rs.Pairwise (fun r q => r.axis.rank < q.axis.rank) ∧
    ∀ r, r ∈ rs ↔ r.axis ≠ .hooks ∧ raw.Gives r.axis r.value

namespace Catalogue

variable {c : Catalogue} {raw : RawSelection} {s : Selection} {f : Fragment}

/-! ## Acceptance and issues -/

theorem picks_iff (h : ∀ a, c.axisIssues raw a = []) :
    f ∈ c.chosenFragments raw ↔ c.Picks raw f := by
  rw [mem_chosenFragments]
  simp only [Picks, mem_chosen_iff (h _)]

theorem issues_eq_nil_iff_accepts : c.issues raw = [] ↔ c.Accepts raw := by
  constructor
  · intro h
    have haxes := axisIssues_eq_nil h
    obtain ⟨hkeys, -, hconflicts, hunmet⟩ := issues_eq_nil_iff.1 h
    rw [RawSelection.unknownKeys_eq_nil_iff] at hkeys
    rw [unmetRequirements_eq_nil_iff] at hunmet
    have hsingle := fun a => (axisIssues_eq_nil_iff.1 (haxes a)).2
    refine ⟨hkeys, fun a ha => ?_, (hsingle .framework rfl).1, fun a v hv => ?_,
      fun f g hf hg => ?_, fun f hf r hr => ?_⟩
    · obtain ⟨hle, hne⟩ := hsingle a (Axis.isMultiValued_of_isRequired ha)
      exact List.length_eq_one_iff.1 (by have := List.length_pos_iff.2 (hne ha); omega)
    · have hc := (axisIssues_eq_nil_iff.1 (haxes a)).1 v (RawSelection.mem_given.2 hv)
      exact contains_iff.1 hc
    · exact hconflicts f ((picks_iff haxes).2 hf) g ((picks_iff haxes).2 hg)
    · obtain ⟨v, hv, hmem⟩ := hunmet f ((picks_iff haxes).2 hf) r hr
      exact ⟨v, hmem, (mem_chosen_iff (haxes _)).1 hv⟩
  · intro h
    have haxes : ∀ a, c.axisIssues raw a = [] := by
      refine fun a => axisIssues_eq_nil_iff.2 ⟨fun v hv => ?_, fun hm => ⟨?_, fun ha => ?_⟩⟩
      · exact contains_iff.2 (h.known a v (RawSelection.mem_given.1 hv))
      · cases ha : a.isRequired with
        | true =>
          obtain ⟨v, hv⟩ := h.required a ha
          simp [hv]
        | false =>
          obtain rfl := Axis.eq_framework ha hm
          exact h.framework
      · obtain ⟨v, hv⟩ := h.required a ha
        simp [hv]
    rw [issues_eq_nil_iff, RawSelection.unknownKeys_eq_nil_iff, unmetRequirements_eq_nil_iff]
    refine ⟨h.keys, fun a _ => haxes a, fun f hf g hg => ?_, fun f hf r hr => ?_⟩
    · exact h.compatible f g ((picks_iff haxes).1 hf) ((picks_iff haxes).1 hg)
    · obtain ⟨v, hmem, hv⟩ := h.satisfied f ((picks_iff haxes).1 hf) r hr
      exact ⟨v, (mem_chosen_iff (haxes _)).2 hv, hmem⟩

/-! ## The resolved selection -/

theorem head?_toList_chosen {a : Axis} (ha : a.isMultiValued = false) :
    (c.chosen raw a).head?.toList = c.chosen raw a := by
  unfold chosen
  rw [if_neg (by simp [ha])]
  split
  · split <;> rfl
  · rfl

theorem values_eq_chosen (hl : c.chosen raw .language = [s.language])
    (hm : c.chosen raw .packageManager = [s.packageManager])
    (hf : s.framework = (c.chosen raw .framework).head?)
    (hp : c.chosen raw .provider = [s.provider]) (hs : c.chosen raw .service = [s.service])
    (hh : s.hooks = c.chosen raw .hooks) (a : Axis) : s.values a = c.chosen raw a := by
  cases a with
  | language => exact hl.symm
  | packageManager => exact hm.symm
  | framework => exact (congrArg Option.toList hf).trans (head?_toList_chosen rfl)
  | provider => exact hp.symm
  | service => exact hs.symm
  | hooks => exact hh

theorem resolve_eq_ok_iff :
    c.resolve raw = .ok s ↔ c.issues raw = [] ∧ ∀ a, s.values a = c.chosen raw a := by
  constructor
  · intro h
    unfold resolve at h
    split at h
    · rename_i hi hl hm hp hs
      cases h
      exact ⟨hi, values_eq_chosen hl hm rfl hp hs rfl⟩
    · cases h
  · rintro ⟨hi, hv⟩
    unfold resolve
    rw [hi, ← hv .language, ← hv .packageManager, ← hv .framework, ← hv .provider, ← hv .service,
      ← hv .hooks]
    simp [Selection.values]

theorem exists_resolve (h : c.issues raw = []) : ∃ s, c.resolve raw = .ok s := by
  have hacc := issues_eq_nil_iff_accepts.1 h
  have hone : ∀ a, a.isRequired = true → ∃ v, c.chosen raw a = [v] := by
    intro a ha
    obtain ⟨v, hv⟩ := hacc.required a ha
    have hm := Axis.isMultiValued_of_isRequired ha
    exact ⟨v, by rw [chosen_eq_given (axisIssues_eq_nil h a) hm, hv]⟩
  obtain ⟨l, hl⟩ := hone .language rfl
  obtain ⟨m, hm⟩ := hone .packageManager rfl
  obtain ⟨p, hp⟩ := hone .provider rfl
  obtain ⟨v, hv⟩ := hone .service rfl
  exact ⟨⟨l, m, (c.chosen raw .framework).head?, p, v, c.chosen raw .hooks⟩,
    resolve_eq_ok_iff.2 ⟨h, values_eq_chosen hl hm rfl hp hv rfl⟩⟩

/-- What to check to see that a raw selection is resolved; whether a chosen value is excluded is
looked up once for each exclusion and not for each pair. -/
theorem resolve_of_checks (h : raw.unknownKeys = [] ∧
    (∀ a ∈ Axis.all, c.axisIssues raw a = []) ∧
    (∀ f ∈ c.chosenFragments raw, ∀ e ∈ f.excludes,
      e.fragment.value ∉ c.chosen raw e.fragment.axis) ∧
    c.unmetRequirements raw = [] ∧ ∀ a ∈ Axis.all, s.values a = c.chosen raw a) :
    c.resolve raw = .ok s := by
  obtain ⟨hkeys, haxes, hexcludes, hunmet, hvalues⟩ := h
  have hcompatible : ∀ f ∈ c.chosenFragments raw, ∀ g ∈ c.chosenFragments raw, f ≠ g →
      ∀ e ∈ f.excludes, e.fragment ≠ g.ref := by
    intro f hf g hg _ e he heq
    obtain ⟨a, v, hv, hget⟩ := mem_chosenFragments.1 hg
    have hexcluded := hexcludes f hf e he
    rw [heq, ref_of_get? hget] at hexcluded
    exact hexcluded hv
  have hissues := issues_eq_nil_iff.2 ⟨hkeys, haxes, hcompatible, hunmet⟩
  exact resolve_eq_ok_iff.2 ⟨hissues, fun a => hvalues a (Axis.mem_all a)⟩

theorem mem_fragments {r : FragmentRef} : r ∈ s.fragments ↔ r.value ∈ s.values r.axis := by
  unfold Selection.fragments
  simp only [List.mem_flatMap, List.mem_map]
  constructor
  · rintro ⟨a, -, v, hv, rfl⟩
    exact hv
  · intro h
    exact ⟨r.axis, Axis.mem_all _, r.value, h, rfl⟩

theorem holds_of_resolve (h : c.resolve raw = .ok s) : s.Holds c raw := by
  obtain ⟨hi, hv⟩ := resolve_eq_ok_iff.1 h
  have haxes := axisIssues_eq_nil hi
  have hmem : ∀ a v, v ∈ s.values a ↔ raw.Gives a v := by
    intro a v
    rw [hv, mem_chosen_iff (haxes a)]
  have hhooks : s.hooks = c.chosen raw .hooks := hv .hooks
  refine ⟨fun a ha => ?_, hmem .hooks, hhooks ▸ nodup_chosen, ?_, ?_⟩
  · rw [hv, chosen_eq_given (haxes a) (Axis.isMultiValued_eq_false_iff.2 ha)]
  · rw [hhooks, chosen_hooks]
    exact List.filter_sublist
  · let singles : List Axis := [.language, .packageManager, .framework, .provider, .service]
    refine ⟨singles.flatMap fun a => (s.values a).map (FragmentRef.mk a), ?_, ?_, fun r => ?_⟩
    · simp [Selection.fragments, Axis.all, singles, Selection.values]
    · cases hf : s.framework <;>
        simp [singles, Selection.values, hf, Axis.rank]
    · rw [← hmem]
      simp only [List.mem_flatMap, List.mem_map]
      constructor
      · rintro ⟨a, ha, v, hv, rfl⟩
        exact ⟨by rintro rfl; revert ha; decide, hv⟩
      · rintro ⟨hne, hr⟩
        refine ⟨r.axis, ?_, r.value, hr, rfl⟩
        cases ha : r.axis <;> first | exact absurd ha hne | simp [singles]

/-- A raw selection is resolved if and only if it meets every demand, and then into the selection
that holds what it gives. -/
theorem resolve_ok_iff_accepts (c : Catalogue) (raw : RawSelection) :
    ((∃ s, c.resolve raw = .ok s) ↔ c.Accepts raw) ∧
      ∀ s, c.resolve raw = .ok s → s.Holds c raw := by
  refine ⟨⟨fun ⟨s, h⟩ => ?_, fun h => ?_⟩, fun s => holds_of_resolve⟩
  · exact issues_eq_nil_iff_accepts.1 (resolve_eq_ok_iff.1 h).1
  · exact exists_resolve (issues_eq_nil_iff_accepts.2 h)

/-- Keys in several spellings, values with blanks, values that are no choice and a repeated hook. -/
def sampleRaw : RawSelection :=
  .ofList [(" Language", .one " go "), ("packageManager", .many ["gomod", ""]),
    ("framework", .one "NONE"), ("provider", .one "gcp"), ("SERVICE", .one "cloudrun"),
    ("hook", .many ["rollback", " hotfix"]), ("hooks", .one "hotfix")]

def sample : Selection := ⟨"go", "gomod", none, "gcp", "cloudrun", ["hotfix", "rollback"]⟩

theorem resolve_sampleRaw : builtin.resolve sampleRaw = .ok sample :=
  resolve_of_checks (by decide +kernel)

theorem resolve_ok_iff_accepts_sampleRaw :
    builtin.Accepts sampleRaw ∧ builtin.resolve sampleRaw = .ok sample ∧
      sample.Holds builtin sampleRaw :=
  have h := resolve_ok_iff_accepts builtin sampleRaw
  ⟨h.1.1 ⟨sample, resolve_sampleRaw⟩, resolve_sampleRaw, h.2 sample resolve_sampleRaw⟩

end Catalogue

end PipeLoom
