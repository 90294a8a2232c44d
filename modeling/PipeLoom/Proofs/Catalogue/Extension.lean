import PipeLoom.Proofs.Catalogue.Registration
import PipeLoom.Proofs.Pipeline.Composable
import PipeLoom.Proofs.Project.Generated

/-!
# Overlays that only add

A catalogue extends another one when each axis starts with the fragments of the other as they are
there. Resolution, composition and provider documents look only at fragments that are selected, so a
selection means the same in every extension of its catalogue; registering fragments under new names
extends a catalogue (`registerAll_conservative`).
-/

namespace PipeLoom

namespace Catalogue

variable {c d : Catalogue} {raw : RawSelection} {s : Selection} {a : Axis} {v : String}
  {f : Fragment} {fs : List Fragment}

/-- Each axis starts as in the other catalogue, in order and with the same fragments. -/
def Extends (d c : Catalogue) : Prop := ∀ a, c.values a <+: d.values a

/-! ## Registering new names -/

theorem put_append {gs hs : List Fragment} (h : f.value ∉ gs.map (·.value)) :
    put f (gs ++ hs) = gs ++ put f hs := by
  induction gs with
  | nil => rfl
  | cons g gs ih =>
    rw [List.map_cons, List.mem_cons, not_or] at h
    rw [List.cons_append, put, if_neg (Ne.symm h.1), ih h.2]
    rfl

theorem Extends.register (h : d.Extends c) (hf : c.contains f.axis f.value = false) :
    (d.register f).Extends c := by
  intro a
  obtain ⟨gs, hgs⟩ := h a
  show _ <+: if a = f.axis then put f (d.values a) else d.values a
  split
  · rename_i ha
    have hnew : f.value ∉ (c.values a).map (·.value) := by
      rw [ha, ← contains_iff_mem, hf]
      exact Bool.false_ne_true
    rw [← hgs, put_append hnew]
    exact List.prefix_append _ _
  · exact h a

theorem extends_registerAll (h : ∀ f ∈ fs, c.contains f.axis f.value = false) :
    (c.registerAll fs).Extends c := by
  -- the invariant holds of every catalogue on the way, which starts with `c` itself
  suffices hall : ∀ d : Catalogue, d.Extends c → (d.registerAll fs).Extends c from
    hall c fun _ => List.prefix_rfl
  induction fs with
  | nil => exact fun _ hd => hd
  | cons f fs ih =>
    obtain ⟨hf, hfs⟩ := List.forall_mem_cons.1 h
    exact fun d hd => ih hfs _ (hd.register hf)

/-! ## What is found -/

namespace Extends

theorem get?_eq (h : d.Extends c) (hv : c.contains a v = true) : d.get? a v = c.get? a v := by
  obtain ⟨f, hf⟩ := contains_iff.1 hv
  obtain ⟨hmem, hvalue⟩ := get?_eq_some_iff.1 hf
  rw [hf]
  exact get?_eq_some_iff.2 ⟨(h a).subset hmem, hvalue⟩

theorem contains (h : d.Extends c) (hv : c.contains a v = true) : d.contains a v = true := by
  unfold Catalogue.contains
  rw [h.get?_eq hv]
  exact hv

/-- The values that the other catalogue lacks come last and are none of its own. -/
theorem exists_order (h : d.Extends c) (a : Axis) :
    ∃ vs, d.order a = c.order a ++ vs ∧ ∀ v ∈ vs, c.contains a v = false := by
  obtain ⟨gs, hgs⟩ := h a
  have horder : d.order a = c.order a ++ gs.map (·.value) := by
    unfold order
    rw [← hgs, List.map_append]
  refine ⟨_, horder, fun v hv => Bool.eq_false_iff.2 fun hc => ?_⟩
  have hnodup := d.nodup_order (a := a)
  rw [horder] at hnodup
  exact List.disjoint_of_nodup_append hnodup (contains_iff_mem.1 hc) hv

/-! ## Resolution -/

section Resolution

variable (h : d.Extends c) (hknown : ∀ a, ∀ v ∈ raw.given a, c.contains a v = true)
include h hknown

theorem unknownValues_eq (a : Axis) :
    d.unknownValues a (raw.given a) = c.unknownValues a (raw.given a) := by
  unfold unknownValues
  refine congrArg _ (List.filter_congr fun v hv => ?_)
  rw [hknown a v hv, h.contains (hknown a v hv)]

theorem axisIssues_eq : d.axisIssues raw = c.axisIssues raw := by
  funext a
  unfold axisIssues
  simp only [h.unknownValues_eq hknown]

theorem chosen_eq (a : Axis) : d.chosen raw a = c.chosen raw a := by
  obtain ⟨vs, hvs, hnew⟩ := h.exists_order a
  unfold chosen
  split
  · -- a hook that the smaller catalogue lacks is not given
    show (d.order a).filter _ = (c.order a).filter _
    rw [hvs, List.filter_append, List.append_right_eq_self, List.filter_eq_nil_iff]
    intro v hv hgiven
    have hc := hknown a v (List.contains_iff_mem.1 hgiven)
    rw [hnew v hv] at hc
    cases hc
  · split
    · rename_i v hv
      have hc : c.contains a v = true := hknown a v (by rw [hv]; exact List.mem_singleton_self v)
      rw [hc, h.contains hc]
    · rfl

theorem chosenFragments_eq : d.chosenFragments raw = c.chosenFragments raw := by
  unfold chosenFragments
  refine List.flatMap_congr fun a _ => ?_
  rw [h.chosen_eq hknown]
  exact List.filterMap_congr fun v hv => h.get?_eq (contains_of_mem_chosen hv)

theorem unmetRequirements_eq : d.unmetRequirements raw = c.unmetRequirements raw := by
  unfold unmetRequirements
  rw [h.chosenFragments_eq hknown]
  simp only [h.chosen_eq hknown]

theorem issues_eq : d.issues raw = c.issues raw := by
  unfold issues
  rw [h.axisIssues_eq hknown, h.chosenFragments_eq hknown, h.unmetRequirements_eq hknown]

theorem resolve_eq : d.resolve raw = c.resolve raw := by
  unfold resolve
  simp only [h.issues_eq hknown, h.chosen_eq hknown]

end Resolution

/-- What resolves does so in every extension, and to the same selection. -/
theorem resolve (h : d.Extends c) (hs : c.resolve raw = .ok s) : d.resolve raw = .ok s := by
  have haxes := axisIssues_eq_nil (resolve_eq_ok_iff.1 hs).1
  rw [h.resolve_eq fun a => (axisIssues_eq_nil_iff.1 (haxes a)).1, hs]

/-! ## Composition and provider documents -/

theorem find?_eq (h : d.Extends c) (hs : c.resolve raw = .ok s) {r : FragmentRef}
    (hr : r ∈ s.fragments) : d.find? r = c.find? r :=
  h.get?_eq (contains_iff.2 (exists_find?_of_resolve hs hr))

theorem compose_eq (h : d.Extends c) (hs : c.resolve raw = .ok s) :
    d.compose s = c.compose s := by
  have hfragments : d.fragmentsOf s = c.fragmentsOf s := by
    unfold fragmentsOf
    refine Except.mapM_congr fun r hr => ?_
    rw [h.find?_eq hs hr]
  unfold compose
  rw [hfragments]

theorem ofSelection_eq (h : d.Extends c) (hs : c.resolve raw = .ok s) (appName : String) :
    ProviderConfig.ofSelection d s appName = ProviderConfig.ofSelection c s appName := by
  have hsettings : ∀ r ∈ s.fragments,
      ProviderConfig.settingsOf d r = ProviderConfig.settingsOf c r := by
    intro r hr
    unfold ProviderConfig.settingsOf
    rw [h.find?_eq hs hr]
  have hprovider := hsettings ⟨.provider, s.provider⟩ (mem_fragments.2 (.head _))
  have hservice := hsettings ⟨.service, s.service⟩ (mem_fragments.2 (.head _))
  unfold ProviderConfig.ofSelection
  simp only [hprovider, hservice]

theorem make_eq (h : d.Extends c) (hs : c.resolve raw = .ok s) (appName : String)
    (config : Config) :
    Generation.make d raw appName config = Generation.make c raw appName config := by
  unfold Generation.make
  simp only [h.resolve hs, hs, Except.mapError, bind, Except.bind, h.ofSelection_eq hs,
    h.compose_eq hs]

end Extends

/-- Fragments under new names change nothing for a selection that resolves without them, whatever
they exclude, require or contribute: it resolves to the same, and its pipeline, its provider document
and the files generated for it are the same. -/
theorem registerAll_conservative (hfs : ∀ f ∈ fs, c.contains f.axis f.value = false)
    (hs : c.resolve raw = .ok s) :
    (c.registerAll fs).resolve raw = .ok s ∧
      (c.registerAll fs).compose s = c.compose s ∧
      (∀ appName, ProviderConfig.ofSelection (c.registerAll fs) s appName =
        ProviderConfig.ofSelection c s appName) ∧
      ∀ appName config, Generation.make (c.registerAll fs) raw appName config =
        Generation.make c raw appName config := by
  have h := extends_registerAll hfs
  exact ⟨h.resolve hs, h.compose_eq hs, h.ofSelection_eq hs, h.make_eq hs⟩

/-- A hook that excludes what is selected and asks for what is not, registered twice, and a provider
of another name with settings. -/
def strangers : List Fragment :=
  let audit := (Fragment.new .hooks "audit" "Audit").addExclusion .language "go" "not for go"
  [audit, (Fragment.new .provider "lagoon" "Lagoon").addSetting "region" "north",
    (audit.addRequirement .provider ["lagoon"]).addStep .deploy (.run "Audit" "make audit")]

theorem registerAll_conservative_strangers :
    (∀ f ∈ strangers, builtin.contains f.axis f.value = false) ∧
      builtin.resolve sampleRaw = .ok sample ∧
      (builtin.registerAll strangers).resolve sampleRaw = .ok sample ∧
      (builtin.registerAll strangers).compose sample = builtin.compose sample :=
  have hnew : ∀ f ∈ strangers, builtin.contains f.axis f.value = false := by decide +kernel
  have h := registerAll_conservative hnew resolve_sampleRaw
  ⟨hnew, resolve_sampleRaw, h.1, h.2.1⟩

end Catalogue

end PipeLoom
