import PipeLoom.Proofs.Catalogue.Registration
import PipeLoom.Proofs.Selection.RoundTrip

/-!
# Adding hooks

Hooks that are added to a raw selection join those that it gives, whatever their key, and those of
the selection that it resolves to (`Catalogue.hooks_join_of_addHooks`). In which order they come
does not matter (`Catalogue.eq_of_extendedBy`).
-/

namespace PipeLoom

namespace Selection

variable {s : Selection}

/-- `s'` is `s` with the hooks besides its own. -/
structure ExtendedBy (s : Selection) (hooks : List String) (s' : Selection) : Prop where
  values {a : Axis} : a ≠ .hooks → s'.values a = s.values a
  hooks {v : String} : v ∈ s'.hooks ↔ v ∈ s.hooks ∨ v ∈ hooks

theorem ExtendedBy.of_mem {hooks : List String} (h : ∀ v ∈ hooks, v ∈ s.hooks) :
    s.ExtendedBy hooks s where
  values _ := rfl
  hooks := (or_iff_left_of_imp (h _)).symm

theorem ExtendedBy.trans {s' s'' : Selection} {hooks hooks' : List String}
    (h : s.ExtendedBy hooks s') (h' : s'.ExtendedBy hooks' s'') :
    s.ExtendedBy (hooks ++ hooks') s'' where
  values ha := (h'.values ha).trans (h.values ha)
  hooks {v} := by rw [h'.hooks, h.hooks, List.mem_append, or_assoc]

end Selection

namespace RawSelection

variable {raw : RawSelection} {v : String} {hooks : List String}

/-- A hook that is added counts, whatever the spelling of the keys. -/
theorem gives_addHooks (hv : v ∈ hooks) (hchoice : IsChoice v) :
    (raw.addHooks hooks).Gives .hooks v := by
  refine mem_given.1 (mem_given_addHooks.2 (.inr ?_))
  refine List.mem_filter.2 ⟨List.mem_map.2 ⟨v, hv, hchoice.trimmed⟩, ?_⟩
  rw [hchoice.isValue]
  rfl

theorem unknownKeys_addHooks (h : raw.unknownKeys = []) :
    (raw.addHooks hooks).unknownKeys = [] := by
  rw [unknownKeys_eq_nil_iff] at h ⊢
  intro key hkey
  rcases Dict.mem_keys_insert_iff.1 hkey with hkey | rfl
  · exact h key hkey
  · exact ⟨.hooks, Axis.ofText?_name .hooks⟩

end RawSelection

namespace Catalogue

variable {c : Catalogue} {raw : RawSelection} {s s' : Selection} {v : String}
  {hooks : List String}

theorem hasHook_of_resolve_addHooks (hs : c.resolve (raw.addHooks hooks) = .ok s) (hv : v ∈ hooks)
    (hchoice : RawSelection.IsChoice v) : v ∈ s.hooks :=
  ((holds_of_resolve hs).mem_hooks v).2 (RawSelection.gives_addHooks hv hchoice)

/-- Hooks that are selected may be added to what was resolved. -/
theorem resolve_addHooks (hs : c.resolve raw = .ok s)
    (hhooks : ∀ v ∈ RawSelection.choices hooks, v ∈ s.hooks) :
    c.resolve (raw.addHooks hooks) = .ok s := by
  have hgiven : ∀ v ∈ RawSelection.choices hooks, v ∈ raw.given .hooks := fun v hv =>
    RawSelection.mem_given.2 (((holds_of_resolve hs).mem_hooks v).1 (hhooks v hv))
  have halike : raw.Alike (raw.addHooks hooks) :=
    ⟨RawSelection.unknownKeys_addHooks, RawSelection.given_addHooks_of_ne,
      RawSelection.mem_given_addHooks.trans (or_iff_left_of_imp (hgiven _))⟩
  exact resolve_congr halike hs

theorem resolve_toRaw_addHooks (hs : c.resolve raw = .ok s) (hhooks : ∀ v ∈ hooks, v ∈ s.hooks) :
    c.resolve (s.toRaw.addHooks hooks) = .ok s := by
  have hchoices : RawSelection.choices hooks = hooks :=
    RawSelection.choices_eq_self fun v hv => isChoice_of_resolve (a := .hooks) hs (hhooks v hv)
  exact resolve_addHooks (resolve_toRaw hs) (by rwa [hchoices])

/-- Hooks that are added to what was resolved join those of the selection. -/
theorem extendedBy_of_addHooks (hs : c.resolve raw = .ok s)
    (hs' : c.resolve (raw.addHooks hooks) = .ok s') :
    s.ExtendedBy (RawSelection.choices hooks) s' := by
  have hholds := holds_of_resolve hs
  have hholds' := holds_of_resolve hs'
  refine ⟨fun {a} ha => ?_, fun {v} => ?_⟩
  · rw [hholds'.single a ha, hholds.single a ha, RawSelection.given_addHooks_of_ne ha]
  · rw [hholds'.mem_hooks v, hholds.mem_hooks v, ← RawSelection.mem_given,
      RawSelection.mem_given_addHooks, RawSelection.mem_given]

theorem extendedBy_of_resolve (hs : c.resolve raw = .ok s)
    (hs' : c.resolve (s.toRaw.addHooks hooks) = .ok s')
    (hchoice : ∀ v ∈ hooks, RawSelection.IsChoice v) : s.ExtendedBy hooks s' := by
  have h := extendedBy_of_addHooks (resolve_toRaw hs) hs'
  rwa [RawSelection.choices_eq_self hchoice] at h

/-- In which order hooks joined a selection does not matter, nor how often. -/
theorem eq_of_extendedBy {s1 s2 : Selection} {raw1 raw2 : RawSelection}
    {hooks1 hooks2 : List String} (h1 : c.resolve raw1 = .ok s1) (h2 : c.resolve raw2 = .ok s2)
    (hs1 : s.ExtendedBy hooks1 s1) (hs2 : s.ExtendedBy hooks2 s2)
    (hhooks : ∀ v, v ∈ hooks1 ↔ v ∈ hooks2) : s1 = s2 := by
  have hholds := holds_of_resolve h2
  have h : c.resolve raw2 = .ok s1 := by
    refine resolve_of_given h1 ?_ (fun a ha => ?_) fun v => ?_
    · exact unknownKeys_of_resolve h2
    · rw [← hholds.single a ha, hs2.values ha, hs1.values ha]
    · rw [RawSelection.mem_given, ← hholds.mem_hooks v, hs2.hooks, hs1.hooks, hhooks]
  rw [h2] at h
  cases h
  rfl

/-- Hooks that are added to a raw selection leave the values of other axes as they are, and join the
hooks that are selected: each once, in the order of the catalogue, and none is lost. Where all of
them are selected already nothing changes. -/
theorem hooks_join_of_addHooks (hs : c.resolve raw = .ok s) (hooks : List String) :
    (∀ s', c.resolve (raw.addHooks hooks) = .ok s' →
      (∀ a, a ≠ .hooks → s'.values a = s.values a) ∧
        (∀ v, v ∈ s'.hooks ↔ v ∈ s.hooks ∨ v ∈ RawSelection.choices hooks) ∧ s'.hooks.Nodup ∧
        s'.hooks.Sublist (c.order .hooks)) ∧
      ((∀ v ∈ RawSelection.choices hooks, v ∈ s.hooks) →
        c.resolve (raw.addHooks hooks) = .ok s) := by
  refine ⟨fun s' hs' => ?_, resolve_addHooks hs⟩
  have hextended := extendedBy_of_addHooks hs hs'
  have hholds := holds_of_resolve hs'
  exact ⟨fun a => hextended.values, fun v => hextended.hooks, hholds.nodup_hooks, hholds.declared⟩

/-- The sample's hooks stand under two keys. The new one comes first in the catalogue. -/
theorem hooks_join_of_addHooks_sample :
    builtin.resolve sampleRaw = .ok sample ∧
      builtin.resolve (sampleRaw.addHooks [" hotfix", "None"]) = .ok sample ∧
      ∃ s', builtin.resolve (sampleRaw.addHooks ["rollback", "", " security-scan"]) = .ok s' ∧
        s'.hooks = ["security-scan", "hotfix", "rollback"] ∧
        (∀ v ∈ sample.hooks, v ∈ s'.hooks) ∧ s'.hooks.Sublist (builtin.order .hooks) := by
  have hjoin := hooks_join_of_addHooks resolve_sampleRaw
  have hresolve : builtin.resolve (sampleRaw.addHooks ["rollback", "", " security-scan"]) =
      .ok { sample with hooks := ["security-scan", "hotfix", "rollback"] } :=
    resolve_of_checks (by decide +kernel)
  obtain ⟨-, hmem, -, hdeclared⟩ := (hjoin _).1 _ hresolve
  exact ⟨resolve_sampleRaw, (hjoin _).2 (by decide +kernel), _, hresolve, rfl,
    fun v hv => (hmem v).2 (.inl hv), hdeclared⟩

end Catalogue

end PipeLoom
