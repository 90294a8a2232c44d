import Mathlib.Logic.Relation
import PipeLoom.Proofs.Selection.Report
import PipeLoom.Proofs.Selection.RoundTrip

/-!
# What resolution depends on

`RawSelection.Agree`: two raw selections have the same unknown keys and give the same values, hooks
in any order and number. They are resolved to one selection, or rejected with the same issues
(`sameOutcome_of_agree`). `RawSelection.Respelled` lists the ways of writing one raw selection
differently.
-/

namespace PipeLoom

namespace RawSelection

variable {raw raw' raw'' : RawSelection} {a : Axis} {k k' : String} {x x' : RawValue}

/-! ## Agreement -/

/-- Both have the same keys that name no axis, and give the same values, hooks in any order and
number. -/
structure Agree (raw raw' : RawSelection) : Prop where
  unknown : ∀ key, Axis.ofText? key = none → (key ∈ raw.keys ↔ key ∈ raw'.keys)
  single : ∀ a, a ≠ .hooks → raw.given a = raw'.given a
  hooks : ∀ v, v ∈ raw.given .hooks ↔ v ∈ raw'.given .hooks

theorem mem_unknownKeys {key : String} :
    key ∈ raw.unknownKeys ↔ key ∈ raw.keys ∧ Axis.ofText? key = none := by
  unfold unknownKeys
  rw [List.mem_filter, Option.isNone_iff_eq_none]

theorem Agree.mem_unknownKeys (h : raw.Agree raw') {key : String} :
    key ∈ raw.unknownKeys ↔ key ∈ raw'.unknownKeys := by
  rw [RawSelection.mem_unknownKeys, RawSelection.mem_unknownKeys]
  exact and_congr_left (h.unknown key)

theorem Agree.refl (raw : RawSelection) : raw.Agree raw :=
  ⟨fun _ _ => .rfl, fun _ _ => rfl, fun _ => .rfl⟩

theorem Agree.symm (h : raw.Agree raw') : raw'.Agree raw :=
  ⟨fun key hkey => (h.unknown key hkey).symm, fun a ha => (h.single a ha).symm,
    fun v => (h.hooks v).symm⟩

theorem Agree.trans (h : raw.Agree raw') (h' : raw'.Agree raw'') : raw.Agree raw'' :=
  ⟨fun key hkey => (h.unknown key hkey).trans (h'.unknown key hkey),
    fun a ha => (h.single a ha).trans (h'.single a ha), fun v => (h.hooks v).trans (h'.hooks v)⟩

theorem Agree.alike (h : raw.Agree raw') : raw.Alike raw' where
  unknown hnone := by
    rw [List.eq_nil_iff_forall_not_mem] at hnone ⊢
    exact fun key hkey => hnone key (h.mem_unknownKeys.2 hkey)
  single ha := (h.single _ ha).symm
  hooks := (h.hooks _).symm

/-- What to compare to see that two raw selections agree. -/
theorem agree_iff : raw.Agree raw' ↔
    (∀ key ∈ raw.unknownKeys, key ∈ raw'.unknownKeys) ∧
      (∀ key ∈ raw'.unknownKeys, key ∈ raw.unknownKeys) ∧
      (∀ a ∈ Axis.all, a ≠ .hooks → raw.given a = raw'.given a) ∧
      (∀ v ∈ raw.given .hooks, v ∈ raw'.given .hooks) ∧
      ∀ v ∈ raw'.given .hooks, v ∈ raw.given .hooks := by
  constructor
  · exact fun h => ⟨fun _ => h.mem_unknownKeys.1, fun _ => h.mem_unknownKeys.2,
      fun a _ => h.single a, fun v => (h.hooks v).1, fun v => (h.hooks v).2⟩
  · rintro ⟨hkeys, hkeys', hsingle, hhooks, hhooks'⟩
    refine ⟨fun key hkey => ⟨fun hmem => ?_, fun hmem => ?_⟩, fun a => hsingle a (Axis.mem_all a),
      fun v => ⟨hhooks v, hhooks' v⟩⟩
    · exact (mem_unknownKeys.1 (hkeys key (mem_unknownKeys.2 ⟨hmem, hkey⟩))).1
    · exact (mem_unknownKeys.1 (hkeys' key (mem_unknownKeys.2 ⟨hmem, hkey⟩))).1

instance : Decidable (raw.Agree raw') := decidable_of_iff _ agree_iff.symm

/-! ## Spelling -/

/-- One entry of a raw selection is written in another way. -/
inductive Respelled : RawSelection → RawSelection → Prop
  /-- Another key that means the same axis. Of an axis with one value this is the only key, as the
  order of the keys is that of the values. -/
  | key {raw : RawSelection} {a : Axis} {k k' : String} (x : RawValue)
      (hk : Axis.ofText? k = some a) (hk' : Axis.ofText? k' = some a)
      (hfree : k ∉ raw.keys) (hfree' : k' ∉ raw.keys) (honly : a ≠ .hooks → raw.given a = []) :
      Respelled (raw.insert k x) (raw.insert k' x)
  /-- Blanks around values, values that stand for no choice, one value or a list of one. -/
  | value (raw : RawSelection) {a : Axis} {k : String} {x x' : RawValue}
      (hk : Axis.ofText? k = some a) (hsame : choices x.toList = choices x'.toList) :
      Respelled (raw.insert k x) (raw.insert k x')
  /-- Hooks in another order or number. -/
  | hooks (raw : RawSelection) {k : String} {x x' : RawValue} (hk : Axis.ofText? k = some .hooks)
      (hsame : ∀ v, v ∈ choices x.toList ↔ v ∈ choices x'.toList) :
      Respelled (raw.insert k x) (raw.insert k x')
  /-- A new entry without a choice. -/
  | blank {raw : RawSelection} {a : Axis} {k : String} {x : RawValue}
      (hk : Axis.ofText? k = some a) (hfree : k ∉ raw.keys) (hnone : choices x.toList = []) :
      Respelled raw (raw.insert k x)

theorem mem_keys_insert_of_ofText? {key : String} (hk : Axis.ofText? k = some a)
    (hkey : Axis.ofText? key = none) (x : RawValue) :
    key ∈ (raw.insert k x).keys ↔ key ∈ raw.keys := by
  have hne : key ≠ k := by
    rintro rfl
    rw [hk] at hkey
    cases hkey
  rw [Dict.mem_keys_insert_iff, or_iff_left hne]

/-- Entries of one axis are no unknown keys. -/
theorem agree_insert (hk : Axis.ofText? k = some a) (hk' : Axis.ofText? k' = some a)
    (hsingle : ∀ b, b ≠ .hooks →
      RawSelection.given (raw.insert k x) b = RawSelection.given (raw.insert k' x') b)
    (hhooks : ∀ v, v ∈ RawSelection.given (raw.insert k x) .hooks ↔
      v ∈ RawSelection.given (raw.insert k' x') .hooks) :
    RawSelection.Agree (raw.insert k x) (raw.insert k' x') := by
  refine ⟨fun key hkey => ?_, hsingle, hhooks⟩
  rw [mem_keys_insert_of_ofText? hk hkey, mem_keys_insert_of_ofText? hk' hkey]

theorem Respelled.agree (h : raw.Respelled raw') : raw.Agree raw' := by
  cases h with
  | @key raw a k k' x hk hk' hfree hfree' honly =>
    obtain ⟨before, after, hgiven, hraw⟩ := exists_given_insert raw k
    obtain ⟨before', after', hgiven', hraw'⟩ := exists_given_insert raw k'
    have hothers (b : Axis) : before b ++ after b = before' b ++ after' b :=
      (hraw hfree b).symm.trans (hraw' hfree' b)
    refine agree_insert hk hk' (fun b hb => ?_) fun v => ?_
    · rw [hgiven, hgiven', hk, hk']
      by_cases hab : some a = some b
      · obtain rfl := Option.some.inj hab
        have hnil := honly hb
        have hnil' := hnil
        rw [hraw hfree, List.append_eq_nil_iff] at hnil
        rw [hraw' hfree', List.append_eq_nil_iff] at hnil'
        rw [hnil.1, hnil.2, hnil'.1, hnil'.2]
      · rw [if_neg hab, List.append_nil, List.append_nil, hothers]
    · have hmem :
          v ∈ before .hooks ∨ v ∈ after .hooks ↔ v ∈ before' .hooks ∨ v ∈ after' .hooks := by
        rw [← List.mem_append, hothers, List.mem_append]
      rw [hgiven, hgiven', hk, hk']
      simp only [List.mem_append, or_right_comm, hmem]
  | @value raw a k x x' hk hsame =>
    obtain ⟨before, after, hgiven, -⟩ := exists_given_insert raw k
    have hall (b : Axis) : RawSelection.given (raw.insert k x) b =
        RawSelection.given (raw.insert k x') b := by
      rw [hgiven, hgiven, hsame]
    exact agree_insert hk hk (fun b _ => hall b) fun v => by rw [hall]
  | @hooks raw k x x' hk hsame =>
    obtain ⟨before, after, hgiven, -⟩ := exists_given_insert raw k
    refine agree_insert hk hk (fun b hb => ?_) fun v => ?_
    · have hne : some Axis.hooks ≠ some b := fun h => hb (Option.some.inj h).symm
      rw [hgiven, hgiven, hk, if_neg hne, if_neg hne]
    · simp only [hgiven, hk, if_true, List.mem_append, hsame]
  | @blank _ a k x hk hfree hnone =>
    obtain ⟨before, after, hgiven, hraw⟩ := exists_given_insert raw k
    have hall (b : Axis) : raw.given b = RawSelection.given (raw.insert k x) b := by
      rw [hgiven, hnone, ite_self, List.append_nil, hraw hfree]
    exact ⟨fun key hkey => (mem_keys_insert_of_ofText? hk hkey x).symm, fun b _ => hall b,
      fun v => by rw [hall]⟩

theorem agree_of_eqvGen (h : Relation.EqvGen Respelled raw raw') : raw.Agree raw' := by
  induction h with
  | rel _ _ h => exact h.agree
  | refl raw => exact .refl raw
  | symm _ _ _ ih => exact ih.symm
  | trans _ _ _ _ _ ih ih' => exact ih.trans ih'

end RawSelection

namespace Catalogue

variable {c : Catalogue} {raw raw' : RawSelection} {i : Issue} {a : Axis}

/-! ## Issues -/

theorem chosenFragments_congr (h : raw.Alike raw') :
    c.chosenFragments raw' = c.chosenFragments raw := by
  unfold chosenFragments
  rw [funext (chosen_congr (c := c) h)]

theorem mem_axisIssues_congr (h : raw.Agree raw') :
    i ∈ c.axisIssues raw a ↔ i ∈ c.axisIssues raw' a := by
  by_cases ha : a = .hooks
  · subst ha
    show i ∈ c.unknownValues .hooks _ ↔ i ∈ c.unknownValues .hooks _
    unfold unknownValues
    simp only [List.mem_map, List.mem_filter, h.hooks]
  · unfold axisIssues
    rw [h.single a ha]

/-- Both raw selections are rejected for the same reasons. -/
theorem mem_issues_congr (h : raw.Agree raw') : i ∈ c.issues raw ↔ i ∈ c.issues raw' := by
  have hfragments := chosenFragments_congr (c := c) h.alike
  have hchosen := funext (chosen_congr (c := c) h.alike)
  unfold issues unmetRequirements
  simp only [List.mem_append, List.mem_map, List.mem_flatMap, h.mem_unknownKeys,
    mem_axisIssues_congr h, hfragments, hchosen]

/-- Both raw selections are resolved to one selection, or both are rejected with the same issues. -/
inductive SameOutcome (c : Catalogue) (raw raw' : RawSelection) : Prop
  | resolved {s : Selection} (left : c.resolve raw = .ok s) (right : c.resolve raw' = .ok s)
  | rejected {is is' : List Issue} (left : c.resolve raw = .error is)
      (right : c.resolve raw' = .error is') (same : ∀ i, i ∈ is ↔ i ∈ is')

theorem sameOutcome_of_agree (h : raw.Agree raw') : c.SameOutcome raw raw' := by
  cases hs : c.resolve raw with
  | ok s => exact .resolved hs (resolve_congr h.alike hs)
  | error is =>
    obtain ⟨rfl, hne⟩ := resolve_eq_error_iff.1 hs
    have hne' : c.issues raw' ≠ [] := by
      obtain ⟨i, hi⟩ := List.exists_mem_of_ne_nil _ hne
      exact List.ne_nil_of_mem ((mem_issues_congr h).1 hi)
    exact .rejected hs (resolve_eq_error_iff.2 ⟨rfl, hne'⟩) fun i => mem_issues_congr h

/-- Resolution depends only on the keys that name no axis, on the values given for each axis of one
value, and on which hooks are given. So it does not matter how each entry is spelled. -/
theorem sameOutcome_of_respelled (c : Catalogue) :
    (∀ raw raw', RawSelection.Agree raw raw' → c.SameOutcome raw raw') ∧
      ∀ raw raw', Relation.EqvGen RawSelection.Respelled raw raw' → c.SameOutcome raw raw' :=
  ⟨fun _ _ => sameOutcome_of_agree, fun _ _ h =>
    sameOutcome_of_agree (RawSelection.agree_of_eqvGen h)⟩

/-- The faults of `faultyRaw` under other keys, with other blanks and with the hooks once. -/
def respelledRaw : RawSelection :=
  .ofList [(" LANGUAGE", .many [" go", "none", "ruby"]), ("package_manager", .many ["bundler "]),
    ("Service", .one "\tlambda"), ("hook", .one "canary"), ("provider", .one "None"),
    ("runtime", .many [])]

/-- What is rejected is rejected for the same reasons however it is spelled, and what is resolved is
resolved as it is written by the selection itself, or with its hooks in another order. -/
theorem sameOutcome_of_respelled_sample :
    builtin.SameOutcome faultyRaw respelledRaw ∧ builtin.SameOutcome sampleRaw sample.toRaw ∧
      builtin.SameOutcome (sampleRaw.insert "hook" (.many ["rollback", " hotfix"]))
        (sampleRaw.insert "hook" (.many ["hotfix", "rollback", "hotfix"])) := by
  obtain ⟨hagree, hrespelled⟩ := sameOutcome_of_respelled builtin
  refine ⟨hagree _ _ (by decide +kernel), hagree _ _ (by decide +kernel),
    hrespelled _ _ (.rel _ _ ?_)⟩
  exact .hooks sampleRaw (by decide +kernel) fun v => by
    rw [show RawSelection.choices _ = ["rollback", "hotfix"] by decide +kernel,
      show RawSelection.choices _ = ["hotfix", "rollback", "hotfix"] by decide +kernel]
    simp [or_comm]

end Catalogue

end PipeLoom
