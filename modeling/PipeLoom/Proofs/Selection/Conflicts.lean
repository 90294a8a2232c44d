import Mathlib.Data.Sym.Sym2
import PipeLoom.Proofs.Selection.Chosen

/-!
# Conflicts between selected fragments

A value counts as selected if it is known and its axis has room for it, even where other values are
wrong (`Catalogue.Selects`). The fragments of such values are compared in the order of their
references, so each pair once (`Catalogue.nodup_pairs`), the earlier fragment first
(`Catalogue.mem_conflicts`).
-/

namespace PipeLoom

/-! ## Order of references -/

theorem Axis.rank_injective : Function.Injective Axis.rank := by
  intro a b
  cases a <;> cases b <;> decide

namespace FragmentRef

variable {r q t : FragmentRef}

/-- By axis precedence, and by the value within an axis. -/
def Before (r q : FragmentRef) : Prop :=
  r.axis.rank < q.axis.rank ∨ r.axis = q.axis ∧ r.value < q.value

instance : Decidable (r.Before q) := inferInstanceAs (Decidable (_ ∨ _ ∧ _))

theorem le_iff :
    r.le q = true ↔
      r.axis.rank < q.axis.rank ∨ r.axis.rank = q.axis.rank ∧ r.value ≤ q.value := by
  simp [le]

theorem le_trans (hrq : r.le q = true) (hqt : q.le t = true) : r.le t = true := by
  rw [le_iff] at hrq hqt ⊢
  rcases hrq with hrq | ⟨hrq, hvalue⟩
  · rcases hqt with hqt | ⟨hqt, -⟩ <;> omega
  · rcases hqt with hqt | ⟨hqt, hvalue'⟩
    · omega
    · exact .inr ⟨hrq.trans hqt, String.le_trans hvalue hvalue'⟩

theorem le_total (r q : FragmentRef) : (r.le q || q.le r) = true := by
  rw [Bool.or_eq_true, le_iff, le_iff]
  rcases Nat.lt_trichotomy r.axis.rank q.axis.rank with h | h | h
  · exact .inl (.inl h)
  · rcases String.le_total r.value q.value with hvalue | hvalue
    · exact .inl (.inr ⟨h, hvalue⟩)
    · exact .inr (.inr ⟨h.symm, hvalue⟩)
  · exact .inr (.inl h)

theorem before_of_le (h : r.le q = true) (hne : r ≠ q) : r.Before q := by
  rcases le_iff.1 h with h | ⟨h, hvalue⟩
  · exact .inl h
  · have haxis := Axis.rank_injective h
    refine .inr ⟨haxis, ?_⟩
    by_contra hlt
    have hvalue' : r.value = q.value := String.le_antisymm hvalue (String.not_lt.1 hlt)
    exact hne (congrArg₂ FragmentRef.mk haxis hvalue')

theorem Before.irrefl (h : r.Before r) : False := by
  rcases h with h | ⟨-, h⟩
  · exact Nat.lt_irrefl _ h
  · exact String.lt_irrefl _ h

theorem Before.asymm (h : r.Before q) (h' : q.Before r) : False := by
  rcases h with h | ⟨ha, hv⟩
  · rcases h' with h' | ⟨ha', -⟩
    · omega
    · rw [ha'] at h
      exact Nat.lt_irrefl _ h
  · rcases h' with h' | ⟨-, hv'⟩
    · rw [ha] at h'
      exact Nat.lt_irrefl _ h'
    · exact String.lt_irrefl _ (String.lt_trans hv hv')

end FragmentRef

/-! ## What is selected -/

/-- More values are given than the axis takes. -/
def RawSelection.Crowds (raw : RawSelection) (a : Axis) : Prop :=
  a.isMultiValued = false ∧ 2 ≤ (raw.given a).length

instance (raw : RawSelection) (a : Axis) : Decidable (raw.Crowds a) :=
  inferInstanceAs (Decidable (_ ∧ _))

namespace Catalogue

variable (c : Catalogue) (raw : RawSelection)

/-- The value counts as selected, whatever is wrong with others. -/
def Selects (a : Axis) (v : String) : Prop :=
  v ∈ raw.given a ∧ c.contains a v = true ∧ ¬raw.Crowds a

instance (a : Axis) (v : String) : Decidable (c.Selects raw a v) :=
  inferInstanceAs (Decidable (_ ∧ _ ∧ ¬_))

/-- The fragment of a value that counts as selected. -/
def SelectsFragment (f : Fragment) : Prop :=
  c.Selects raw f.axis f.value ∧ c.find? f.ref = some f

instance (f : Fragment) : Decidable (c.SelectsFragment raw f) :=
  inferInstanceAs (Decidable (_ ∧ _))

variable {c raw} {a : Axis} {v : String} {f g : Fragment}

theorem mem_chosen : v ∈ c.chosen raw a ↔ c.Selects raw a v := by
  cases ha : a.isMultiValued with
  | true =>
    obtain rfl := Axis.isMultiValued_iff.1 ha
    have hfits : ¬raw.Crowds .hooks := fun h => Bool.noConfusion h.1
    rw [mem_chosen_hooks]
    exact ⟨fun ⟨hknown, hgiven⟩ => ⟨hgiven, hknown, hfits⟩,
      fun ⟨hgiven, hknown, _⟩ => ⟨hknown, hgiven⟩⟩
  | false =>
    unfold chosen Selects RawSelection.Crowds
    rw [ha, if_neg Bool.false_ne_true]
    rcases raw.given a with _ | ⟨w, _ | ⟨x, vs⟩⟩
    · simp
    · simp only
      split
      · rename_i hw
        simp +contextual [hw]
      · rename_i hw
        constructor
        · intro h
          exact absurd h List.not_mem_nil
        · rintro ⟨h, hknown, -⟩
          obtain rfl := List.mem_singleton.1 h
          exact absurd hknown hw
    · simp

theorem mem_chosenFragments_iff : f ∈ c.chosenFragments raw ↔ c.SelectsFragment raw f := by
  rw [mem_chosenFragments]
  simp only [mem_chosen]
  constructor
  · rintro ⟨a, v, hv, hf⟩
    have href := ref_of_get? hf
    obtain rfl : f.axis = a := congrArg FragmentRef.axis href
    obtain rfl : f.value = v := congrArg FragmentRef.value href
    exact ⟨hv, hf⟩
  · rintro ⟨hselects, hf⟩
    exact ⟨f.axis, f.value, hselects, hf⟩

end Catalogue

/-! ## Pairs -/

/-- The reason why two fragments exclude each other: the first one's if that declares the exclusion,
and otherwise the second one's. -/
inductive Fragment.Clash (f g : Fragment) : String → Prop
  | first {e : Exclusion} : f.exclusionOf? g.ref = some e →
      Clash f g (e.reason.getD "mutually exclusive")
  | second {e : Exclusion} : f.exclusionOf? g.ref = none → g.exclusionOf? f.ref = some e →
      Clash f g (e.reason.getD "mutually exclusive")

/-- The two fragments of a conflict, in no order. -/
def Issue.pair? : Issue → Option (Sym2 FragmentRef)
  | conflict first second _ => some s(first, second)
  | _ => none

namespace Catalogue

/-- The selected fragments as they are compared with each other. -/
def sortedFragments (c : Catalogue) (raw : RawSelection) : List Fragment :=
  (c.chosenFragments raw).mergeSort fun f g => f.ref.le g.ref

variable {c : Catalogue} {raw : RawSelection} {f g : Fragment} {fs : List Fragment} {i : Issue}

theorem conflict?_eq_some_iff :
    conflict? f g = some i ↔ ∃ reason, f.Clash g reason ∧ i = .conflict f.ref g.ref reason := by
  unfold conflict?
  constructor
  · intro h
    obtain ⟨e, he, rfl⟩ := Option.map_eq_some_iff.1 h
    cases hf : f.exclusionOf? g.ref with
    | some e' =>
      rw [hf] at he
      obtain rfl : e' = e := Option.some.inj he
      exact ⟨_, .first hf, rfl⟩
    | none =>
      rw [hf] at he
      exact ⟨_, .second hf he, rfl⟩
  · rintro ⟨reason, hclash, rfl⟩
    cases hclash with
    | first hf =>
      rw [hf]
      rfl
    | second hf hg =>
      rw [hf, hg]
      rfl

theorem mem_sortedFragments : f ∈ c.sortedFragments raw ↔ c.SelectsFragment raw f := by
  unfold sortedFragments
  rw [List.mem_mergeSort, mem_chosenFragments_iff]

theorem eq_of_ref_eq (hf : c.SelectsFragment raw f) (hg : c.SelectsFragment raw g)
    (h : f.ref = g.ref) : f = g := by
  have hfound := hf.2
  rw [h, hg.2] at hfound
  exact (Option.some.inj hfound).symm

/-- One fragment a reference is selected, so the order is strict. -/
theorem pairwise_sortedFragments :
    (c.sortedFragments raw).Pairwise fun f g => f.ref.Before g.ref := by
  have hsorted : (c.sortedFragments raw).Pairwise fun f g => f.ref.le g.ref = true := by
    refine List.pairwise_mergeSort ?_ ?_ _
    · exact fun _ _ _ => FragmentRef.le_trans
    · exact fun f g => FragmentRef.le_total f.ref g.ref
  have hnodup : (c.sortedFragments raw).Nodup :=
    (List.mergeSort_perm _ _).nodup_iff.2 nodup_chosenFragments
  refine (hsorted.and hnodup).imp_of_mem fun {f g} hf hg h => ?_
  have hne : f.ref ≠ g.ref := fun href =>
    h.2 (eq_of_ref_eq (mem_sortedFragments.1 hf) (mem_sortedFragments.1 hg) href)
  exact FragmentRef.before_of_le h.1 hne

/-- Each pair is compared once, the first fragment with the later one. -/
theorem mem_conflicts (hfs : fs.Pairwise fun f g => f.ref.Before g.ref) :
    i ∈ conflicts fs ↔
      ∃ f ∈ fs, ∃ g ∈ fs, f.ref.Before g.ref ∧ conflict? f g = some i := by
  induction fs with
  | nil => simp [conflicts]
  | cons f fs ih =>
    obtain ⟨hfirst, hrest⟩ := List.pairwise_cons.1 hfs
    rw [conflicts, List.mem_append, List.mem_filterMap, ih hrest]
    constructor
    · rintro (⟨g, hg, hi⟩ | ⟨f', hf', g', hg', hbefore, hi⟩)
      · exact ⟨f, List.mem_cons_self, g, List.mem_cons_of_mem _ hg, hfirst g hg, hi⟩
      · exact ⟨f', List.mem_cons_of_mem _ hf', g', List.mem_cons_of_mem _ hg', hbefore, hi⟩
    · rintro ⟨f', hf', g', hg', hbefore, hi⟩
      rcases List.mem_cons.1 hf' with rfl | hf
      · rcases List.mem_cons.1 hg' with rfl | hg
        · exact absurd hbefore FragmentRef.Before.irrefl
        · exact .inl ⟨g', hg, hi⟩
      · rcases List.mem_cons.1 hg' with rfl | hg
        · exact absurd hbefore (hfirst f' hf).asymm
        · exact .inr ⟨f', hf, g', hg, hbefore, hi⟩

theorem pair?_of_conflict? (h : conflict? f g = some i) : i.pair? = some s(f.ref, g.ref) := by
  obtain ⟨reason, -, rfl⟩ := conflict?_eq_some_iff.1 h
  rfl

theorem nodup_pairs (hfs : fs.Pairwise fun f g => f.ref.Before g.ref) :
    ((conflicts fs).filterMap Issue.pair?).Nodup := by
  induction fs with
  | nil => simp [conflicts]
  | cons f fs ih =>
    obtain ⟨hfirst, hrest⟩ := List.pairwise_cons.1 hfs
    rw [conflicts, List.filterMap_append, List.nodup_append]
    refine ⟨?_, ih hrest, ?_⟩
    · rw [List.filterMap_filterMap]
      refine List.pairwise_filterMap.2 (hrest.imp fun {g g'} hbefore p hp p' hp' heq => ?_)
      obtain ⟨i, hi, hp⟩ := Option.bind_eq_some_iff.1 hp
      obtain ⟨i', hi', hp'⟩ := Option.bind_eq_some_iff.1 hp'
      rw [pair?_of_conflict? hi] at hp
      rw [pair?_of_conflict? hi', ← heq, ← hp] at hp'
      have hrefs : g'.ref = g.ref := Sym2.congr_right.1 (Option.some.inj hp')
      rw [hrefs] at hbefore
      exact hbefore.irrefl
    · intro p hp p' hp' heq
      obtain ⟨i, hi, hp⟩ := List.mem_filterMap.1 hp
      obtain ⟨g, hg, hi⟩ := List.mem_filterMap.1 hi
      obtain ⟨i', hi', hp'⟩ := List.mem_filterMap.1 hp'
      obtain ⟨f', hf', g', hg', -, hi'⟩ := (mem_conflicts hrest).1 hi'
      rw [pair?_of_conflict? hi] at hp
      rw [pair?_of_conflict? hi', ← heq, ← hp] at hp'
      have hmem : f.ref ∈ s(f'.ref, g'.ref) := by
        rw [Option.some.inj hp']
        exact Sym2.mem_mk_left _ _
      rcases Sym2.mem_iff.1 hmem with hrefs | hrefs
      · exact absurd (hrefs ▸ hfirst f' hf') FragmentRef.Before.irrefl
      · exact absurd (hrefs ▸ hfirst g' hg') FragmentRef.Before.irrefl

end Catalogue

end PipeLoom
