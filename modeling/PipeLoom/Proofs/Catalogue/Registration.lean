import PipeLoom.Proofs.Catalogue.Lookup

/-!
# Registration

Registering a list of fragments leaves under every name the fragment registered last, and on every
axis the values in the order in which they were first seen. Names and orders make up a catalogue
(`ext_of_lookup`), so an overlay may be collected before it is merged: that comes to registering its
fragments one by one (`merge_registerAll`).
-/

namespace PipeLoom

/-- The values of the fragments of an axis, in the order of the list. -/
def Fragment.valuesOn (a : Axis) (fs : List Fragment) : List String :=
  (fs.filter (·.axis = a)).map (·.value)

/-- The last fragment of that name in the list. -/
def Fragment.latest? (fs : List Fragment) (r : FragmentRef) : Option Fragment :=
  fs.reverse.find? (·.ref == r)

namespace Catalogue

open Fragment (valuesOn latest?)

variable {c d o : Catalogue} {a : Axis} {v : String} {f : Fragment} {fs : List Fragment}

/-- The values of an axis in declaration order. -/
def order (c : Catalogue) (a : Axis) : List String := (c.values a).map (·.value)

theorem nodup_order : (c.order a).Nodup := c.nodup a

/-- A catalogue is made of the orders of its values and of what it holds under each name. -/
theorem ext_of_lookup (horder : ∀ a, c.order a = d.order a)
    (hget : ∀ a v, c.get? a v = d.get? a v) : c = d := by
  have hvalues : ∀ (e : Catalogue) a, e.values a = (e.order a).filterMap (e.get? a) := by
    intro e a
    unfold order
    rw [List.filterMap_map, List.filterMap_congr (g := some) fun g hg => ?_, List.filterMap_some]
    exact get?_eq_some_iff.2 ⟨hg, rfl⟩
  refine ext fun a => ?_
  rw [hvalues c, hvalues d, horder, funext (hget a)]

/-! ## One fragment -/

theorem find?_put (f : Fragment) (v : String) (gs : List Fragment) :
    (put f gs).find? (·.value == v) =
      if f.value = v then some f else gs.find? (·.value == v) := by
  induction gs with
  | nil => by_cases h : f.value = v <;> simp [put, h]
  | cons g gs ih =>
    unfold put
    split
    · rename_i hg
      by_cases h : f.value = v <;> simp [h, hg]
    · rename_i hg
      by_cases h : g.value = v
      · have hne : f.value ≠ v := fun e => hg (h.trans e.symm)
        simp [h, hne]
      · simp [h, ih]

theorem get?_register :
    (c.register f).get? a v = if f.ref = ⟨a, v⟩ then some f else c.get? a v := by
  unfold get? register Fragment.ref
  simp only [FragmentRef.mk.injEq]
  by_cases ha : a = f.axis
  · rw [if_pos ha, find?_put]
    simp [ha]
  · rw [if_neg ha, if_neg fun h => ha h.1.symm]

theorem order_register : (c.register f).order a =
    if f.axis = a ∧ f.value ∉ c.order a then c.order a ++ [f.value] else c.order a := by
  unfold order register
  by_cases ha : a = f.axis
  · simp only [ha, if_true, values_put, true_and, ite_not]
  · simp only [ha, Ne.symm ha, if_false, false_and]

/-! ## Lists of fragments -/

theorem get?_registerAll :
    (c.registerAll fs).get? a v = (latest? fs ⟨a, v⟩).or (c.get? a v) := by
  unfold registerAll
  induction fs generalizing c with
  | nil => rfl
  | cons f fs ih =>
    rw [List.foldl_cons, ih, get?_register]
    unfold latest?
    rw [List.reverse_cons, List.find?_append, Option.or_assoc]
    by_cases h : f.ref = ⟨a, v⟩ <;> simp [h]

theorem eraseDups_of_nodup {xs : List String} (h : xs.Nodup) : xs.eraseDups = xs := by
  induction xs with
  | nil => rfl
  | cons x xs ih =>
    obtain ⟨hx, hxs⟩ := List.nodup_cons.1 h
    have hfilter : (xs.filter fun y => !y == x) = xs := by
      refine List.filter_eq_self.2 fun y hy => ?_
      have hne : y ≠ x := fun e => hx (e ▸ hy)
      simp [hne]
    rw [List.eraseDups_cons, hfilter, ih hxs]

theorem eraseDups_concat {xs : List String} :
    (xs ++ [v]).eraseDups = if v ∈ xs then xs.eraseDups else xs.eraseDups ++ [v] := by
  rw [List.eraseDups_append]
  unfold List.removeAll
  by_cases h : v ∈ xs <;> simp [h, List.eraseDups_cons]

/-- A value seen before adds nothing to what is first seen. -/
theorem eraseDups_append_cons_of_mem {xs ys : List String} (h : v ∈ xs) :
    (xs ++ v :: ys).eraseDups = (xs ++ ys).eraseDups := by
  rw [List.eraseDups_append, List.eraseDups_append]
  unfold List.removeAll
  rw [List.filter_cons, if_neg (by simp [h])]

/-- Values keep their positions, and new ones follow as they are first seen. -/
theorem order_registerAll :
    (c.registerAll fs).order a = (c.order a ++ valuesOn a fs).eraseDups := by
  unfold registerAll
  induction fs generalizing c with
  | nil =>
    show c.order a = (c.order a ++ []).eraseDups
    rw [List.append_nil, eraseDups_of_nodup nodup_order]
  | cons f fs ih =>
    rw [List.foldl_cons, ih, order_register]
    unfold valuesOn
    rw [List.filter_cons]
    by_cases ha : f.axis = a
    · rw [if_pos (decide_eq_true ha), List.map_cons]
      by_cases hv : f.value ∈ c.order a
      · rw [if_neg fun h => h.2 hv, eraseDups_append_cons_of_mem hv]
      · rw [if_pos ⟨ha, hv⟩, List.append_assoc]
        rfl
    · rw [if_neg fun h => ha h.1, if_neg (by simpa using ha)]

/-! ## Merging -/

theorem latest?_list (r : FragmentRef) : latest? o.list r = o.find? r := by
  refine Option.ext fun f => ?_
  constructor
  · intro h
    have hmem := List.mem_reverse.1 (List.mem_of_find?_eq_some h)
    have hr : f.ref = r := by simpa using List.find?_some h
    subst hr
    exact get?_eq_some_iff.2 ⟨mem_values_of_mem_list hmem, rfl⟩
  · intro h
    have hmem : f ∈ o.list.reverse := List.mem_reverse.2 (mem_list_of_find? h)
    have hr : f.ref = r := ref_of_get? h
    cases hlatest : latest? o.list r with
    | none => exact absurd (List.find?_eq_none.1 hlatest f hmem) (by simp [hr])
    | some g =>
      -- both have the name, and no name stands twice in a catalogue
      have hg := mem_values_of_mem_list (List.mem_reverse.1 (List.mem_of_find?_eq_some hlatest))
      have hgr : g.ref = r := by simpa using List.find?_some hlatest
      subst hgr
      obtain ⟨hf, hv⟩ := get?_eq_some_iff.1 h
      rw [eq_of_value_eq hg hf hv.symm]

theorem filter_list : o.list.filter (·.axis = a) = o.values a := by
  have hfilter : ∀ b, (o.values b).filter (·.axis = a) = if b = a then o.values b else [] := by
    intro b
    split
    · rename_i h
      exact List.filter_eq_self.2 fun f hf => by simp [o.axis_eq b f hf, h]
    · rename_i h
      exact List.filter_eq_nil_iff.2 fun f hf => by simp [o.axis_eq b f hf, h]
  unfold list
  rw [List.filter_flatMap]
  simp only [hfilter]
  cases a <;> simp [Axis.all]

theorem valuesOn_list : valuesOn a o.list = o.order a := by
  unfold valuesOn order
  rw [filter_list]

theorem get?_merge : (c.merge o).get? a v = (o.get? a v).or (c.get? a v) := by
  unfold merge
  rw [get?_registerAll, latest?_list]
  rfl

theorem order_merge : (c.merge o).order a = (c.order a ++ o.order a).eraseDups := by
  unfold merge
  rw [order_registerAll, valuesOn_list]

theorem merge_empty : c.merge ∅ = c := rfl

/-- A fragment may be registered before or after merging. -/
theorem merge_register : c.merge (o.register f) = (c.merge o).register f := by
  refine ext_of_lookup (fun a => ?_) fun a v => ?_
  · rw [order_merge, order_register, order_register, order_merge]
    by_cases ha : f.axis = a
    · by_cases hv : f.value ∈ o.order a
      · have hseen : f.value ∈ (c.order a ++ o.order a).eraseDups :=
          List.mem_eraseDups.2 (List.mem_append_right _ hv)
        rw [if_neg fun h => h.2 hv, if_neg fun h => h.2 hseen]
      · rw [if_pos ⟨ha, hv⟩, ← List.append_assoc, eraseDups_concat]
        simp only [ha, true_and, List.mem_eraseDups, ite_not]
    · rw [if_neg fun h => ha h.1, if_neg fun h => ha h.1]
  · rw [get?_merge, get?_register, get?_register, get?_merge]
    split <;> rfl

/-- Fragments may be collected in the overlay before it is merged. -/
theorem merge_registerAll : c.merge (o.registerAll fs) = (c.merge o).registerAll fs := by
  unfold registerAll
  induction fs generalizing o with
  | nil => rfl
  | cons f fs ih => rw [List.foldl_cons, ih, merge_register, List.foldl_cons]

end Catalogue

end PipeLoom
