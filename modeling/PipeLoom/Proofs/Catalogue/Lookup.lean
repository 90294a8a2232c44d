import Mathlib.Data.List.Nodup
import PipeLoom.Catalogue.Basic

/-!
# Look-up in a catalogue

A value names at most one fragment of its axis, so `get?` finds a fragment exactly where it stands:
under its own axis and its own value.
-/

namespace PipeLoom.Catalogue

variable {c : Catalogue} {a : Axis} {v : String} {f g : Fragment}

theorem eq_of_value_eq (hf : f ∈ c.values a) (hg : g ∈ c.values a) (h : f.value = g.value) :
    f = g :=
  List.inj_on_of_nodup_map (c.nodup a) hf hg h

theorem get?_eq_some_iff : c.get? a v = some f ↔ f ∈ c.values a ∧ f.value = v := by
  unfold get?
  constructor
  · intro h
    exact ⟨List.mem_of_find?_eq_some h, by simpa using List.find?_some h⟩
  · rintro ⟨hf, rfl⟩
    cases h : (c.values a).find? (·.value == f.value) with
    | none => exact (List.find?_eq_none.1 h f hf (by simp)).elim
    | some g =>
      have hv : g.value = f.value := by simpa using List.find?_some h
      rw [eq_of_value_eq (List.mem_of_find?_eq_some h) hf hv]

theorem ref_of_get? (h : c.get? a v = some f) : f.ref = ⟨a, v⟩ := by
  obtain ⟨hf, hv⟩ := get?_eq_some_iff.1 h
  rw [Fragment.ref, c.axis_eq a f hf, hv]

theorem contains_iff : c.contains a v = true ↔ ∃ f, c.get? a v = some f := Option.isSome_iff_exists

theorem contains_iff_mem : c.contains a v = true ↔ v ∈ (c.values a).map (·.value) := by
  simp only [contains_iff, get?_eq_some_iff, List.mem_map]

theorem mem_list : f ∈ c.list ↔ ∃ a, f ∈ c.values a := by
  unfold list
  rw [List.mem_flatMap]
  exact ⟨fun ⟨a, _, h⟩ => ⟨a, h⟩, fun ⟨a, h⟩ => ⟨a, Axis.mem_all a, h⟩⟩

theorem mem_values_of_mem_list (h : f ∈ c.list) : f ∈ c.values f.axis := by
  obtain ⟨a, hf⟩ := mem_list.1 h
  rwa [c.axis_eq a f hf]

theorem eq_of_mem_list (hf : f ∈ c.list) (hg : g ∈ c.list) (h : f.ref = g.ref) : f = g := by
  obtain ⟨haxis, hvalue⟩ := FragmentRef.mk.inj h
  have hmem := mem_values_of_mem_list hg
  rw [← haxis] at hmem
  exact eq_of_value_eq (mem_values_of_mem_list hf) hmem hvalue

theorem mem_list_of_find? {r : FragmentRef} (h : c.find? r = some f) : f ∈ c.list :=
  mem_list.2 ⟨r.axis, (get?_eq_some_iff.1 h).1⟩

end PipeLoom.Catalogue
