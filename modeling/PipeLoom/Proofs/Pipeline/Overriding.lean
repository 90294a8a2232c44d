import Mathlib.Data.List.Induction
import PipeLoom.Pipeline.Compose
import PipeLoom.Proofs.Catalogue.Registration

/-!
# Overriding steps

A step takes the place of the one of its name. Steps that override one another come down to one step
for each name, which stands where the name first occurs and is the last step of that name
(`merges_foldl`).
-/

namespace PipeLoom

/-- No two steps have one name. -/
def DistinctNames (ss : List Step) : Prop := (ss.map (·.name)).Nodup

theorem DistinctNames.nil : DistinctNames [] := List.nodup_nil

theorem DistinctNames.concat {ss : List Step} {s : Step} (h : DistinctNames ss)
    (hs : s.name ∉ ss.map (·.name)) : DistinctNames (ss ++ [s]) := by
  unfold DistinctNames
  rw [List.map_append, List.map_singleton]
  exact List.nodup_append.2 ⟨h, List.nodup_singleton _, fun x hx y hy hxy =>
    hs (List.mem_singleton.1 hy ▸ hxy ▸ hx)⟩

/-- `ms` is what steps of one list come down to. -/
structure Merges (ss ms : List Step) : Prop where
  /-- The names, each once, in the order in which they first occur. -/
  names : ms.map (·.name) = (ss.map (·.name)).eraseDups
  /-- A step is the last of its name. -/
  latest : ∀ m ∈ ms, ∃ before after, ss = before ++ m :: after ∧ ∀ s ∈ after, s.name ≠ m.name

variable {s m : Step} {ss ms : List Step}

/-! ## One step -/

theorem names_overrideStep (s : Step) (ms : List Step) :
    (overrideStep s ms).map (·.name) =
      if s.name ∈ ms.map (·.name) then ms.map (·.name) else ms.map (·.name) ++ [s.name] := by
  induction ms with
  | nil => rfl
  | cons t ts ih =>
    unfold overrideStep
    by_cases ht : t.name = s.name
    · simp [ht]
    · have hst : s.name ≠ t.name := Ne.symm ht
      rw [if_neg ht, List.map_cons, ih, List.map_cons]
      by_cases hts : s.name ∈ ts.map (·.name)
      · rw [if_pos hts, if_pos (List.mem_cons_of_mem _ hts)]
      · rw [if_neg hts, if_neg (by simp [hst, hts]), List.cons_append]

theorem overrideStep_of_notMem (hs : s.name ∉ ms.map (·.name)) : overrideStep s ms = ms ++ [s] := by
  induction ms with
  | nil => rfl
  | cons t ts ih =>
    rw [List.map_cons, List.mem_cons, not_or] at hs
    unfold overrideStep
    rw [if_neg (Ne.symm hs.1), ih hs.2]
    rfl

theorem DistinctNames.override (hms : DistinctNames ms) (s : Step) :
    DistinctNames (overrideStep s ms) := by
  by_cases hs : s.name ∈ ms.map (·.name)
  · unfold DistinctNames
    rwa [names_overrideStep, if_pos hs]
  · rw [overrideStep_of_notMem hs]
    exact hms.concat hs

/-- Where names are distinct, what is left beside the new step has another name. -/
theorem mem_overrideStep (hms : DistinctNames ms) (hm : m ∈ overrideStep s ms) :
    m = s ∨ m ∈ ms ∧ m.name ≠ s.name := by
  induction ms with
  | nil => exact .inl (List.mem_singleton.1 hm)
  | cons t ts ih =>
    obtain ⟨ht, hts⟩ := List.nodup_cons.1 hms
    unfold overrideStep at hm
    split at hm
    · rename_i hname
      rcases List.mem_cons.1 hm with rfl | hm
      · exact .inl rfl
      · refine .inr ⟨List.mem_cons_of_mem _ hm, fun h => ht ?_⟩
        exact List.mem_map.2 ⟨m, hm, h.trans hname.symm⟩
    · rename_i hname
      rcases List.mem_cons.1 hm with rfl | hm
      · exact .inr ⟨List.mem_cons_self, hname⟩
      · exact (ih hts hm).imp_right fun ⟨hmem, hne⟩ => ⟨List.mem_cons_of_mem _ hmem, hne⟩

theorem Merges.nil : Merges [] [] := ⟨rfl, fun _ h => nomatch h⟩

theorem Merges.override (h : Merges ss ms) (hms : DistinctNames ms) (s : Step) :
    Merges (ss ++ [s]) (overrideStep s ms) := by
  constructor
  · rw [names_overrideStep, List.map_append, List.map_singleton, Catalogue.eraseDups_concat]
    simp only [h.names, List.mem_eraseDups]
  · intro m hm
    rcases mem_overrideStep hms hm with rfl | ⟨hold, hne⟩
    · exact ⟨ss, [], rfl, fun _ h => nomatch h⟩
    · obtain ⟨before, after, rfl, hafter⟩ := h.latest m hold
      refine ⟨before, after ++ [s], by simp, fun t ht => ?_⟩
      rcases List.mem_append.1 ht with ht | ht
      · exact hafter t ht
      · rw [List.mem_singleton.1 ht]
        exact hne.symm

/-! ## One step after the other -/

theorem DistinctNames.overrideAll (hms : DistinctNames ms) (ss : List Step) :
    DistinctNames (ss.foldl (fun ms s => overrideStep s ms) ms) := by
  induction ss generalizing ms with
  | nil => exact hms
  | cons s ss ih => exact ih (hms.override s)

theorem merges_foldl (ss : List Step) :
    Merges ss (ss.foldl (fun ms s => overrideStep s ms) []) := by
  induction ss using List.reverseRecOn with
  | nil => exact .nil
  | append_singleton ss s ih =>
    rw [List.foldl_concat]
    exact ih.override (DistinctNames.nil.overrideAll ss) s

end PipeLoom
