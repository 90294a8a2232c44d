import Mathlib.Order.Bounds.Defs
import PipeLoom.Proofs.Pipeline.Renaming

/-!
# The search for a free name

A step of a hook whose name is taken is looked for another name, candidate by candidate.
`Searches` says where the search stands after so many turns, with nothing that bounds them. It makes
fewer turns than names are taken (`Searches.turns_lt`), and where it ends it has found what
`hookStepName` finds; a hook's step is added under the least free candidate
(`appendHookStep_least_name`).
-/

namespace PipeLoom

/-- The candidates in the order in which they are tried. -/
def candidate (base : String) : Nat → String
  | 0 => base
  | turns + 1 => numbered base (turns + 2)

/-- Where a search from `base` stands after some turns: at a candidate, with the number of the next
one. Only a candidate that is taken is left. -/
inductive Searches (taken : List String) (base : String) : Nat → String → Nat → Prop where
  | start : Searches taken base 0 base 2
  | next {turns n : Nat} {name : String} : Searches taken base turns name n → name ∈ taken →
      Searches taken base (turns + 1) (numbered base n) (n + 1)

variable {taken : List String} {base name hook : String} {turns n : Nat}

/-! ## Candidates -/

theorem length_lt_numbered (base : String) (n : Nat) : base.length < (numbered base n).length := by
  have hspace : " ".length = 1 := rfl
  rw [numbered, String.length_append, String.length_append]
  omega

theorem length_le_candidate (base : String) (turns : Nat) :
    base.length ≤ (candidate base turns).length := by
  cases turns with
  | zero => exact Nat.le_refl _
  | succ turns => exact Nat.le_of_lt (length_lt_numbered base _)

theorem candidate_injective (base : String) : Function.Injective (candidate base) := by
  have hfirst (n : Nat) : base ≠ numbered base n := fun h =>
    absurd (length_lt_numbered base n) (h ▸ Nat.lt_irrefl _)
  intro i j h
  cases i with
  | zero =>
    cases j with
    | zero => rfl
    | succ j => exact absurd h (hfirst _)
  | succ i =>
    cases j with
    | zero => exact absurd h.symm (hfirst _)
    | succ j =>
      have hnumber : i + 2 = j + 2 := numbered_injective base h
      omega

theorem name_ne_candidate (name hook : String) (turns : Nat) :
    name ≠ candidate (name ++ " (" ++ hook ++ ")") turns := by
  intro h
  have hopening : " (".length = 2 := rfl
  have hlength := length_le_candidate (name ++ " (" ++ hook ++ ")") turns
  rw [← h, String.length_append, String.length_append, String.length_append] at hlength
  omega

/-! ## Turns -/

/-- What a search has left behind is taken. -/
theorem Searches.eq_candidate (h : Searches taken base turns name n) :
    name = candidate base turns ∧ n = turns + 2 ∧ ∀ i < turns, candidate base i ∈ taken := by
  induction h with
  | start => exact ⟨rfl, rfl, fun i hi => absurd hi (Nat.not_lt_zero i)⟩
  | next _ htaken ih =>
    obtain ⟨rfl, rfl, hpassed⟩ := ih
    refine ⟨rfl, rfl, fun i hi => ?_⟩
    rcases Nat.eq_or_lt_of_le (Nat.le_of_lt_succ hi) with rfl | hi
    · exact htaken
    · exact hpassed i hi

theorem searches_of_taken (h : ∀ i < turns, candidate base i ∈ taken) :
    Searches taken base turns (candidate base turns) (turns + 2) := by
  induction turns with
  | zero => exact .start
  | succ turns ih =>
    exact .next (ih fun i hi => h i (Nat.lt_succ_of_lt hi)) (h turns (Nat.lt_succ_self turns))

/-- Each turn leaves another taken name behind, and the step's own is none of them. -/
theorem Searches.turns_lt {found : String} (hname : name ∈ taken)
    (h : Searches taken (name ++ " (" ++ hook ++ ")") turns found n) : turns < taken.length := by
  obtain ⟨-, -, hpassed⟩ := h.eq_candidate
  generalize hbase : name ++ " (" ++ hook ++ ")" = base at hpassed
  have hown : name ∉ (List.range turns).map (candidate base) := by
    intro hmem
    obtain ⟨i, -, hi⟩ := List.mem_map.1 hmem
    exact name_ne_candidate name hook i (hbase ▸ hi.symm)
  have hdistinct : (name :: (List.range turns).map (candidate base)).Nodup :=
    List.nodup_cons.2 ⟨hown, List.nodup_range.map (candidate_injective base)⟩
  have hsubset : name :: (List.range turns).map (candidate base) ⊆ taken := by
    refine List.cons_subset.2 ⟨hname, fun c hc => ?_⟩
    obtain ⟨i, hi, rfl⟩ := List.mem_map.1 hc
    exact hpassed i (List.mem_range.1 hi)
  have hlength := hdistinct.length_le_of_subset hsubset
  rwa [List.length_cons, List.length_map, List.length_range] at hlength

/-- A search that ends has found the name that is given. -/
theorem searches_hookStepName (hname : name ∈ taken) :
    ∃ turns n, Searches taken (name ++ " (" ++ hook ++ ")") turns (hookStepName taken name hook)
      n := by
  rcases hookStepName_cases taken name hook with ⟨hfree, -⟩ | ⟨-, -, h⟩ |
    ⟨-, hbase, m, h, hle, hpassed, -⟩
  · exact absurd hname hfree
  · exact h ▸ ⟨0, 2, .start⟩
  · obtain ⟨turns, rfl⟩ : ∃ turns, m = turns + 1 + 1 := ⟨m - 2, by omega⟩
    rw [h]
    refine ⟨turns + 1, turns + 3, searches_of_taken fun i hi => ?_⟩
    cases i with
    | zero => exact hbase
    | succ i => exact hpassed (i + 2) (by omega) (by omega)

/-- A search that is over is over at one name. -/
theorem Searches.eq_of_notMem {turns' n' : Nat} {name' : String}
    (h : Searches taken base turns name n) (h' : Searches taken base turns' name' n')
    (hfree : name ∉ taken) (hfree' : name' ∉ taken) : name = name' := by
  obtain ⟨rfl, -, hpassed⟩ := h.eq_candidate
  obtain ⟨rfl, -, hpassed'⟩ := h'.eq_candidate
  rcases Nat.lt_trichotomy turns turns' with hlt | rfl | hlt
  · exact absurd (hpassed' turns hlt) hfree
  · rfl
  · exact absurd (hpassed turns' hlt) hfree'

/-! ## Added steps -/

/-- A hook's step is added behind the steps that are there, as it is but for its name. It keeps its
name if that is free; else the hook is put behind it if that is free, and else the least number from
2 on that makes a free name as well. The search ends: it makes fewer turns than there are steps, and
the first free name that it comes to is the one that is given. -/
theorem appendHookStep_least_name (steps : List Step) (s : Step) (hook : String) :
    let taken := steps.map (·.name)
    let base := s.name ++ " (" ++ hook ++ ")"
    ∃ name, appendHookStep steps s hook = steps ++ [{ s with name }] ∧ name ∉ taken ∧
      (s.name ∉ taken → name = s.name) ∧
      (s.name ∈ taken → base ∉ taken → name = base) ∧
      (s.name ∈ taken → base ∈ taken → ∃ n, name = base ++ " " ++ toString n ∧
        IsLeast {n | 2 ≤ n ∧ base ++ " " ++ toString n ∉ taken} n) ∧
      (s.name ∈ taken → (∃ turns n, Searches taken base turns name n) ∧
        ∀ turns found n, Searches taken base turns found n →
          turns < steps.length ∧ (found ∉ taken → found = name)) := by
  intro taken base
  have hfree := hookStepName_notMem taken s.name hook
  refine ⟨hookStepName taken s.name hook, rfl, hfree, hookStepName_of_notMem,
    fun hname hbase => ?_, fun hname hbase => ?_, fun hname => ?_⟩
  · rcases hookStepName_cases taken s.name hook with ⟨hfree, -⟩ | ⟨-, -, h⟩ | ⟨-, hmem, -⟩
    · exact absurd hname hfree
    · exact h
    · exact absurd hmem hbase
  · rcases hookStepName_cases taken s.name hook with ⟨hfree, -⟩ | ⟨-, hfree, -⟩ |
      ⟨-, -, m, h, hle, hpassed, hfree⟩
    · exact absurd hname hfree
    · exact absurd hbase hfree
    · refine ⟨m, h, ⟨hle, hfree⟩, fun i ⟨hi, hifree⟩ => ?_⟩
      by_contra hlt
      exact hifree (hpassed i hi (Nat.lt_of_not_le hlt))
  · obtain ⟨turns, n, hfound⟩ : ∃ turns n,
        Searches taken base turns (hookStepName taken s.name hook) n := searches_hookStepName hname
    refine ⟨⟨turns, n, hfound⟩, fun turns' found n' h => ⟨?_, fun hfound' => ?_⟩⟩
    · have hturns := h.turns_lt hname
      rwa [List.length_map] at hturns
    · exact h.eq_of_notMem hfound hfound' hfree

/-- Two numbers are taken, but not the one between them. -/
theorem appendHookStep_least_name_gap :
    let base := "Test" ++ " (" ++ "audit" ++ ")"
    let steps := ["Test", base ++ " 2", base, base ++ " 4"].map fun name => Step.run name "true"
    appendHookStep steps (.run "Test" "make") "audit" =
        steps ++ [.run (base ++ " " ++ toString 3) "make"] ∧
      IsLeast {n | 2 ≤ n ∧ base ++ " " ++ toString n ∉ steps.map (·.name)} 3 := by
  intro base steps
  obtain ⟨name, happend, -, -, -, hnumber, -⟩ :=
    appendHookStep_least_name steps (.run "Test" "make") "audit"
  obtain ⟨n, rfl, hleast⟩ := hnumber (by decide +kernel) (by decide +kernel)
  have hle : n ≤ 3 := hleast.2 ⟨by decide, by decide +kernel⟩
  have hne : n ≠ 2 := by
    rintro rfl
    exact hleast.1.2 (by decide +kernel)
  have hn : n = 3 := by
    have := hleast.1.1
    omega
  subst hn
  exact ⟨happend, hleast⟩

end PipeLoom
