import Mathlib.Data.List.Nodup
import PipeLoom.Proofs.Pipeline.Overriding
import PipeLoom.Proofs.Text.Decimal

/-!
# Steps of hooks

A step of a hook is added behind the steps that are there, under a name that none of them has
(`hookStepName_notMem`). `Adds before ds as` says how steps `ds`, each declared by a hook, are added
one after the other as `as`, and appending them comes to that (`exists_adds`).
-/

namespace PipeLoom

/-! ## Names -/

def numbered (base : String) (n : Nat) : String := base ++ " " ++ toString n

theorem numbered_injective (base : String) : Function.Injective (numbered base) := by
  intro m n h
  have hchars := congrArg String.toList h
  simp only [numbered, String.toList_append, Nat.toString_eq_ofList_toDigits,
    String.toList_ofList] at hchars
  have hdigits := congrArg Text.decimalValue (List.append_cancel_left hchars)
  rwa [Text.decimalValue_toDigits, Text.decimalValue_toDigits] at hdigits

theorem prefix_numbered (base : String) (n : Nat) : base.toList <+: (numbered base n).toList := by
  rw [numbered, String.toList_append, String.toList_append, List.append_assoc]
  exact List.prefix_append _ _

variable {taken : List String} {name hook base : String}

/-- The search passes over names that are taken, and only at its end takes one unseen. -/
theorem exists_freeName (taken : List String) (base : String) (n k : Nat) :
    ∃ m, freeName taken base n k = numbered base m ∧ n ≤ m ∧ m ≤ n + k ∧
      (∀ i, n ≤ i → i < m → numbered base i ∈ taken) ∧ (m < n + k → numbered base m ∉ taken) := by
  induction k generalizing n with
  | zero => exact ⟨n, rfl, by omega, by omega, fun i _ _ => by omega, fun h => by omega⟩
  | succ k ih =>
    show ∃ m, (if taken.contains (numbered base n) then freeName taken base (n + 1) k
      else numbered base n) = _ ∧ _
    by_cases htaken : numbered base n ∈ taken
    · obtain ⟨m, hm, hle, hbound, hpassed, hfree⟩ := ih (n + 1)
      rw [if_pos (List.contains_iff_mem.2 htaken)]
      refine ⟨m, hm, by omega, by omega, fun i hi him => ?_, fun h => hfree (by omega)⟩
      rcases Nat.eq_or_lt_of_le hi with rfl | hi
      · exact htaken
      · exact hpassed i hi him
    · rw [if_neg fun h => htaken (List.contains_iff_mem.1 h)]
      exact ⟨n, rfl, by omega, by omega, fun i _ _ => by omega, fun _ => htaken⟩

/-- Among as many numbers as names are taken, and one more, there is a free one: the least is
found. -/
theorem exists_freeName_length (taken : List String) (base : String) (n : Nat) :
    ∃ m, freeName taken base n taken.length = numbered base m ∧ n ≤ m ∧
      (∀ i, n ≤ i → i < m → numbered base i ∈ taken) ∧ numbered base m ∉ taken := by
  obtain ⟨m, hm, hle, hbound, hpassed, hfree⟩ := exists_freeName taken base n taken.length
  refine ⟨m, hm, hle, hpassed, fun htaken => ?_⟩
  have hlast : m = n + taken.length := by
    by_contra hne
    exact hfree (by omega) htaken
  have hsubset : (List.range' n (taken.length + 1)).map (numbered base) ⊆ taken := by
    intro x hx
    obtain ⟨i, hi, rfl⟩ := List.mem_map.1 hx
    rw [List.mem_range'_1] at hi
    rcases Nat.lt_or_ge i m with him | him
    · exact hpassed i hi.1 him
    · rwa [show i = m by omega]
  have hdistinct : ((List.range' n (taken.length + 1)).map (numbered base)).Nodup :=
    List.Nodup.map (numbered_injective base) List.nodup_range'
  have hlength := hdistinct.length_le_of_subset hsubset
  rw [List.length_map, List.length_range'] at hlength
  omega

/-- A name is kept if it is free, and else the hook is put behind it, and a number if need be. -/
theorem hookStepName_cases (taken : List String) (name hook : String) :
    let base := name ++ " (" ++ hook ++ ")"
    (name ∉ taken ∧ hookStepName taken name hook = name) ∨
      (name ∈ taken ∧ base ∉ taken ∧ hookStepName taken name hook = base) ∨
      (name ∈ taken ∧ base ∈ taken ∧ ∃ m, hookStepName taken name hook = numbered base m ∧ 2 ≤ m ∧
        (∀ i, 2 ≤ i → i < m → numbered base i ∈ taken) ∧ numbered base m ∉ taken) := by
  intro base
  unfold hookStepName
  simp only [Bool.not_eq_true', List.contains_eq_mem, decide_eq_false_iff_not]
  by_cases hname : name ∈ taken
  · rw [if_neg (not_not_intro hname)]
    by_cases hbase : base ∈ taken
    · rw [if_neg (not_not_intro hbase)]
      exact .inr (.inr ⟨hname, hbase, exists_freeName_length taken base 2⟩)
    · rw [if_pos hbase]
      exact .inr (.inl ⟨hname, hbase, rfl⟩)
  · rw [if_pos hname]
    exact .inl ⟨hname, rfl⟩

theorem hookStepName_notMem (taken : List String) (name hook : String) :
    hookStepName taken name hook ∉ taken := by
  rcases hookStepName_cases taken name hook with ⟨hfree, h⟩ | ⟨-, hfree, h⟩ |
    ⟨-, -, m, h, -, -, hfree⟩
  · rwa [h]
  · rwa [h]
  · rwa [h]

theorem hookStepName_of_notMem (h : name ∉ taken) : hookStepName taken name hook = name := by
  rcases hookStepName_cases taken name hook with ⟨-, hkept⟩ | ⟨hmem, -⟩ | ⟨hmem, -⟩
  · exact hkept
  · exact absurd hmem h
  · exact absurd hmem h

theorem prefix_hookStepName (h : name ∈ taken) :
    (name ++ " (" ++ hook ++ ")").toList <+: (hookStepName taken name hook).toList := by
  rcases hookStepName_cases taken name hook with ⟨hfree, -⟩ | ⟨-, -, hbase⟩ | ⟨-, -, m, hbase, -⟩
  · exact absurd h hfree
  · exact hbase ▸ List.prefix_rfl
  · exact hbase ▸ prefix_numbered _ m

/-! ## Added steps -/

/-- A step is added behind others as the hook declares it, but for its name: that is another one than
theirs, and begins with the declared name and the hook where the declared name is theirs. -/
structure AddedAs (before : List Step) (hook : String) (declared added : Step) : Prop where
  same : added = { declared with name := added.name }
  free : added.name ∉ before.map (·.name)
  kept : declared.name ∉ before.map (·.name) → added.name = declared.name
  renamed : declared.name ∈ before.map (·.name) →
    (declared.name ++ " (" ++ hook ++ ")").toList <+: added.name.toList

/-- Steps declared by hooks are added behind others one by one, each seen by those after it. -/
inductive Adds : List Step → List (String × Step) → List Step → Prop where
  | nil (before : List Step) : Adds before [] []
  | cons {before : List Step} {hook : String} {declared added : Step} {ds : List (String × Step)}
      {as : List Step} : AddedAs before hook declared added → Adds (before ++ [added]) ds as →
      Adds before ((hook, declared) :: ds) (added :: as)

theorem exists_addedAs (before : List Step) (declared : Step) (hook : String) :
    ∃ added, appendHookStep before declared hook = before ++ [added] ∧
      AddedAs before hook declared added :=
  ⟨_, rfl, rfl, hookStepName_notMem _ _ _, hookStepName_of_notMem, prefix_hookStepName⟩

theorem DistinctNames.appendHook {steps : List Step} (h : DistinctNames steps) (declared : Step)
    (hook : String) : DistinctNames (appendHookStep steps declared hook) := by
  obtain ⟨added, hadded, hstep⟩ := exists_addedAs steps declared hook
  rw [hadded]
  exact h.concat hstep.free

theorem exists_adds (before : List Step) (ds : List (String × Step)) :
    ∃ as, ds.foldl (fun steps d => appendHookStep steps d.2 d.1) before = before ++ as ∧
      Adds before ds as := by
  induction ds generalizing before with
  | nil => exact ⟨[], (List.append_nil before).symm, .nil before⟩
  | cons d ds ih =>
    obtain ⟨added, hadded, h⟩ := exists_addedAs before d.2 d.1
    obtain ⟨as, has, hall⟩ := ih (before ++ [added])
    rw [List.foldl_cons, hadded, has, List.append_assoc]
    exact ⟨added :: as, rfl, .cons h hall⟩

end PipeLoom
