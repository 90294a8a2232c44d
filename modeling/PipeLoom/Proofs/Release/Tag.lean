import PipeLoom.Proofs.Release.Pattern
import PipeLoom.Release.Tag

/-!
# What names are read as

`Reads` gives the answer for a name without blanks around it, by versions and not by patterns.
Reading a tag gives that answer for every text (`parse_eq_iff_reads`): the patterns, the search for
`hotfix` and the readers of versions and numbers agree.
-/

namespace PipeLoom.Tag

open Release (IsHotfix)

/-- The name is `v` and the version, which is sound and has numbers of nineteen digits at most. -/
structure Names (name : String) (v : Version) : Prop where
  valid : v.Valid
  below : v.Below (10 ^ 19)
  text : name = "v" ++ v.print

/-- The name has the letters of `hotfix` in it. -/
def MentionsHotfix (name : String) : Prop := "hotfix".toList <:+: name.toList

inductive Reads (name : String) : Except TagError Tag → Prop
  | empty : name = "" → Reads name (.error (.empty name))
  | hotfix {v : Version} {n : Nat} : Names name v → IsHotfix v n → Reads name (.ok (.hotfix v n))
  | malformedHotfix : MentionsHotfix name → (∀ v n, Names name v → ¬IsHotfix v n) →
      Reads name (.error (.malformedHotfix name))
  | stable {v : Version} : Names name v → ¬MentionsHotfix name → Reads name (.ok (.stable v))
  | notARelease : name ≠ "" → ¬MentionsHotfix name → (∀ v, ¬Names name v) →
      Reads name (.error (.notARelease name))

/-! ## Patterns -/

section Patterns

variable {name : String} {v : Version} {n : Nat}

theorem toList_eq_iff : name.toList = 'v' :: v.print.toList ↔ name = "v" ++ v.print := by
  rw [← String.toList_inj, String.toList_append]
  exact Iff.rfl

theorem accepts_stable_iff : Release.stable.accepts name = true ↔ ∃ v, Names name v := by
  rw [Pattern.accepts_iff, Release.mem_stable_iff]
  simp only [toList_eq_iff]
  exact exists_congr fun v => ⟨fun ⟨hvalid, hbelow, h⟩ => ⟨hvalid, hbelow, h⟩,
    fun h => ⟨h.valid, h.below, h.text⟩⟩

theorem accepts_hotfix_iff :
    Release.hotfix.accepts name = true ↔ ∃ v n, Names name v ∧ IsHotfix v n := by
  rw [Pattern.accepts_iff, Release.mem_hotfix_iff]
  simp only [toList_eq_iff]
  exact exists_congr fun v => exists_congr fun n =>
    ⟨fun ⟨hn, hvalid, hbelow, h⟩ => ⟨⟨hvalid, hbelow, h⟩, hn⟩,
      fun ⟨h, hn⟩ => ⟨hn, h.valid, h.below, h.text⟩⟩

theorem contains_hotfix_iff : Text.contains name "hotfix" = true ↔ MentionsHotfix name :=
  Text.occursIn_iff

theorem mentionsHotfix_of_isHotfix (h : Names name v) (hn : IsHotfix v n) :
    MentionsHotfix name := by
  refine ⟨'v' :: v.coreText ++ ['-'],
    '.' :: (toString n).toList ++ Version.marked '+' (Version.partOf v.build), ?_⟩
  rw [toList_eq_iff.2 h.text, Version.print_toList, hn.1]
  simp [Version.partOf, Version.marked]

end Patterns

/-! ## Readers -/

section Readers

variable {name : String} {v : Version} {n : Nat}

theorem versionOf_of_names (h : Names name v) : versionOf name = .ok v := by
  have hparse : Version.parse? v.print.toList = some v :=
    Version.parse?_eq_some_iff.2 ⟨h.valid, h.below.mono (by decide), rfl⟩
  unfold versionOf
  simp only [toList_eq_iff.2 h.text, hparse]

theorem hotfixNumber?_of_isHotfix (h : IsHotfix v n) : hotfixNumber? v = some n := by
  unfold hotfixNumber?
  rw [h.1]
  exact Version.number?_eq_some_iff.2 ⟨h.2.trans_le (by decide), rfl⟩

end Readers

/-! ## Answers -/

section Answers

variable {name : String}

theorem ne_empty_of_names {v : Version} (h : Names name v) : name ≠ "" := by
  rintro rfl
  cases toList_eq_iff.2 h.text

theorem ne_empty_of_mentionsHotfix (h : MentionsHotfix name) : name ≠ "" := by
  rintro rfl
  exact absurd (List.infix_nil.1 h) (by decide)

theorem exists_reads (name : String) : ∃ r, Reads name r := by
  by_cases hempty : name = ""
  · exact ⟨_, .empty hempty⟩
  by_cases hhotfix : ∃ v n, Names name v ∧ IsHotfix v n
  · obtain ⟨v, n, hv, hn⟩ := hhotfix
    exact ⟨_, .hotfix hv hn⟩
  by_cases hmention : MentionsHotfix name
  · exact ⟨_, .malformedHotfix hmention fun v n hv hn => hhotfix ⟨v, n, hv, hn⟩⟩
  by_cases hstable : ∃ v, Names name v
  · obtain ⟨v, hv⟩ := hstable
    exact ⟨_, .stable hv hmention⟩
  · exact ⟨_, .notARelease hempty hmention fun v hv => hstable ⟨v, hv⟩⟩

theorem parse_of_reads {s : String} {r : Except TagError Tag} (h : Reads (Text.trim s) r) :
    parse s = r := by
  unfold parse
  generalize Text.trim s = name at h
  -- outside hotfix tags the hotfix pattern is passed over
  have hplain : ¬MentionsHotfix name → ¬Release.hotfix.accepts name = true := by
    intro hmention haccepts
    obtain ⟨v, n, hv, hn⟩ := accepts_hotfix_iff.1 haccepts
    exact hmention (mentionsHotfix_of_isHotfix hv hn)
  cases h with
  | empty h => exact if_pos h
  | hotfix hv hn =>
    simp only
    rw [if_neg (ne_empty_of_names hv), if_pos (accepts_hotfix_iff.2 ⟨_, _, hv, hn⟩),
      versionOf_of_names hv]
    simp only [bind, Except.bind, hotfixNumber?_of_isHotfix hn]
  | malformedHotfix hmention hnone =>
    have haccepts : ¬Release.hotfix.accepts name = true := fun h => by
      obtain ⟨v, n, hv, hn⟩ := accepts_hotfix_iff.1 h
      exact hnone v n hv hn
    simp only
    rw [if_neg (ne_empty_of_mentionsHotfix hmention), if_neg haccepts,
      if_pos (contains_hotfix_iff.2 hmention)]
  | stable hv hmention =>
    simp only
    rw [if_neg (ne_empty_of_names hv), if_neg (hplain hmention),
      if_neg (mt contains_hotfix_iff.1 hmention), if_pos (accepts_stable_iff.2 ⟨_, hv⟩),
      versionOf_of_names hv]
    rfl
  | notARelease hempty hmention hnone =>
    have haccepts : ¬Release.stable.accepts name = true := fun h => by
      obtain ⟨v, hv⟩ := accepts_stable_iff.1 h
      exact hnone v hv
    simp only
    rw [if_neg hempty, if_neg (hplain hmention), if_neg (mt contains_hotfix_iff.1 hmention),
      if_neg haccepts]

end Answers

/-- Every text is read as its trimmed name stands for. No name that a pattern takes holds an invalid
version, and all numbers that are read fit 64 bits. -/
theorem parse_eq_iff_reads (s : String) :
    (∀ r, parse s = r ↔ Reads (Text.trim s) r) ∧
      (∀ name, parse s ≠ .error (.invalidVersion name)) ∧
      (∀ v, parse s = .ok (.stable v) → v.Below UInt64.size) ∧
      ∀ v n, parse s = .ok (.hotfix v n) → v.Below UInt64.size ∧ n < UInt64.size := by
  have hreads : ∀ r, parse s = r ↔ Reads (Text.trim s) r := by
    refine fun r => ⟨?_, parse_of_reads⟩
    rintro rfl
    obtain ⟨r, hr⟩ := exists_reads (Text.trim s)
    rwa [parse_of_reads hr]
  refine ⟨hreads, fun name h => ?_, fun v h => ?_, fun v n h => ?_⟩
  · cases (hreads _).1 h
  · cases (hreads _).1 h with
    | stable hv => exact hv.below.mono (by decide)
  · cases (hreads _).1 h with
    | hotfix hv hn => exact ⟨hv.below.mono (by decide), hn.2.trans_le (by decide)⟩

end PipeLoom.Tag
