import Mathlib.Data.List.DropRight
import PipeLoom.Text.Blank

/-!
# Trimmed texts

A trimmed text neither starts nor ends with a blank, so trimming it again changes nothing
(`trim_trim`). Words without blanks are kept (`infix_trim_iff`).
-/

namespace PipeLoom.Text

theorem trimList_eq (s : List Char) : trimList s = (s.dropWhile isBlank).rdropWhile isBlank := rfl

theorem dropWhile_trimList (s : List Char) : (trimList s).dropWhile isBlank = trimList s := by
  rw [List.dropWhile_eq_self_iff]
  intro hpos hblank
  have hprefix : trimList s <+: s.dropWhile isBlank := List.rdropWhile_prefix isBlank _
  have hne := List.ne_nil_of_length_pos (Nat.lt_of_lt_of_le hpos hprefix.length_le)
  have hhead : (trimList s)[0] = (s.dropWhile isBlank).head hne := by
    rw [List.head_eq_getElem]
    exact hprefix.getElem hpos
  rw [hhead, List.head_dropWhile_not isBlank hne] at hblank
  cases hblank

theorem trimList_trimList (s : List Char) : trimList (trimList s) = trimList s := by
  rw [trimList_eq (trimList s), dropWhile_trimList, trimList_eq]
  exact List.rdropWhile_idempotent isBlank _

/-- Dropping other characters in front leaves the places of a word. -/
theorem infix_dropWhile_iff {p : Char → Bool} {w : List Char} (hne : w ≠ [])
    (hw : ∀ c ∈ w, p c = false) (s : List Char) : w <:+: s.dropWhile p ↔ w <:+: s := by
  induction s with
  | nil => rfl
  | cons c s ih =>
    rw [List.dropWhile_cons]
    split
    · rename_i hc
      rw [ih, List.infix_cons_iff, or_iff_right]
      rintro ⟨r, hr⟩
      obtain ⟨d, w, rfl⟩ := List.exists_cons_of_ne_nil hne
      obtain ⟨rfl, -⟩ := List.cons.inj hr
      rw [hw d List.mem_cons_self] at hc
      cases hc
    · rfl

/-- A word without blanks stands in a text just where it stands in the trimmed text. -/
theorem infix_trim_iff {w : List Char} (hne : w ≠ []) (hw : ∀ c ∈ w, isBlank c = false)
    (s : String) : w <:+: (trim s).toList ↔ w <:+: s.toList := by
  have hreverse : ∀ c ∈ w.reverse, isBlank c = false := fun c hc => hw c (List.mem_reverse.1 hc)
  unfold trim trimList
  rw [String.toList_ofList, ← List.reverse_infix, List.reverse_reverse,
    infix_dropWhile_iff (mt List.reverse_eq_nil_iff.1 hne) hreverse, List.reverse_infix,
    infix_dropWhile_iff hne hw]

theorem trim_trim (s : String) : trim (trim s) = trim s := by
  unfold trim
  rw [String.toList_ofList, trimList_trimList]

/-- A text without blanks is trimmed. -/
theorem trim_eq_self {s : String} (h : ∀ c ∈ s.toList, isBlank c = false) : trim s = s := by
  have hkeep : ∀ {cs : List Char}, (∀ c ∈ cs, isBlank c = false) → cs.dropWhile isBlank = cs := by
    intro cs hcs
    cases cs with
    | nil => rfl
    | cons c cs => rw [List.dropWhile_cons_of_neg (by simp [hcs c List.mem_cons_self])]
  have hreverse : ∀ c ∈ s.toList.reverse, isBlank c = false :=
    fun c hc => h c (List.mem_reverse.1 hc)
  unfold trim trimList
  rw [hkeep h, hkeep hreverse, List.reverse_reverse, String.ofList_toList]

end PipeLoom.Text
