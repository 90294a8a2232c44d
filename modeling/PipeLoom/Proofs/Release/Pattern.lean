import PipeLoom.Proofs.Release.Version
import PipeLoom.Proofs.Text.Pattern
import PipeLoom.Release.Pattern

/-!
# The tags that the patterns take

The stable pattern takes `v` and a version whose numbers have nineteen digits at most
(`mem_stable_iff`), the hotfix pattern takes just those of these with a pre-release of `hotfix` and
such a number (`mem_hotfix_iff`).
-/

namespace PipeLoom.Release

open Pattern Version
open scoped Computability

/-! ## Characters -/

theorem inRanges_digit {c : Char} : inRanges [('0', '9')] c = true ↔ c.isDigit = true := by
  rw [inRanges_iff, Char.isDigit_iff_toNat]
  simp

theorem inRanges_firstDigit {c : Char} :
    inRanges [('1', '9')] c = true ↔ c.isDigit = true ∧ c ≠ '0' := by
  rw [inRanges_iff, Char.isDigit_iff_toNat, ne_eq, ← Char.toNat_inj]
  simp
  omega

theorem isIdentifierChar_iff_toNat {c : Char} : isIdentifierChar c = true ↔
    (65 ≤ c.toNat ∧ c.toNat ≤ 90) ∨ (97 ≤ c.toNat ∧ c.toNat ≤ 122) ∨
      (48 ≤ c.toNat ∧ c.toNat ≤ 57) ∨ c.toNat = 45 := by
  have hhyphen : c = '-' ↔ c.toNat = 45 := Char.toNat_inj.symm
  have hclass : isIdentifierChar c = (c.isUpper || c.isLower || c.isDigit || c == '-') := rfl
  have hupper : c.isUpper = decide (65 ≤ c.val ∧ c.val ≤ 90) := rfl
  have hlower : c.isLower = (decide (97 ≤ c.val) && decide (c.val ≤ 122)) := rfl
  rw [hclass, hupper, hlower]
  simp only [Bool.or_eq_true, Bool.and_eq_true, decide_eq_true_eq, beq_iff_eq, or_assoc, hhyphen,
    Char.isDigit_iff_toNat]
  rfl

theorem inRanges_identifierChar {c : Char} :
    inRanges [('0', '9'), ('A', 'Z'), ('a', 'z'), ('-', '-')] c = true ↔
      isIdentifierChar c = true := by
  rw [inRanges_iff, isIdentifierChar_iff_toNat]
  simp
  omega

theorem inRanges_letter {c : Char} : inRanges [('A', 'Z'), ('a', 'z'), ('-', '-')] c = true ↔
    isIdentifierChar c = true ∧ ¬c.isDigit = true := by
  rw [inRanges_iff, isIdentifierChar_iff_toNat, Char.isDigit_iff_toNat]
  simp
  omega

theorem isIdentifierChar_of_isDigit {c : Char} (h : c.isDigit = true) :
    isIdentifierChar c = true := by
  simp [isIdentifierChar, Char.isAlphanum, h]

/-! ## Numbers -/

/-- A numeral is a zero, or digits of which the first is none. -/
theorem isNumeral_iff_cons {s : List Char} : isNumeral s = true ↔ s = ['0'] ∨
    ∃ c r, s = c :: r ∧ (c.isDigit = true ∧ c ≠ '0') ∧ ∀ d ∈ r, d.isDigit = true := by
  cases s with
  | nil => simp [isNumeral]
  | cons c r =>
    by_cases h0 : c = '0'
    · subst h0
      cases r <;> simp [isNumeral]
    · simp [isNumeral, h0]

theorem length_toString_le_iff {n k : Nat} (hk : 0 < k) :
    (toString n).toList.length ≤ k ↔ n < 10 ^ k := by
  rw [toList_toString]
  exact Nat.length_toDigits_le_iff (by decide) hk

theorem mem_number_iff {s : List Char} :
    s ∈ number.language ↔ ∃ n < 10 ^ 19, s = (toString n).toList := by
  have hnumeral : s ∈ number.language ↔ isNumeral s = true ∧ s.length ≤ 19 := by
    rw [isNumeral_iff_cons]
    constructor
    · rintro (h0 | ⟨-, ⟨c, rfl, hc⟩, r, hr, rfl⟩)
      · rw [mem_char.1 h0]
        exact ⟨.inl rfl, by decide⟩
      · obtain ⟨hlength, hr⟩ := mem_atMost_single.1 hr
        refine ⟨.inr ⟨c, r, rfl, inRanges_firstDigit.1 hc, ?_⟩, Nat.succ_le_succ hlength⟩
        exact fun d hd => inRanges_digit.1 (hr d hd)
    · rintro ⟨rfl | ⟨c, r, rfl, hc, hr⟩, hlength⟩
      · exact .inl (mem_char.2 rfl)
      · refine .inr ⟨[c], ⟨c, rfl, inRanges_firstDigit.2 hc⟩, r, mem_atMost_single.2 ?_, rfl⟩
        exact ⟨Nat.le_of_succ_le_succ hlength, fun d hd => inRanges_digit.2 (hr d hd)⟩
  rw [hnumeral, isNumeral_iff]
  constructor
  · rintro ⟨⟨n, rfl⟩, hlength⟩
    exact ⟨n, (length_toString_le_iff (by decide)).1 hlength, rfl⟩
  · rintro ⟨n, hn, rfl⟩
    exact ⟨⟨n, rfl⟩, (length_toString_le_iff (by decide)).2 hn⟩

theorem mem_core_iff {s : List Char} : s ∈ core.language ↔
    ∃ v : Version, v.Below (10 ^ 19) ∧ s = 'v' :: v.coreText := by
  unfold core
  simp only [mem_append, mem_char, mem_number_iff, exists_eq_left]
  constructor
  · rintro ⟨-, ⟨-, ⟨a, ha, rfl⟩, -, ⟨-, ⟨-, ⟨b, hb, rfl⟩, -, ⟨-, ⟨c, hc, rfl⟩, rfl⟩, rfl⟩, rfl⟩,
      rfl⟩, rfl⟩
    exact ⟨⟨a, b, c, [], []⟩, ⟨ha, hb, hc⟩, by simp [coreText]⟩
  · rintro ⟨v, hv, rfl⟩
    refine ⟨_, ⟨_, ⟨_, hv.major, rfl⟩, _, ⟨_, ⟨_, ⟨_, hv.minor, rfl⟩, _, ⟨_, ⟨_, hv.patch, rfl⟩,
      rfl⟩, rfl⟩, rfl⟩, rfl⟩, ?_⟩
    simp [coreText]

/-! ## Identifiers -/

theorem mem_buildIdentifier_iff {s : List Char} :
    s ∈ buildIdentifier.language ↔ isIdentifier s = true := by
  have hchars : s ∈ buildIdentifier.language ↔ ∃ c r, s = c :: r ∧ isIdentifierChar c = true ∧
      ∀ d ∈ r, isIdentifierChar d = true := by
    constructor
    · rintro ⟨-, ⟨c, rfl, hc⟩, r, hr, rfl⟩
      refine ⟨c, r, rfl, inRanges_identifierChar.1 hc, fun d hd => ?_⟩
      exact inRanges_identifierChar.1 (mem_kstar_single.1 hr d hd)
    · rintro ⟨c, r, rfl, hc, hr⟩
      refine ⟨[c], ⟨c, rfl, inRanges_identifierChar.2 hc⟩, r, mem_kstar_single.2 fun d hd => ?_,
        rfl⟩
      exact inRanges_identifierChar.2 (hr d hd)
  rw [hchars]
  cases s <;> simp [isIdentifier]

/-- Identifier characters that are not all digits have a first one that is no digit. -/
theorem exists_letter_iff {s : List Char} :
    (∃ ds c r, s = ds ++ c :: r ∧ (∀ d ∈ ds, d.isDigit = true) ∧
        (isIdentifierChar c = true ∧ ¬c.isDigit = true) ∧ ∀ d ∈ r, isIdentifierChar d = true) ↔
      (∀ d ∈ s, isIdentifierChar d = true) ∧ ¬∀ d ∈ s, d.isDigit = true := by
  constructor
  · rintro ⟨ds, c, r, rfl, hds, ⟨hc, hletter⟩, hr⟩
    refine ⟨fun d hd => ?_, fun hall => ?_⟩
    · rcases List.mem_append.1 hd with hd | hd
      · exact isIdentifierChar_of_isDigit (hds d hd)
      · rcases List.mem_cons.1 hd with rfl | hd
        · exact hc
        · exact hr d hd
    · exact hletter (hall c (List.mem_append_right _ List.mem_cons_self))
  · rintro ⟨hs, hletter⟩
    have hsplit := List.takeWhile_append_dropWhile (p := Char.isDigit) (l := s)
    have hdigits := List.all_eq_true.1 (List.all_takeWhile (p := Char.isDigit) (l := s))
    cases hrest : s.dropWhile Char.isDigit with
    | nil =>
      rw [hrest, List.append_nil] at hsplit
      exact absurd (hsplit ▸ hdigits) hletter
    | cons c r =>
      have hc := List.head_dropWhile_not Char.isDigit (hrest ▸ List.cons_ne_nil c r)
      simp only [hrest, List.head_cons] at hc
      rw [hrest] at hsplit
      refine ⟨_, c, r, hsplit.symm, hdigits, ⟨?_, by simp [hc]⟩, ?_⟩
      · exact hs c (hsplit ▸ List.mem_append_right _ List.mem_cons_self)
      · exact fun d hd => hs d (hsplit ▸ List.mem_append_right _ (List.mem_cons_of_mem _ hd))

theorem isPreIdentifier_iff_chars {s : List Char} : isPreIdentifier s = true ↔
    (s ≠ [] ∧ ∀ d ∈ s, isIdentifierChar d = true) ∧
      ((¬∀ d ∈ s, d.isDigit = true) ∨ isNumeral s = true) := by
  unfold isPreIdentifier isIdentifier
  simp only [Bool.and_eq_true, Bool.or_eq_true, Bool.not_eq_true', ← Bool.not_eq_true,
    List.isEmpty_iff, List.all_eq_true, ne_eq]

theorem isPreIdentifier_of_isNumeral {s : List Char} (h : isNumeral s = true) :
    isPreIdentifier s = true := by
  obtain ⟨n, rfl⟩ := isNumeral_iff.1 h
  refine isPreIdentifier_iff_chars.2 ⟨⟨?_, fun d hd => ?_⟩, .inr h⟩
  · rw [toList_toString]
    exact Nat.toDigits_ne_nil
  · exact isIdentifierChar_of_isDigit (isDigit_of_mem_toString hd)

theorem mem_preIdentifier_iff {s : List Char} :
    s ∈ preIdentifier.language ↔ isPreIdentifier s = true := by
  have hchars : s ∈ preIdentifier.language ↔ isNumeral s = true ∨
      (∀ d ∈ s, isIdentifierChar d = true) ∧ ¬∀ d ∈ s, d.isDigit = true := by
    rw [← exists_letter_iff, isNumeral_iff_cons]
    constructor
    · rintro (h0 | ⟨-, ⟨c, rfl, hc⟩, r, hr, rfl⟩ | ⟨ds, hds, -, ⟨-, ⟨c, rfl, hc⟩, r, hr, rfl⟩, rfl⟩)
      · exact .inl (.inl (mem_char.1 h0))
      · refine .inl (.inr ⟨c, r, rfl, inRanges_firstDigit.1 hc, fun d hd => ?_⟩)
        exact inRanges_digit.1 (mem_kstar_single.1 hr d hd)
      · refine .inr ⟨ds, c, r, rfl, fun d hd => ?_, inRanges_letter.1 hc, fun d hd => ?_⟩
        · exact inRanges_digit.1 (mem_kstar_single.1 hds d hd)
        · exact inRanges_identifierChar.1 (mem_kstar_single.1 hr d hd)
    · rintro ((rfl | ⟨c, r, rfl, hc, hr⟩) | ⟨ds, c, r, rfl, hds, hc, hr⟩)
      · exact .inl (mem_char.2 rfl)
      · refine .inr (.inl ⟨[c], ⟨c, rfl, inRanges_firstDigit.2 hc⟩, r, mem_kstar_single.2 ?_, rfl⟩)
        exact fun d hd => inRanges_digit.2 (hr d hd)
      · refine .inr (.inr ⟨ds, mem_kstar_single.2 ?_, c :: r,
          ⟨[c], ⟨c, rfl, inRanges_letter.2 hc⟩, r, mem_kstar_single.2 ?_, rfl⟩, rfl⟩)
        · exact fun d hd => inRanges_digit.2 (hds d hd)
        · exact fun d hd => inRanges_identifierChar.2 (hr d hd)
  rw [hchars, isPreIdentifier_iff_chars]
  constructor
  · rintro (hs | ⟨hs, hletter⟩)
    · exact isPreIdentifier_iff_chars.1 (isPreIdentifier_of_isNumeral hs)
    · refine ⟨⟨?_, hs⟩, .inl hletter⟩
      rintro rfl
      exact hletter (List.forall_mem_nil _)
  · rintro ⟨⟨-, hs⟩, hletter | hnumeral⟩
    · exact .inr ⟨hs, hletter⟩
    · exact .inl hnumeral

/-! ## Parts -/

theorem intercalate_eq_append {m : List Char} {ss : List (List Char)} :
    List.intercalate ['.'] (m :: ss) = m ++ (ss.map ('.' :: ·)).flatten := by
  induction ss generalizing m with
  | nil => simp
  | cons s ss ih => rw [List.intercalate_cons_cons, ih, List.map_cons, List.flatten_cons,
      List.append_assoc, List.singleton_append, List.cons_append]

/-- Matches of one pattern behind full stops, one after the other. -/
theorem mem_many_dotted_iff {p : Pattern} {s : List Char} :
    s ∈ (many (group (char '.' ++ p))).language ↔
      ∃ ss : List (List Char), s = (ss.map ('.' :: ·)).flatten ∧ ∀ m ∈ ss, m ∈ p.language := by
  have hdotted : ∀ m, m ∈ (group (char '.' ++ p)).language ↔
      ∃ r, m = '.' :: r ∧ r ∈ p.language := by
    intro m
    rw [language, mem_append]
    simp only [mem_char, exists_eq_left]
    exact exists_congr fun r => (and_congr_right fun _ => eq_comm).trans and_comm
  rw [language, Language.mem_kstar]
  constructor
  · rintro ⟨ms, rfl, hms⟩
    obtain ⟨ss, rfl, hss⟩ := exists_eq_map fun m hm => (hdotted m).1 (hms m hm)
    exact ⟨ss, rfl, hss⟩
  · rintro ⟨ss, rfl, hss⟩
    refine ⟨_, rfl, fun m hm => ?_⟩
    obtain ⟨r, hr, rfl⟩ := List.mem_map.1 hm
    exact (hdotted _).2 ⟨r, rfl, hss r hr⟩

theorem mem_part_iff {mark : Char} {p : Pattern} {s : List Char} : s ∈ (part mark p).language ↔
    ∃ ids : List String, (∀ i ∈ ids, i.toList ∈ p.language) ∧ s = marked mark (partOf ids) := by
  have hsplit : s ∈ (part mark p).language ↔ s = [] ∨ ∃ m ∈ p.language, ∃ ss : List (List Char),
      (∀ m ∈ ss, m ∈ p.language) ∧ s = mark :: List.intercalate ['.'] (m :: ss) := by
    unfold part
    rw [language, Language.mem_add, language, mem_append]
    simp only [mem_char, exists_eq_left, mem_append, mem_many_dotted_iff, intercalate_eq_append]
    refine or_congr Iff.rfl ⟨?_, ?_⟩
    · rintro ⟨-, ⟨m, hm, -, ⟨ss, rfl, hss⟩, rfl⟩, rfl⟩
      exact ⟨m, hm, ss, hss, rfl⟩
    · rintro ⟨m, hm, ss, hss, rfl⟩
      exact ⟨_, ⟨m, hm, _, ⟨ss, rfl, hss⟩, rfl⟩, rfl⟩
  rw [hsplit]
  constructor
  · rintro (rfl | ⟨m, hm, ss, hss, rfl⟩)
    · exact ⟨[], List.forall_mem_nil _, rfl⟩
    · refine ⟨(m :: ss).map String.ofList, fun i hi => ?_, ?_⟩
      · obtain ⟨r, hr, rfl⟩ := List.mem_map.1 hi
        rw [String.toList_ofList]
        rcases List.mem_cons.1 hr with rfl | hr
        · exact hm
        · exact hss r hr
      · simp [partOf, marked, Function.comp_def]
  · rintro ⟨ids, hids, rfl⟩
    cases ids with
    | nil => exact .inl rfl
    | cons i ids =>
      obtain ⟨hi, hids⟩ := List.forall_mem_cons.1 hids
      refine .inr ⟨i.toList, hi, ids.map String.toList, fun m hm => ?_, rfl⟩
      obtain ⟨j, hj, rfl⟩ := List.mem_map.1 hm
      exact hids j hj

/-! ## Tags -/

theorem mem_stable_iff {s : List Char} : s ∈ stable.language ↔
    ∃ v : Version, v.Valid ∧ v.Below (10 ^ 19) ∧ s = 'v' :: v.print.toList := by
  unfold stable
  simp only [mem_append, mem_core_iff, mem_part_iff, mem_preIdentifier_iff,
    mem_buildIdentifier_iff, isPreIdentifier_iff, isIdentifier_iff, print_toList]
  constructor
  · rintro ⟨-, ⟨v, hv, rfl⟩, -, ⟨-, ⟨pre, hpre, rfl⟩, -, ⟨build, hbuild, rfl⟩, rfl⟩, rfl⟩
    refine ⟨{ v with pre, build }, ⟨hpre, hbuild⟩, ⟨hv.major, hv.minor, hv.patch⟩, ?_⟩
    simp [coreText]
  · rintro ⟨v, hvalid, hv, rfl⟩
    exact ⟨_, ⟨v, hv, rfl⟩, _, ⟨_, ⟨_, hvalid.pre, rfl⟩, _, ⟨_, hvalid.build, rfl⟩, rfl⟩, by simp⟩

/-- The version is the hotfix of a number of nineteen digits at most. -/
def IsHotfix (v : Version) (n : Nat) : Prop := v.pre = ["hotfix", toString n] ∧ n < 10 ^ 19

theorem isPreIdentifier_of_hotfix {i : String} {n : Nat} (h : i ∈ ["hotfix", toString n]) :
    IsPreIdentifier i := by
  simp only [List.mem_cons, List.not_mem_nil, or_false] at h
  rcases h with rfl | rfl
  · exact isPreIdentifier_iff.1 (by decide)
  · exact isPreIdentifier_iff.1 (isPreIdentifier_of_isNumeral (isNumeral_iff.2 ⟨n, rfl⟩))

theorem mem_hotfix_iff {s : List Char} : s ∈ hotfix.language ↔ ∃ v : Version, ∃ n : Nat,
    IsHotfix v n ∧ v.Valid ∧ v.Below (10 ^ 19) ∧ s = 'v' :: v.print.toList := by
  unfold hotfix
  simp only [mem_append, mem_core_iff, mem_part_iff, mem_word, mem_char, mem_number_iff,
    mem_buildIdentifier_iff, isIdentifier_iff, print_toList, exists_eq_left]
  constructor
  · rintro ⟨-, ⟨v, hv, rfl⟩, -, ⟨-, ⟨-, ⟨-, ⟨n, hn, rfl⟩, -, ⟨build, hbuild, rfl⟩, rfl⟩, rfl⟩, rfl⟩,
      rfl⟩
    refine ⟨{ v with pre := ["hotfix", toString n], build }, n, ⟨rfl, hn⟩,
      ⟨fun i hi => isPreIdentifier_of_hotfix hi, hbuild⟩, ⟨hv.major, hv.minor, hv.patch⟩, ?_⟩
    simp [coreText, partOf, marked]
  · rintro ⟨v, n, ⟨hpre, hn⟩, hvalid, hv, rfl⟩
    refine ⟨_, ⟨v, hv, rfl⟩, _, ⟨_, ⟨_, ⟨_, ⟨n, hn, rfl⟩, _, ⟨_, hvalid.build, rfl⟩, rfl⟩, rfl⟩,
      rfl⟩, ?_⟩
    rw [hpre]
    simp [partOf, marked]

end PipeLoom.Release
