import Mathlib.Computability.Language
import PipeLoom.Text.Pattern

/-!
# What patterns match

`language` gives the texts that a pattern stands for, as a regular language. Matching is exact:
`accepts_iff` says that a pattern accepts the texts of its language and no others.
-/

namespace PipeLoom.Pattern

open scoped Computability

/-- The texts of one character that satisfies `P`. -/
def single (P : Char → Prop) : Language Char := {s | ∃ c, s = [c] ∧ P c}

/-- At most `n` texts of the language, one after the other. -/
def atMost (n : Nat) (L : Language Char) : Language Char :=
  {s | ∃ ms : List (List Char), s = ms.flatten ∧ ms.length ≤ n ∧ ∀ m ∈ ms, m ∈ L}

def language : Pattern → Language Char
  | char c => single (c = ·)
  | oneOf ranges => single (inRanges ranges · = true)
  | append p q => p.language * q.language
  | either p q => p.language + q.language
  | group p => p.language
  | optional p => 1 + p.language
  | many p => p.language∗
  | manyOne p => p.language * p.language∗
  | upTo n p => atMost n p.language

/-! ## Matching -/

theorem length_le_length_flatten {ms : List (List Char)} (h : ∀ m ∈ ms, m ≠ []) :
    ms.length ≤ ms.flatten.length := by
  induction ms with
  | nil => exact Nat.zero_le _
  | cons m ms ih =>
    obtain ⟨hm, hms⟩ := List.forall_mem_cons.1 h
    have hpos := List.length_pos_of_ne_nil hm
    have hrest := ih hms
    rw [List.length_cons, List.flatten_cons, List.length_append]
    omega

section Repeated

variable {L : Language Char} {n : Nat}

/-- A text takes no more repetitions than it has characters. -/
theorem mem_kstar_iff_atMost {m : List Char} (hn : m.length ≤ n) : m ∈ L∗ ↔ m ∈ atMost n L := by
  constructor
  · intro h
    obtain ⟨ms, rfl, hms⟩ := Language.mem_kstar_iff_exists_nonempty.1 h
    have hlength := length_le_length_flatten fun m hm => (hms m hm).2
    exact ⟨ms, rfl, hlength.trans hn, fun m hm => (hms m hm).1⟩
  · rintro ⟨ms, rfl, -, hms⟩
    exact Language.mem_kstar.2 ⟨ms, rfl, hms⟩

variable {rests : List Char → List (List Char)}
  (h : ∀ {s r}, r ∈ rests s ↔ ∃ m ∈ L, m ++ r = s)
include h

theorem mem_repeated {s r : List Char} :
    r ∈ repeated rests n s ↔ ∃ m ∈ atMost n L, m ++ r = s := by
  induction n generalizing s with
  | zero =>
    rw [repeated, List.mem_singleton]
    constructor
    · rintro rfl
      exact ⟨[], ⟨[], rfl, le_rfl, by simp⟩, rfl⟩
    · rintro ⟨-, ⟨ms, rfl, hlength, -⟩, rfl⟩
      rw [List.length_eq_zero_iff.1 (Nat.le_zero.1 hlength)]
      rfl
  | succ n ih =>
    rw [repeated, List.mem_cons, List.mem_flatMap]
    constructor
    · rintro (rfl | ⟨s', hs', hr⟩)
      · exact ⟨[], ⟨[], rfl, Nat.zero_le _, by simp⟩, rfl⟩
      · obtain ⟨m, hm, rfl⟩ := h.1 hs'
        obtain ⟨-, ⟨ms, rfl, hlength, hms⟩, rfl⟩ := ih.1 hr
        refine ⟨(m :: ms).flatten, ⟨m :: ms, rfl, Nat.succ_le_succ hlength, ?_⟩, ?_⟩
        · exact List.forall_mem_cons.2 ⟨hm, hms⟩
        · rw [List.flatten_cons, List.append_assoc]
    · rintro ⟨-, ⟨ms, rfl, hlength, hms⟩, rfl⟩
      cases ms with
      | nil => exact .inl rfl
      | cons m ms =>
        obtain ⟨hm, hms⟩ := List.forall_mem_cons.1 hms
        rw [List.flatten_cons, List.append_assoc]
        refine .inr ⟨ms.flatten ++ r, h.2 ⟨m, hm, rfl⟩, ih.2 ⟨_, ⟨ms, rfl, ?_, hms⟩, rfl⟩⟩
        exact Nat.le_of_succ_le_succ hlength

/-- As many matches as there can be leave what any number of them leaves. -/
theorem mem_repeated_length {s r : List Char} :
    r ∈ repeated rests s.length s ↔ ∃ m ∈ L∗, m ++ r = s := by
  rw [mem_repeated h]
  refine exists_congr fun m => ?_
  refine and_congr_left fun hs => (mem_kstar_iff_atMost ?_).symm
  rw [← hs, List.length_append]
  exact Nat.le_add_right ..

end Repeated

theorem mem_rests_single {P : Char → Prop} [DecidablePred P] {s r : List Char} :
    (r ∈ match s with
      | [] => []
      | d :: s => if P d then [s] else []) ↔ ∃ m ∈ single P, m ++ r = s := by
  cases s with
  | nil =>
    refine iff_of_false List.not_mem_nil ?_
    rintro ⟨-, ⟨c, rfl, -⟩, h⟩
    cases h
  | cons d s =>
    by_cases hd : P d
    · simp only [if_pos hd, List.mem_singleton]
      constructor
      · rintro rfl
        exact ⟨[d], ⟨d, rfl, hd⟩, rfl⟩
      · rintro ⟨-, ⟨c, rfl, -⟩, h⟩
        cases h
        rfl
    · simp only [if_neg hd]
      refine iff_of_false List.not_mem_nil ?_
      rintro ⟨-, ⟨c, rfl, hc⟩, h⟩
      cases h
      exact hd hc

theorem mem_rests_append {p : Pattern}
    (hp : ∀ {s r}, r ∈ p.rests s ↔ ∃ m ∈ p.language, m ++ r = s) {L : Language Char}
    {f : List Char → List (List Char)} (hf : ∀ {s r}, r ∈ f s ↔ ∃ m ∈ L, m ++ r = s)
    {s r : List Char} :
    r ∈ (p.rests s).flatMap f ↔ ∃ m ∈ p.language * L, m ++ r = s := by
  rw [List.mem_flatMap]
  constructor
  · rintro ⟨s', hs', hr⟩
    obtain ⟨m, hm, rfl⟩ := hp.1 hs'
    obtain ⟨m', hm', rfl⟩ := hf.1 hr
    exact ⟨m ++ m', Language.append_mem_mul hm hm', List.append_assoc ..⟩
  · rintro ⟨-, ⟨m, hm, m', hm', rfl⟩, rfl⟩
    exact ⟨m' ++ r, hp.2 ⟨m, hm, (List.append_assoc ..).symm⟩, hf.2 ⟨m', hm', rfl⟩⟩

/-- Matching leaves `r` of a text just where the pattern stands for what is before it. -/
theorem mem_rests {p : Pattern} {s r : List Char} :
    r ∈ p.rests s ↔ ∃ m ∈ p.language, m ++ r = s := by
  induction p generalizing s r with
  | char c =>
    rw [language, ← mem_rests_single]
    cases s <;> rfl
  | oneOf ranges =>
    rw [language, ← mem_rests_single]
    cases s <;> rfl
  | append p q hp hq => exact mem_rests_append hp hq
  | either p q hp hq =>
    rw [rests, List.mem_append, hp, hq]
    simp only [language, Language.mem_add, or_and_right, exists_or]
  | group p hp => exact hp
  | optional p hp =>
    rw [rests, List.mem_cons, hp]
    simp only [language, Language.mem_add, Language.mem_one, or_and_right, exists_or,
      exists_eq_left, List.nil_append]
  | many p hp => exact mem_repeated_length hp
  | manyOne p hp => exact mem_rests_append hp (mem_repeated_length hp)
  | upTo n p hp => exact mem_repeated hp

theorem accepts_iff {p : Pattern} {s : String} : p.accepts s = true ↔ s.toList ∈ p.language := by
  unfold accepts
  rw [List.any_eq_true]
  constructor
  · rintro ⟨r, hr, hnil⟩
    obtain ⟨m, hm, hs⟩ := mem_rests.1 hr
    rw [List.isEmpty_iff.1 hnil, List.append_nil] at hs
    exact hs ▸ hm
  · intro h
    exact ⟨[], mem_rests.2 ⟨_, h, List.append_nil _⟩, rfl⟩

/-! ## The parts of a match -/

section Parts

variable {p q : Pattern} {s : List Char}

theorem mem_char {c : Char} : s ∈ (char c).language ↔ s = [c] := by
  constructor
  · rintro ⟨d, rfl, rfl⟩
    rfl
  · rintro rfl
    exact ⟨c, rfl, rfl⟩

theorem mem_append : s ∈ (p ++ q).language ↔ ∃ a ∈ p.language, ∃ b ∈ q.language, a ++ b = s :=
  Language.mem_mul

theorem mem_word {c : Char} {r : List Char} : s ∈ (word c r).language ↔ s = c :: r := by
  induction r generalizing c s with
  | nil => exact mem_char
  | cons d r ih =>
    rw [word, mem_append]
    simp only [mem_char, ih, exists_eq_left]
    exact eq_comm

theorem inRanges_iff {ranges : List (Char × Char)} {c : Char} :
    inRanges ranges c = true ↔ ∃ r ∈ ranges, r.1.toNat ≤ c.toNat ∧ c.toNat ≤ r.2.toNat := by
  unfold inRanges
  simp only [List.any_eq_true, Bool.and_eq_true, decide_eq_true_eq]
  rfl

end Parts

/-! ## Runs of characters -/

/-- A list of values that are all of one form is the image of a list. -/
theorem exists_eq_map {α β : Type} {f : α → β} {P : α → Prop} {bs : List β}
    (h : ∀ b ∈ bs, ∃ a, b = f a ∧ P a) : ∃ as : List α, bs = as.map f ∧ ∀ a ∈ as, P a := by
  induction bs with
  | nil => exact ⟨[], rfl, by simp⟩
  | cons b bs ih =>
    obtain ⟨⟨a, rfl, ha⟩, hbs⟩ := List.forall_mem_cons.1 h
    obtain ⟨as, rfl, has⟩ := ih hbs
    exact ⟨a :: as, rfl, List.forall_mem_cons.2 ⟨ha, has⟩⟩

section Runs

variable {P : Char → Prop} {s : List Char}

theorem flatten_map_single (s : List Char) : (s.map fun c => [c]).flatten = s := by
  induction s with
  | nil => rfl
  | cons c s ih => rw [List.map_cons, List.flatten_cons, ih, List.singleton_append]

theorem mem_atMost_single {n : Nat} :
    s ∈ atMost n (single P) ↔ s.length ≤ n ∧ ∀ c ∈ s, P c := by
  constructor
  · rintro ⟨ms, rfl, hlength, hms⟩
    obtain ⟨s, rfl, hs⟩ := exists_eq_map hms
    rw [flatten_map_single]
    exact ⟨by simpa using hlength, hs⟩
  · rintro ⟨hlength, hs⟩
    refine ⟨s.map fun c => [c], (flatten_map_single s).symm, by simpa using hlength, ?_⟩
    rintro m hm
    obtain ⟨c, hc, rfl⟩ := List.mem_map.1 hm
    exact ⟨c, rfl, hs c hc⟩

theorem mem_kstar_single : s ∈ (single P)∗ ↔ ∀ c ∈ s, P c := by
  rw [mem_kstar_iff_atMost le_rfl, mem_atMost_single]
  exact and_iff_right le_rfl

end Runs

end PipeLoom.Pattern
