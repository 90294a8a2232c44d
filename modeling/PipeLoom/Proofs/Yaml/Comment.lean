import Mathlib.Data.List.Chain
import Mathlib.Data.List.TakeWhile
import PipeLoom.Proofs.Yaml.Place
import PipeLoom.Yaml.Tree

/-!
# Comment lines

Lines that start with `#` may stand before a document: it has the same tokens with them as without
(`Document.ofText?_of_isComment`). A line ends at every line break of YAML, so a text that was meant
for one line may end the comment in its middle.
-/

namespace PipeLoom.Yaml

/-- Behind a line break stands the `#` of a comment or, if the line break has two characters, the
second of them. -/
def Follows (b c : Char) : Prop := isBreak b = true → c = '#' ∨ (b = '\r' ∧ c = '\n')

instance (b c : Char) : Decidable (Follows b c) :=
  inferInstanceAs (Decidable (isBreak b = true → c = '#' ∨ (b = '\r' ∧ c = '\n')))

/-- Whole lines that all start with `#`. -/
def IsComment (s : List Char) : Prop :=
  ('\n' :: s).IsChain Follows ∧ ('\n' :: s).getLast? = some '\n'

theorem Follows.of_isBreak_eq_false {b c : Char} (h : isBreak b = false) : Follows b c := by
  intro hb
  rw [h] at hb
  cases hb

theorem isBreak_cases {b : Char} (h : isBreak b = true) :
    b = '\n' ∨ b = '\r' ∨ b = '\u0085' ∨ b = '\u2028' ∨ b = '\u2029' := by
  simpa [isBreak, or_assoc] using h

/-! ## Lines -/

/-- `e` is one line break before `s`, whatever comes after `s`. -/
structure IsLineEnd (e s : List Char) : Prop where
  exists_break : ∃ b u, e = b :: u ∧ isBreak b = true
  lineBreak_eq (r : List Char) (i n k : Nat) :
    (Cursor.lineBreak ⟨e ++ (s ++ r), i, n, k⟩).2 = ⟨s ++ r, i + e.length, n + 1, 0⟩

theorem isLineEnd_pair (s : List Char) : IsLineEnd ['\r', '\n'] s :=
  ⟨⟨'\r', ['\n'], rfl, rfl⟩, fun _ _ _ _ => rfl⟩

theorem isLineEnd_single {b : Char} (h : isBreak b = true)
    {s : List Char} (hs : b = '\r' → ∃ c t, s = c :: t ∧ c ≠ '\n') : IsLineEnd [b] s := by
  refine ⟨⟨b, [], rfl, h⟩, fun r i n k => ?_⟩
  rcases isBreak_cases h with rfl | rfl | rfl | rfl | rfl
  · rfl
  · obtain ⟨c, t, rfl, hc⟩ := hs rfl
    unfold Cursor.lineBreak
    split
    · rename_i heq
      cases heq
      exact absurd rfl hc
    · rename_i heq
      cases heq
      rfl
    · rename_i heq
      cases heq
  · rfl
  · rfl
  · rfl

namespace IsComment

variable {s t : List Char} {b : Char}

/-- What comes after the end of a line is a comment as well. -/
theorem exists_of_break (hb : isBreak b = true) (hchain : (b :: s).IsChain Follows)
    (hlast : (b :: s).getLast? = some '\n') :
    ∃ e t, b :: s = e ++ t ∧ IsLineEnd e t ∧ IsComment t := by
  cases s with
  | nil =>
    cases hlast
    exact ⟨['\n'], [], rfl, isLineEnd_single hb nofun, .singleton _, rfl⟩
  | cons c s =>
    obtain ⟨hfollows, htail⟩ := List.isChain_cons_cons.1 hchain
    rw [List.getLast?_cons_cons] at hlast
    rcases hfollows hb with rfl | ⟨rfl, rfl⟩
    · refine ⟨[b], '#' :: s, rfl,
        isLineEnd_single hb fun _ => ⟨'#', s, rfl, by decide⟩, ?_, ?_⟩
      · exact List.isChain_cons_cons.2 ⟨fun _ => .inl rfl, htail⟩
      · rwa [List.getLast?_cons_cons]
    · exact ⟨['\r', '\n'], s, rfl, isLineEnd_pair s, htail, hlast⟩

theorem exists_line (h : IsComment s) (hne : s ≠ []) :
    ∃ line e t, s = '#' :: (line ++ (e ++ t)) ∧ (∀ c ∈ line, isBreak c = false) ∧
      IsLineEnd e t ∧ IsComment t := by
  obtain ⟨hchain, hlast⟩ := h
  obtain ⟨c, r, rfl⟩ := List.exists_cons_of_ne_nil hne
  obtain ⟨hfollows, hchain⟩ := List.isChain_cons_cons.1 hchain
  rw [List.getLast?_cons_cons] at hlast
  have hc : c = '#' := by simpa using hfollows rfl
  subst hc
  have hline : ∀ c ∈ r.takeWhile (!isBreak ·), isBreak c = false := by
    intro c hc
    simpa using List.mem_takeWhile_imp hc
  have hr := List.takeWhile_append_dropWhile (p := (!isBreak ·)) (l := r)
  cases hbreak : r.dropWhile (!isBreak ·) with
  | nil =>
    rw [hbreak, List.append_nil] at hr
    rw [hr] at hline
    have hmem := List.mem_of_getLast? hlast
    simp only [List.mem_cons] at hmem
    rcases hmem with hmem | hmem
    · cases hmem
    · exact absurd (hline '\n' hmem) (by decide)
  | cons b u =>
    have hb : isBreak b = true := by
      have := List.head?_dropWhile_not (!isBreak ·) r
      rw [hbreak] at this
      simpa using this
    rw [hbreak] at hr
    rw [← hr, ← List.cons_append] at hchain hlast
    rw [List.getLast?_append_cons] at hlast
    obtain ⟨e, t, heq, hend, ht⟩ := exists_of_break hb hchain.right_of_append hlast
    exact ⟨_, e, t, by rw [← heq, hr], hline, hend, ht⟩

end IsComment

theorem Cursor.toLineEnd_eq {c : Cursor} {b : Char} {line t : List Char}
    (hline : ∀ c ∈ line, isBreak c = false) (hb : isBreak b = true)
    (hrest : c.rest = line ++ b :: t) : c.toLineEnd = c.skip line.length := by
  have hrun : c.rest.takeWhile (!isBreak ·) = line := by
    rw [hrest, List.takeWhile_append_of_pos (by simpa using hline)]
    simp [hb]
  simp [toLineEnd, skipWhile, span, hrun]

/-! ## Reading on -/

namespace Layout

variable {l : Layout} {s r : List Char} {i m k n : Nat}

theorem length_lineBreak_lt {c : Cursor} {b : Char} (hc : c.rest = b :: r)
    (hb : isBreak b = true) : c.lineBreak.2.rest.length < c.rest.length := by
  have hpos : 0 < c.rest.length := by
    rw [hc]
    exact Nat.succ_pos _
  have hdrop (n : Nat) (hn : 0 < n) : (c.rest.drop n).length < c.rest.length := by
    rw [List.length_drop]
    omega
  unfold Cursor.lineBreak
  split
  · exact hdrop 2 (by decide)
  · rename_i heq
    cases hc.symm.trans heq
    rw [if_pos hb]
    split
    · exact hdrop 1 (by decide)
    · exact hdrop 1 (by decide)
  · rename_i heq
    rw [hc] at heq
    cases heq

theorem length_toLineEnd_lt {c : Cursor} (hc : c.rest = '#' :: r) :
    c.toLineEnd.rest.length < c.rest.length := by
  have hpos : 0 < c.rest.length := by
    rw [hc]
    exact Nat.succ_pos _
  have hrun : 0 < (c.rest.takeWhile (!isBreak ·)).length := by
    rw [hc]
    exact Nat.succ_pos _
  show (c.rest.drop (c.rest.takeWhile (!isBreak ·)).length).length < _
  rw [List.length_drop]
  omega

/-- Skipping white space ends before as many steps as there are characters. -/
theorem skipGap_succ (h : l.cursor.rest.length ≤ k) : skipGap (k + 1) l = skipGap k l := by
  induction k generalizing l with
  | zero =>
    have hnil : l.cursor.rest = [] := List.length_eq_zero_iff.1 (by omega)
    unfold skipGap
    simp [hnil]
  | succ k ih =>
    unfold skipGap
    cases hrest : l.cursor.rest with
    | nil => simp only [hrest]
    | cons b r =>
      simp only [hrest]
      split
      · refine ih ?_
        show (l.cursor.rest.drop 1).length ≤ k
        rw [List.length_drop]
        omega
      · split
        · rename_i hb
          have hlength := length_toLineEnd_lt (hrest.trans (by rw [eq_of_beq hb]))
          exact ih (by show l.cursor.toLineEnd.rest.length ≤ k; omega)
        · split
          · rename_i hb
            have hlength := length_lineBreak_lt hrest hb
            exact ih (by show l.cursor.lineBreak.2.rest.length ≤ k; omega)
          · rfl

theorem skipGap_of_le (h : l.cursor.rest.length ≤ k) :
    skipGap k l = skipGap l.cursor.rest.length l := by
  induction k, h using Nat.le_induction with
  | base => rfl
  | succ k hk ih => rw [skipGap_succ hk, ih]

/-- More steps than are needed change nothing. -/
theorem run?_succ {ts : List Token} (h : run? k l = some ts) : run? (k + 1) l = some ts := by
  induction k generalizing l with
  | zero => cases h
  | succ k ih =>
    unfold run? at h ⊢
    cases hl : l.toToken? with
    | none => simp [hl] at h
    | some l =>
      simp only [hl, Option.bind_eq_bind, Option.bind_some] at h ⊢
      split
      · rename_i hrest
        simpa only [hrest] using h
      · rename_i c r hrest
        simp only [hrest] at h
        obtain ⟨l', hl', h⟩ := Option.bind_eq_some_iff.1 h
        rw [hl', Option.bind_some]
        exact ih h

theorem run?_of_le {ts : List Token} (hk : k ≤ n) (h : run? k l = some ts) :
    run? n l = some ts := by
  induction n, hk using Nat.le_induction with
  | base => exact h
  | succ n hn ih => exact run?_succ ih

/-! ## Passing over comments -/

theorem skipGap_comment (hrest : l.cursor.rest = '#' :: r) :
    skipGap (k + 1) l = skipGap k { l with cursor := l.cursor.toLineEnd } := by
  rw [skipGap]
  simp only [hrest]
  rfl

theorem skipGap_break {b : Char} (hb : isBreak b = true) (hrest : l.cursor.rest = b :: r) :
    skipGap (k + 1) l = skipGap k
      { l with cursor := l.cursor.lineBreak.2, keyAllowed := l.keyAllowed || !l.inFlow } := by
  rw [skipGap]
  simp only [hrest]
  rcases isBreak_cases hb with rfl | rfl | rfl | rfl | rfl <;> rfl

/-- From the start of a line, a comment line is passed over in two steps. -/
theorem skipGap_line {line e : List Char} (hline : ∀ c ∈ line, isBreak c = false)
    (hend : IsLineEnd e s) :
    ∃ i' m', ∀ k, skipGap (k + 2) ((start ('#' :: (line ++ (e ++ s)) ++ r)).moved i m) =
      skipGap k ((start (s ++ r)).moved i' m') := by
  obtain ⟨b, u, rfl, hb⟩ := hend.exists_break
  refine ⟨i + (line.length + 1) + (b :: u).length, m + 1, fun k => ?_⟩
  let c : Cursor := ⟨'#' :: (line ++ (b :: u ++ s)) ++ r, 0 + i, 0 + m, 0⟩
  have hcomment : ∀ c ∈ '#' :: line, isBreak c = false := by
    simpa using ⟨by decide, hline⟩
  have hskip : c.toLineEnd =
      ⟨b :: u ++ (s ++ r), 0 + i + (line.length + 1), 0 + m, 0 + (line.length + 1)⟩ := by
    rw [Cursor.toLineEnd_eq (t := u ++ (s ++ r)) hcomment hb (by simp [c])]
    simp [c, Cursor.skip]
  rw [skipGap_comment rfl]
  show skipGap (k + 1) { (start _).moved i m with cursor := c.toLineEnd } = _
  rw [hskip, skipGap_break hb rfl]
  refine congrArg (skipGap k) ?_
  simp only [hend.lineBreak_eq]
  simp [moved, start, Cursor.moved, Cursor.start, Nat.add_assoc]

/-- From the start of a line, reading passes over comments to what comes after them. -/
theorem skipGap_of_isComment (h : IsComment s) :
    ∃ n i' m', n ≤ s.length ∧ ∀ k, skipGap (n + k) ((start (s ++ r)).moved i m) =
      skipGap k ((start r).moved i' m') := by
  induction hn : s.length using Nat.strong_induction_on generalizing s i m with
  | h n ih =>
    by_cases hs : s = []
    · subst hs
      exact ⟨0, i, m, Nat.zero_le _, fun k => by rw [Nat.zero_add]; rfl⟩
    · obtain ⟨line, e, t, rfl, hline, hend, ht⟩ := h.exists_line hs
      have hlength : 0 < e.length := by
        obtain ⟨b, u, rfl, -⟩ := hend.exists_break
        exact Nat.succ_pos _
      simp only [List.length_cons, List.length_append] at hn
      obtain ⟨i1, m1, hstep⟩ := skipGap_line (r := r) (i := i) (m := m) hline hend
      obtain ⟨j, i2, m2, hj, hrest⟩ := ih t.length (by omega) ht rfl
      refine ⟨j + 2, i2, m2, by omega, fun k => ?_⟩
      rw [Nat.add_right_comm, hstep, hrest]

theorem toToken?_of_isComment (h : IsComment s) :
    ∃ i m, (start (s ++ r)).toToken? = ((start r).moved i m).toToken? := by
  obtain ⟨n, i, m, hn, hskip⟩ := skipGap_of_isComment (i := 0) (m := 0) (r := r) h
  refine ⟨i, m, ?_⟩
  have hlength : (start (s ++ r)).cursor.rest.length = n + (s.length - n + r.length) := by
    show (s ++ r).length = _
    rw [List.length_append]
    omega
  have hgap : skipGap (start (s ++ r)).cursor.rest.length (start (s ++ r)) =
      skipGap r.length ((start r).moved i m) := by
    rw [hlength]
    refine (hskip _).trans (skipGap_of_le ?_)
    show r.length ≤ _
    omega
  unfold toToken?
  rw [hgap]
  rfl

theorem run?_of_isComment {ts : List Token} (h : IsComment s)
    (hrun : run? (r.length + 1) (start r) = some ts) :
    run? ((s ++ r).length + 1) (start (s ++ r)) = some ts := by
  obtain ⟨i, m, htoToken⟩ := toToken?_of_isComment (r := r) h
  have hmoved : run? ((s ++ r).length + 1) (start (s ++ r)) =
      run? ((s ++ r).length + 1) ((start r).moved i m) := by
    rw [run?, htoToken, run?]
  rw [hmoved, run?_moved]
  exact run?_of_le (by simp) hrun

end Layout

/-! ## Documents -/

section Documents

variable {comment text : String}

/-- A document with comment lines before it is the same document. -/
theorem Document.ofText?_of_isComment {d : Document} (h : IsComment comment.toList)
    (hallowed : comment.toList.all isAllowed = true) (hd : ofText? text = some d) :
    ofText? (comment ++ text) = some d := by
  obtain ⟨ts, hts, hd⟩ := Option.bind_eq_some_iff.1 hd
  have htokens : Token.ofText? (comment ++ text) = some ts := by
    unfold Token.ofText? at hts ⊢
    simp only [String.toList_append, List.all_append, hallowed, Bool.true_and] at hts ⊢
    split at hts
    · rename_i htext
      rw [if_pos htext]
      exact Layout.run?_of_isComment h hts
    · cases hts
  exact Option.bind_eq_some_iff.2 ⟨ts, htokens, hd⟩

/-- A comment may only hold characters that a document may hold. -/
theorem Document.ofText?_of_not_isAllowed {c : Char} (hc : c ∈ comment.toList)
    (hnot : isAllowed c = false) : ofText? (comment ++ text) = none := by
  have hall : (comment ++ text).toList.all isAllowed = false := by
    rw [List.all_eq_false]
    exact ⟨c, by simp [hc], by simp [hnot]⟩
  unfold ofText? Token.ofText?
  rw [if_neg (by rw [hall]; exact Bool.false_ne_true)]
  rfl

end Documents

end PipeLoom.Yaml
