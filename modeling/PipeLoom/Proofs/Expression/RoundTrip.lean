import PipeLoom.Proofs.Expression.Reading

/-!
# Printed expressions read back

`ofText?_print`: an expression whose groups stand where the grammar wants them is read back from the
text it prints as. Printing is followed in two steps, characters to tokens (`lex_print`) and tokens
to expressions (`readTokens_tokens`).
-/

namespace PipeLoom.Expression

/-! ## Fitting expressions -/

/-- The tokens of the text an expression prints as. -/
def tokens : Expression → List Token
  | literal true => [.word "true"]
  | literal false => [.word "false"]
  | text s => [.quoted s]
  | context p => [.word p]
  | call f => [.word f, .opening, .closing]
  | not e => .bang :: e.tokens
  | equal a b => a.tokens ++ .operator .equal :: b.tokens
  | differ a b => a.tokens ++ .operator .differ :: b.tokens
  | both a b => a.tokens ++ .operator .both :: b.tokens
  | either a b => a.tokens ++ .operator .either :: b.tokens
  | group e => .opening :: e.tokens ++ [.closing]

def IsWord (w : String) : Prop := w.toList ≠ [] ∧ w.toList.all isWordChar = true

instance (w : String) : Decidable (IsWord w) := inferInstanceAs (Decidable (_ ∧ _))

/-- The expression may stand ungrouped beside operators that bind less tightly than `k`. -/
def Fits : Nat → Expression → Prop
  | _, literal _ | _, text _ => True
  | _, context p => IsWord p ∧ ofWord? p = some (.context p)
  | _, call f => IsWord f
  | _, not e => Fits 4 e
  | k, equal a b | k, differ a b => k ≤ 3 ∧ Fits 3 a ∧ Fits 4 b
  | k, both a b => k ≤ 2 ∧ Fits 2 a ∧ Fits 3 b
  | k, either a b => k ≤ 1 ∧ Fits 1 a ∧ Fits 2 b
  | _, group e => Fits 1 e

instance decidableFits : (k : Nat) → (e : Expression) → Decidable (Fits k e)
  | _, literal _ | _, text _ => .isTrue trivial
  | _, context p => inferInstanceAs (Decidable (IsWord p ∧ ofWord? p = some (.context p)))
  | _, call f => inferInstanceAs (Decidable (IsWord f))
  | _, not e => decidableFits 4 e
  | k, equal a b | k, differ a b =>
    have := decidableFits 3 a
    have := decidableFits 4 b
    inferInstanceAs (Decidable (k ≤ 3 ∧ Fits 3 a ∧ Fits 4 b))
  | k, both a b =>
    have := decidableFits 2 a
    have := decidableFits 3 b
    inferInstanceAs (Decidable (k ≤ 2 ∧ Fits 2 a ∧ Fits 3 b))
  | k, either a b =>
    have := decidableFits 1 a
    have := decidableFits 2 b
    inferInstanceAs (Decidable (k ≤ 1 ∧ Fits 1 a ∧ Fits 2 b))
  | _, group e => decidableFits 1 e

section Apply

variable (o : Operator) (a b : Expression)

theorem tokens_apply : (o.apply a b).tokens = a.tokens ++ .operator o :: b.tokens := by
  cases o <;> rfl

theorem print_apply : (o.apply a b).print.toList =
    a.print.toList ++ ' ' :: o.mark ++ ' ' :: b.print.toList := by
  cases o <;> simp [Operator.apply, Operator.mark, print]

theorem fits_apply {k : Nat} :
    Fits k (o.apply a b) ↔ k ≤ o.level ∧ Fits o.level a ∧ Fits (o.level + 1) b := by
  cases o <;> rfl

end Apply

/-- Induction with one case for all operators. -/
@[elab_as_elim]
theorem operatorInduction {P : Expression → Prop} (literal : ∀ b, P (literal b))
    (text : ∀ s, P (text s)) (context : ∀ p, P (context p)) (call : ∀ f, P (call f))
    (not : ∀ e, P e → P (not e)) (apply : ∀ (o : Operator) a b, P a → P b → P (o.apply a b))
    (group : ∀ e, P e → P (group e)) (e : Expression) : P e := by
  induction e with
  | literal b => exact literal b
  | text s => exact text s
  | context p => exact context p
  | call f => exact call f
  | not e ih => exact not e ih
  | equal a b iha ihb => exact apply .equal a b iha ihb
  | differ a b iha ihb => exact apply .differ a b iha ihb
  | both a b iha ihb => exact apply .both a b iha ihb
  | either a b iha ihb => exact apply .either a b iha ihb
  | group e ih => exact group e ih

theorem Fits.mono {k l : Nat} {e : Expression} (h : Fits l e) (hkl : k ≤ l) : Fits k e := by
  induction e using operatorInduction with
  | apply o a b =>
    obtain ⟨hl, hab⟩ := (fits_apply o a b).1 h
    exact (fits_apply o a b).2 ⟨Nat.le_trans hkl hl, hab⟩
  | _ => exact h

theorem fits_foldl_either {es : List Expression} (h : ∀ x ∈ es, Fits 2 x) {e : Expression}
    (he : Fits 1 e) : Fits 1 (es.foldl .either e) := by
  induction es generalizing e with
  | nil => exact he
  | cons x es ih =>
    have hex : Fits 1 (.either e x) := ⟨Nat.le_refl _, he, h x List.mem_cons_self⟩
    exact ih (fun y hy => h y (List.mem_cons_of_mem _ hy)) hex

theorem fits_anyOf {es : List Expression} (h : ∀ x ∈ es, Fits 2 x) : Fits 1 (anyOf es) := by
  cases es with
  | nil => trivial
  | cons e es =>
    have he : Fits 1 e := (h e List.mem_cons_self).mono (by decide)
    exact fits_foldl_either (fun x hx => h x (List.mem_cons_of_mem _ hx)) he

/-! ## Characters to tokens -/

attribute [local simp] lex lexQuoted

/-- A word or a quoted text ends before these characters. -/
def Ends : List Char → Prop
  | [] => True
  | c :: _ => c = ' ' ∨ c = ')'

theorem ends_space (r : List Char) : Ends (' ' :: r) := .inl rfl

theorem ends_closing (r : List Char) : Ends (')' :: r) := .inr rfl

theorem wordToken_nil : wordToken [] = [] := rfl

theorem wordToken_isWord {w : String} (h : IsWord w) : wordToken w.toList = [.word w] := by
  unfold wordToken
  rw [List.isEmpty_eq_false_iff.2 h.1]
  simp

theorem lex_wordChar {v : List Char} {c : Char} {r : List Char} (hc : isWordChar c = true) :
    lex v (c :: r) = lex (v ++ [c]) r := by
  rw [lex, if_pos hc]
  all_goals
    intros
    subst_vars
    exact absurd hc (by decide)

theorem lex_word {w : List Char} (hw : w.all isWordChar = true) (v r : List Char) :
    lex v (w ++ r) = lex (v ++ w) r := by
  induction w generalizing v with
  | nil => simp
  | cons c w ih =>
    rw [List.all_cons, Bool.and_eq_true] at hw
    rw [List.cons_append, lex_wordChar hw.1, ih hw.2, List.append_assoc]
    rfl

theorem lex_flush {r : List Char} (hr : Ends r) (w : List Char) :
    lex w r = (lex [] r).map (wordToken w ++ ·) := by
  cases r with
  | nil => simp [wordToken_nil]
  | cons c r =>
    rcases hr with rfl | rfl <;> simp [wordToken_nil, Function.comp_def]

theorem lex_isWord {w : String} (h : IsWord w) {r : List Char} (hr : Ends r) :
    lex [] (w.toList ++ r) = (lex [] r).map (.word w :: ·) := by
  rw [lex_word h.2, lex_flush hr, List.nil_append, wordToken_isWord h]
  rfl

theorem lexQuoted_char {q : List Char} {c : Char} {r : List Char} (hc : c ≠ '\'') :
    lexQuoted q (c :: r) = lexQuoted (q ++ [c]) r := by
  rw [lexQuoted]
  all_goals
    intros
    contradiction

theorem lexQuoted_close {r : List Char} (hr : Ends r) (q : List Char) :
    lexQuoted q ('\'' :: r) = (lex [] r).map (.quoted (String.ofList q) :: ·) := by
  cases r with
  | nil => rw [lexQuoted]; simp
  | cons c r =>
    rw [lexQuoted]
    rintro r' h
    obtain ⟨rfl, -⟩ := List.cons.inj h
    rcases hr with h | h <;> exact absurd h (by decide)

theorem lexQuoted_quote {r : List Char} (hr : Ends r) (s q : List Char) :
    lexQuoted q ((s.flatMap fun c => if c = '\'' then [c, c] else [c]) ++ '\'' :: r) =
      (lex [] r).map (.quoted (String.ofList (q ++ s)) :: ·) := by
  induction s generalizing q with
  | nil => simpa using lexQuoted_close hr q
  | cons c s ih =>
    by_cases hc : c = '\''
    · subst hc
      rw [List.flatMap_cons, if_pos rfl, List.append_assoc, List.cons_append, List.singleton_append,
        lexQuoted, ih, List.append_assoc]
      rfl
    · rw [List.flatMap_cons, if_neg hc, List.append_assoc, List.singleton_append,
        lexQuoted_char hc, ih, List.append_assoc]
      rfl

/-- No mark starts with the first character after a negation. -/
theorem print_head {k : Nat} {e : Expression} (he : Fits k e) :
    ∃ c r, e.print.toList = c :: r ∧ c ≠ '=' := by
  induction e using operatorInduction generalizing k with
  | literal b => cases b <;> simp [print]
  | text s => simp [print, quote]
  | context p =>
    obtain ⟨⟨hne, hw⟩, -⟩ := he
    obtain ⟨c, r, hp⟩ := List.exists_cons_of_ne_nil hne
    refine ⟨c, r, hp, ?_⟩
    rintro rfl
    exact absurd (List.all_eq_true.1 hw '=' (by simp [hp])) (by decide)
  | call f =>
    obtain ⟨hne, hw⟩ := he
    obtain ⟨c, r, hf⟩ := List.exists_cons_of_ne_nil hne
    refine ⟨c, r ++ ['(', ')'], by simp [print, hf], ?_⟩
    rintro rfl
    exact absurd (List.all_eq_true.1 hw '=' (by simp [hf])) (by decide)
  | not e ih => simp [print]
  | apply o a b iha ihb =>
    obtain ⟨c, r, ha, hc⟩ := iha ((fits_apply o a b).1 he).2.1
    exact ⟨c, _, by rw [print_apply, ha]; rfl, hc⟩
  | group e ih => simp [print]

theorem lex_bang {k : Nat} {e : Expression} (he : Fits k e) (r : List Char) :
    lex [] ('!' :: (e.print.toList ++ r)) =
      (lex [] (e.print.toList ++ r)).map (.bang :: ·) := by
  obtain ⟨c, s, hp, hc⟩ := print_head he
  rw [hp, List.cons_append, lex]
  · rfl
  · rintro r' h
    exact hc (List.cons.inj h).1

theorem lex_mark (o : Operator) (r : List Char) :
    lex [] (' ' :: o.mark ++ ' ' :: r) = (lex [] r).map (.operator o :: ·) := by
  cases o <;> simp [Operator.mark, wordToken_nil, Function.comp_def]

theorem lex_print {k : Nat} {e : Expression} (he : Fits k e) {r : List Char} (hr : Ends r) :
    lex [] (e.print.toList ++ r) = (lex [] r).map (e.tokens ++ ·) := by
  induction e using operatorInduction generalizing k r with
  | literal b =>
    cases b
    · exact lex_isWord (w := "false") (by decide) hr
    · exact lex_isWord (w := "true") (by decide) hr
  | text s =>
    have h := lexQuoted_quote hr s.toList []
    simp only [print, quote, String.toList_append, String.toList_ofList, List.append_assoc]
    show lex [] ('\'' :: _) = _
    rw [lex]
    simpa [wordToken_nil, tokens] using h
  | context p => exact lex_isWord he.1 hr
  | call f =>
    simp only [print, String.toList_append, List.append_assoc, lex_word he.2]
    show lex ([] ++ f.toList) ('(' :: ')' :: r) = _
    rw [lex, lex, List.nil_append, wordToken_isWord he]
    simp [wordToken_nil, tokens, Function.comp_def]
  | not e ih =>
    simp only [print, String.toList_append, List.append_assoc]
    show lex [] ('!' :: (e.print.toList ++ r)) = _
    rw [lex_bang (show Fits 4 e from he), ih he hr]
    simp [tokens, Function.comp_def]
  | apply o a b iha ihb =>
    obtain ⟨-, ha, hb⟩ := (fits_apply o a b).1 he
    rw [print_apply, List.append_assoc, List.append_assoc]
    show lex [] (a.print.toList ++ ' ' :: (o.mark ++ ' ' :: (b.print.toList ++ r))) = _
    rw [iha ha (ends_space _), ← List.cons_append, lex_mark, ihb hb hr, tokens_apply]
    simp [Function.comp_def]
  | group e ih =>
    simp only [print, String.toList_append, List.append_assoc]
    show lex [] ('(' :: (e.print.toList ++ ')' :: r)) = _
    rw [lex, ih he (ends_closing _), lex]
    simp [wordToken_nil, tokens, Function.comp_def]

/-! ## Tokens to expressions -/

/-- Nothing open just before binds as tightly as `k`. -/
def Loose (k : Nat) (fs : List Frame) : Prop :=
  ∀ (o : Operator) x, k ≤ o.level → reduce o.level fs x = (fs, x)

theorem loose_four (fs : List Frame) : Loose 4 fs := by
  intro o x h
  cases o <;> exact absurd h (by decide)

theorem loose_nil (k : Nat) : Loose k [] := fun _ _ _ => rfl

theorem loose_group (k : Nat) (fs : List Frame) : Loose k (.group :: fs) := fun _ _ _ => rfl

theorem Loose.mono {k l : Nat} {fs : List Frame} (h : Loose k fs) (hkl : k ≤ l) : Loose l fs :=
  fun o x hl => h o x (Nat.le_trans hkl hl)

theorem loose_left (a : Expression) (o : Operator) (fs : List Frame) :
    Loose (o.level + 1) (.left a o :: fs) := by
  intro o' x h
  rw [reduce, if_neg (by omega)]

theorem reduce_left {k : Nat} {o : Operator} (h : k ≤ o.level) (a e : Expression)
    (fs : List Frame) : reduce k (.left a o :: fs) e = reduce k fs (o.apply a e) := by
  rw [reduce, if_pos h]

/-- What is open and the operand read last stand for `e` after `fs`, once an operator that binds no
more tightly than `k` completes them. -/
def StandsFor (k : Nat) (fs : List Frame) (e : Expression) (now : List Frame × Expression) :
    Prop :=
  ∀ o : Operator, o.level ≤ k → reduce o.level now.1 now.2 = reduce o.level fs e

theorem readTokens_word {w : String} {ts : List Token} (ht : ts.head? ≠ some .opening)
    (fs : List Frame) :
    readTokens fs none (.word w :: ts) = (ofWord? w).bind fun e => readTokens fs (some e) ts := by
  rw [readTokens]
  rintro ts' rfl
  exact ht rfl

theorem readTokens_tokens {k : Nat} {e : Expression} (he : Fits k e) {fs : List Frame}
    (hf : Loose k fs) {ts : List Token} (ht : ts.head? ≠ some .opening) :
    ∃ now, StandsFor k fs e now ∧
      readTokens fs none (e.tokens ++ ts) = readTokens now.1 (some now.2) ts := by
  induction e using operatorInduction generalizing k fs ts with
  | literal b =>
    refine ⟨(fs, .literal b), fun _ _ => rfl, ?_⟩
    cases b <;> exact readTokens_word ht fs
  | text s => exact ⟨(fs, .text s), fun _ _ => rfl, rfl⟩
  | context p =>
    refine ⟨(fs, .context p), fun _ _ => rfl, ?_⟩
    rw [tokens, List.singleton_append, readTokens_word ht, he.2]
    rfl
  | call f => exact ⟨(fs, .call f), fun _ _ => rfl, by simp [tokens, readTokens]⟩
  | not e ih =>
    obtain ⟨now, hnow, hr⟩ := ih (k := 4) he (loose_four (.not :: fs)) ht
    exact ⟨now, fun o _ => hnow o (by cases o <;> decide), hr⟩
  | apply o a b iha ihb =>
    obtain ⟨hk, ha, hb⟩ := (fits_apply o a b).1 he
    have hop : (Token.operator o :: (b.tokens ++ ts)).head? ≠ some .opening := by simp
    obtain ⟨⟨fa, xa⟩, hnowa, hra⟩ := iha ha (hf.mono hk) hop
    obtain ⟨now, hnow, hr⟩ := ihb hb (loose_left a o fs) ht
    refine ⟨now, fun o' ho' => ?_, ?_⟩
    · rw [hnow o' (by omega), reduce_left (by omega)]
    · rw [tokens_apply, List.append_assoc, List.cons_append, hra, readTokens,
        hnowa o (Nat.le_refl _), hf o a hk]
      exact hr
  | group e ih =>
    have hop : (Token.closing :: ts).head? ≠ some .opening := by simp
    obtain ⟨⟨fe, xe⟩, hnow, hr⟩ := ih he (loose_group 1 fs) hop
    refine ⟨(fs, .group e), fun _ _ => rfl, ?_⟩
    have hclose : reduce 1 fe xe = (.group :: fs, e) := hnow .either (Nat.le_refl _)
    rw [tokens, List.cons_append, List.cons_append, List.append_assoc, readTokens]
    show readTokens (.group :: fs) none (e.tokens ++ .closing :: ts) = _
    rw [hr, readTokens, hclose]

/-! ## Texts to expressions -/

theorem ofChars?_print {e : Expression} (he : Fits 1 e) {r : List Char} (hr : lex [] r = some [])
    (hend : Ends r) : ofChars? (e.print.toList ++ r) = some e := by
  have hop : ([] : List Token).head? ≠ some .opening := by simp
  obtain ⟨now, hnow, h⟩ := readTokens_tokens he (loose_nil 1) hop
  have hread : reduce 1 now.1 now.2 = ([], e) := hnow .either (Nat.le_refl _)
  rw [ofChars?, lex_print he hend, hr]
  show readTokens [] none (e.tokens ++ []) = some e
  rw [h, readTokens, hread]

theorem ofText?_print {e : Expression} (he : Fits 1 e) : ofText? e.print = some e := by
  have h := ofChars?_print he (r := []) rfl trivial
  rwa [List.append_nil] at h

theorem ofEmbedded?_embed (s : String) :
    ofEmbedded? (embed s) = ofChars? (' ' :: s.toList ++ [' ']) := by
  have hs : (embed s).toList =
      '$' :: '\x7b' :: '\x7b' :: (' ' :: s.toList ++ [' '] ++ ['\x7d', '\x7d']) := by
    simp [embed]
  rw [ofEmbedded?, hs]
  generalize ' ' :: s.toList ++ [' '] = x
  show (if ['\x7d', '\x7d'].isSuffixOf (x ++ ['\x7d', '\x7d']) then _ else _) = _
  rw [if_pos (List.isSuffixOf_iff_suffix.2 (List.suffix_append _ _)), List.length_append]
  exact congrArg ofChars? (List.take_left' rfl)

theorem ofEmbedded?_print {e : Expression} (he : Fits 1 e) :
    ofEmbedded? (embed e.print) = some e := by
  rw [ofEmbedded?_embed, ← ofChars?_print he (r := [' ']) rfl (ends_space [])]
  simp [ofChars?, wordToken_nil]

end PipeLoom.Expression
