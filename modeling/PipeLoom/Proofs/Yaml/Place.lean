import PipeLoom.Yaml.Token.Layout

/-!
# Where a text stands

Readers keep count of characters and lines, but only compare them: they read a text as they would
read it further on in a longer document (`Layout.run?_moved`). Columns do count, so the text still
starts at the beginning of a line.
-/

namespace PipeLoom.Yaml

/-! ## Cursors -/

namespace Cursor

/-- The same place further on in a longer document. -/
def moved (i n : Nat) (c : Cursor) : Cursor := { c with index := c.index + i, line := c.line + n }

variable (i n : Nat) (c : Cursor)

@[simp] theorem moved_rest : (c.moved i n).rest = c.rest := rfl

@[simp] theorem moved_column : (c.moved i n).column = c.column := rfl

@[simp] theorem skip_moved (k : Nat) : (c.moved i n).skip k = (c.skip k).moved i n := by
  simp [skip, moved, Nat.add_right_comm]

@[simp] theorem nextLine_moved (k : Nat) : (c.moved i n).nextLine k = (c.nextLine k).moved i n := by
  simp [nextLine, moved, Nat.add_right_comm]

@[simp] theorem span_moved (p : Char → Bool) :
    (c.moved i n).span p = ((c.span p).1, (c.span p).2.moved i n) := by
  simp [span]

@[simp] theorem skipWhile_moved (p : Char → Bool) :
    (c.moved i n).skipWhile p = (c.skipWhile p).moved i n := by
  simp [skipWhile]

@[simp] theorem toLineEnd_moved : (c.moved i n).toLineEnd = c.toLineEnd.moved i n := by
  simp [toLineEnd]

@[simp] theorem lineBreak_moved :
    (c.moved i n).lineBreak = (c.lineBreak.1, c.lineBreak.2.moved i n) := by
  unfold lineBreak
  rw [moved_rest]
  split
  · simp
  · split
    · simp
    · split <;> simp
  · simp

@[simp] theorem atMark_moved (mark : List Char) : (c.moved i n).atMark mark = c.atMark mark := rfl

@[simp] theorem atDocumentMark_moved : (c.moved i n).atDocumentMark = c.atDocumentMark := rfl

end Cursor

/-! ## Anchors, tags and directives -/

/-- What comes after a reader may be moved before it is done or after. -/
theorem bind_map_eq {α β : Type} {o : Option α} {g : α → α} {h : β → β} {f f' : α → Option β}
    (hf : ∀ a, f' (g a) = (f a).map h) : (o.map g).bind f' = (o.bind f).map h := by
  cases o with
  | none => rfl
  | some a => exact hf a

variable (i n : Nat) (c : Cursor)

/-- What a reader gives, with the place after it moved. -/
@[simp] def shift {α : Type} (r : α × Cursor) : α × Cursor := (r.1, r.2.moved i n)

/-- The same after two results. -/
@[simp] def shift₂ {α β : Type} (r : α × β × Cursor) : α × β × Cursor := (r.1, shift i n r.2)

@[simp] def shift₃ {α β γ : Type} (r : α × β × γ × Cursor) : α × β × γ × Cursor :=
  (r.1, shift₂ i n r.2)

theorem map_ite {α β : Type} (f : α → β) (p : Prop) [Decidable p] (x y : Option α) :
    (if p then x else y).map f = if p then x.map f else y.map f := apply_ite _ _ _ _

theorem ite_moved (p : Prop) [Decidable p] (c d : Cursor) :
    (if p then c.moved i n else d.moved i n) = (if p then c else d).moved i n := by
  split <;> rfl

namespace Token

@[simp] theorem anchorName?_moved :
    anchorName? (c.moved i n) = (anchorName? c).map (shift i n) := by
  unfold anchorName?
  simp only [Cursor.skip_moved, Cursor.span_moved, Cursor.moved_rest]
  split <;> rfl

@[simp] theorem tagText?_moved (verbatim : Bool) :
    tagText? verbatim (c.moved i n) = (tagText? verbatim c).map (shift i n) := by
  unfold tagText?
  simp only [Cursor.span_moved]
  cases unescapeTag? _ _ <;> rfl

@[simp] theorem tag?_moved (inFlow : Bool) :
    tag? inFlow (c.moved i n) = (tag? inFlow c).map (shift i n) := by
  unfold tag?
  simp [Option.map_bind, Function.comp_def, map_ite, Option.bind_map]
  rfl

@[simp] theorem versionNumber?_moved :
    versionNumber? (c.moved i n) = (versionNumber? c).map (shift i n) := by
  unfold versionNumber?
  simp only [Cursor.span_moved]
  split <;> rfl

@[simp] theorem versionDirective?_moved :
    versionDirective? (c.moved i n) = (versionDirective? c).map (shift i n) := by
  unfold versionDirective?
  simp only [Cursor.skipWhile_moved, versionNumber?_moved]
  refine bind_map_eq fun r => ?_
  simp only [shift, Cursor.moved_rest, Cursor.skip_moved, versionNumber?_moved]
  split
  · rfl
  · exact bind_map_eq fun r => rfl

@[simp] theorem handleDirective?_moved :
    handleDirective? (c.moved i n) = (handleDirective? c).map (shift i n) := by
  unfold handleDirective?
  simp [Option.map_bind, Function.comp_def, map_ite, Option.bind_map]
  rfl

@[simp] theorem directive?_moved :
    directive? (c.moved i n) = (directive? c).map (shift i n) := by
  unfold directive?
  simp [Option.map_bind, Function.comp_def, map_ite, Option.bind_map, ite_moved]

end Token

/-! ## Scalars -/

namespace Gap

@[simp] theorem read?_moved (indent k : Nat) (g : Gap) :
    read? indent k g (c.moved i n) = (read? indent k g c).map (shift i n) := by
  induction k generalizing g c with
  | zero => rfl
  | succ k ih =>
    unfold read?
    rw [Cursor.moved_rest]
    split
    · rfl
    · simp only [Cursor.skip_moved, Cursor.lineBreak_moved, Cursor.moved_column, ih, map_ite,
        Option.map_none]
      rfl

@[simp] theorem readAll?_moved (indent : Nat) (g : Gap) :
    readAll? indent g (c.moved i n) = (readAll? indent g c).map (shift i n) :=
  read?_moved i n c indent _ g

end Gap

namespace Token

@[simp] theorem plainFrom?_moved (inFlow : Bool) (indent k : Nat) (g : Gap) :
    plainFrom? inFlow indent k g (c.moved i n) =
      (plainFrom? inFlow indent k g c).map (shift₂ i n) := by
  induction k generalizing g c with
  | zero => rfl
  | succ k ih =>
    unfold plainFrom?
    cases hword : plainWord? inFlow c.rest with
    | none => simp [hword, map_ite]
    | some word =>
      cases word <;>
        simp [hword, Option.map_bind, Function.comp_def, map_ite, Option.bind_map, ih]

@[simp] theorem quotedWord?_moved (quote : Char) (k : Nat) :
    quotedWord? quote k (c.moved i n) = (quotedWord? quote k c).map (shift₂ i n) := by
  induction k generalizing c with
  | zero => rfl
  | succ k ih =>
    unfold quotedWord?
    rw [Cursor.moved_rest]
    split
    · rfl
    · simp [Option.map_bind, Function.comp_def, map_ite, Option.bind_map, ih]

@[simp] theorem quotedFrom?_moved (quote : Char) (k : Nat) :
    quotedFrom? quote k (c.moved i n) = (quotedFrom? quote k c).map (shift i n) := by
  induction k generalizing c with
  | zero => rfl
  | succ k ih =>
    unfold quotedFrom?
    simp [Option.map_bind, Function.comp_def, map_ite, Option.bind_map, ih]
    rfl

@[simp] theorem quoted?_moved : quoted? (c.moved i n) = (quoted? c).map (shift i n) := by
  unfold quoted?
  simp [Option.map_bind, Function.comp_def, Option.bind_map]

@[simp] theorem blockHead?_moved : blockHead? (c.moved i n) = (blockHead? c).map (shift₂ i n) := by
  unfold blockHead?
  cases hchomp : chomp? c.rest with
  | some chomp =>
    cases hhint : indentHint? (c.skip 1).rest <;> simp [hchomp, hhint, map_ite]
  | none =>
    cases hhint : indentHint? c.rest with
    | none => simp [hchomp, hhint]
    | some m =>
      cases hchomp' : chomp? (c.skip 1).rest <;>
        simp [hchomp, hhint, hchomp', map_ite]

@[simp] theorem emptyLinesFrom?_moved (indent : Option Nat) (k widest : Nat) (breaks : List Char) :
    emptyLinesFrom? indent k widest breaks (c.moved i n) =
      (emptyLinesFrom? indent k widest breaks c).map (shift₂ i n) := by
  induction k generalizing c widest breaks with
  | zero => rfl
  | succ k ih =>
    unfold emptyLinesFrom?
    simp [map_ite, ih]

@[simp] theorem emptyLines?_moved (indent : Option Nat) :
    emptyLines? indent (c.moved i n) = (emptyLines? indent c).map (shift₂ i n) :=
  emptyLinesFrom?_moved i n c indent _ 0 []

@[simp] theorem blockLines?_moved (literal : Bool) (indent : Nat) (wasBlank : Bool)
    (first more : List Char) (k : Nat) :
    blockLines? literal indent wasBlank first more k (c.moved i n) =
      (blockLines? literal indent wasBlank first more k c).map (shift₃ i n) := by
  induction k generalizing c wasBlank first more with
  | zero => rfl
  | succ k ih =>
    unfold blockLines?
    simp [Option.map_bind, Function.comp_def, map_ite, Option.bind_map, ih]

@[simp] theorem block?_moved (parent : Option Nat) :
    block? parent (c.moved i n) = (block? parent c).map (shift i n) := by
  unfold block?
  simp [Option.map_bind, Function.comp_def, map_ite, Option.bind_map, ite_moved]
  rfl

end Token

/-! ## Layouts -/

namespace Candidate

/-- The same token in the longer document. -/
def moved (k : Candidate) : Candidate := { k with place := k.place.moved i n }

variable (k : Candidate)

@[simp] theorem moved_required : (k.moved i n).required = k.required := rfl

@[simp] theorem moved_position : (k.moved i n).position = k.position := rfl

@[simp] theorem moved_place : (k.moved i n).place = k.place.moved i n := rfl

end Candidate

namespace Layout

/-- The same layout in the longer document, with the same tokens. -/
def moved (l : Layout) : Layout :=
  { l with
    cursor := l.cursor.moved i n
    candidates := l.candidates.map (Option.map (Candidate.moved i n)) }

variable (l : Layout) (column position : Nat) (t : Token) (keyAllowed : Bool)

@[simp] theorem moved_cursor : (l.moved i n).cursor = l.cursor.moved i n := rfl

theorem moved_candidates :
    (l.moved i n).candidates = l.candidates.map (Option.map (Candidate.moved i n)) := rfl

@[simp] theorem moved_keyAllowed : (l.moved i n).keyAllowed = l.keyAllowed := rfl

@[simp] theorem inFlow_moved : (l.moved i n).inFlow = l.inFlow := by simp [inFlow, moved]

@[simp] theorem column?_moved : (l.moved i n).column? = l.column? := rfl

@[simp] theorem isDeeper_moved : (l.moved i n).isDeeper column = l.isDeeper column := rfl

@[simp] theorem insertAt_moved :
    (l.moved i n).insertAt position t = (l.insertAt position t).moved i n := rfl

@[simp] theorem openBlock_moved :
    (l.moved i n).openBlock column position t = (l.openBlock column position t).moved i n := by
  unfold openBlock
  rw [inFlow_moved, isDeeper_moved]
  split <;> rfl

@[simp] theorem openHere_moved : (l.moved i n).openHere t = (l.openHere t).moved i n :=
  openBlock_moved i n l _ _ t

@[simp] theorem close_moved (deeper : Nat → Bool) :
    (l.moved i n).close deeper = (l.close deeper).moved i n := by
  unfold close
  rw [inFlow_moved]
  split <;> rfl

@[simp] theorem closeAll_moved : (l.moved i n).closeAll = l.closeAll.moved i n :=
  close_moved i n l _

@[simp] theorem take_moved (k : Nat) :
    (l.moved i n).take k t keyAllowed = (l.take k t keyAllowed).moved i n := by
  simp [take, moved, push]

/-! ### Possible keys -/

@[simp] theorem dropKey?_moved : (l.moved i n).dropKey? = l.dropKey?.map (moved i n) := by
  obtain ⟨c, ts, cs, ks, a⟩ := l
  rcases ks with _ | ⟨_ | k, r⟩
  · rfl
  · rfl
  · show (if k.required then none else _) = Option.map _ (if k.required then none else _)
    split <;> rfl

@[simp] theorem saveKey?_moved : (l.moved i n).saveKey? = l.saveKey?.map (moved i n) := by
  unfold saveKey?
  rw [moved_keyAllowed, dropKey?_moved]
  split
  · rfl
  · cases l.dropKey? with
    | none => rfl
    | some l =>
      show some _ = some _
      congr 1
      simp only [moved, Candidate.moved, List.map_cons, List.map_drop, Option.map_some]
      congr 4
      exact congrArg (!· && _) (inFlow_moved i n l)

@[simp] theorem isLive_moved (k : Candidate) : isLive (c.moved i n) (k.moved i n) = isLive c k := by
  show (k.place.line + n == c.line + n && decide (c.index + i ≤ k.place.index + i + 1024)) = _
  rw [Bool.eq_iff_iff]
  simp only [isLive, Bool.and_eq_true, beq_iff_eq, decide_eq_true_eq]
  omega

@[simp] theorem dropStale?_moved : (l.moved i n).dropStale? = l.dropStale?.map (moved i n) := by
  unfold dropStale?
  simp only [moved, List.any_map, List.map_map, Function.comp_def, Option.any_map, isLive_moved,
    Candidate.moved_required, Option.filter_map]
  split
  · rfl
  · show some _ = some _
    simp [moved, Function.comp_def]

/-! ### White space -/

@[simp] theorem skipGap_moved (k : Nat) : skipGap k (l.moved i n) = (skipGap k l).moved i n := by
  induction k generalizing l with
  | zero => rfl
  | succ k ih =>
    unfold skipGap
    simp only [moved_cursor, Cursor.moved_rest, Cursor.moved_column, moved_keyAllowed, inFlow_moved]
    split
    · rfl
    · split
      · rw [Cursor.skip_moved]
        exact ih { l with cursor := l.cursor.skip 1 }
      · split
        · rw [Cursor.toLineEnd_moved]
          exact ih { l with cursor := l.cursor.toLineEnd }
        · split
          · rw [Cursor.lineBreak_moved]
            exact ih { l with
              cursor := l.cursor.lineBreak.2, keyAllowed := l.keyAllowed || !l.inFlow }
          · rfl

@[simp] theorem toToken?_moved : (l.moved i n).toToken? = l.toToken?.map (moved i n) := by
  unfold toToken?
  simp only [moved_cursor, Cursor.moved_rest, skipGap_moved, dropStale?_moved]
  refine bind_map_eq fun l => ?_
  show some ((l.moved i n).close (l.cursor.column < ·)) = _
  rw [close_moved]
  rfl

/-! ### Tokens -/

@[simp] theorem directive?_moved : (l.moved i n).directive? = l.directive?.map (moved i n) := by
  unfold directive?
  rw [closeAll_moved, dropKey?_moved]
  refine bind_map_eq fun l => ?_
  rw [moved_cursor, Token.directive?_moved]
  exact bind_map_eq fun r => rfl

@[simp] theorem documentMark?_moved :
    (l.moved i n).documentMark? t = (l.documentMark? t).map (moved i n) := by
  unfold documentMark?
  rw [closeAll_moved, dropKey?_moved]
  exact bind_map_eq fun l => congrArg some (take_moved i n l t false 3)

@[simp] theorem flowStart?_moved :
    (l.moved i n).flowStart? t = (l.flowStart? t).map (moved i n) := by
  unfold flowStart?
  rw [saveKey?_moved]
  refine bind_map_eq fun l => ?_
  rw [take_moved]
  rfl

@[simp] theorem flowEnd?_moved : (l.moved i n).flowEnd? t = (l.flowEnd? t).map (moved i n) := by
  unfold flowEnd?
  rw [dropKey?_moved]
  refine bind_map_eq fun l => ?_
  rw [take_moved, inFlow_moved]
  show some _ = some _
  cases l.inFlow
  · rfl
  · simp [moved]

@[simp] theorem comma?_moved : (l.moved i n).comma? = l.comma?.map (moved i n) := by
  unfold comma?
  rw [dropKey?_moved]
  exact bind_map_eq fun l => congrArg some (take_moved i n l .comma true 1)

@[simp] theorem dash?_moved : (l.moved i n).dash? = l.dash?.map (moved i n) := by
  unfold dash?
  rw [inFlow_moved, moved_keyAllowed, openHere_moved, dropKey?_moved]
  split
  · rfl
  · exact bind_map_eq fun l => congrArg some (take_moved i n l .dash true 1)

@[simp] theorem key?_moved : (l.moved i n).key? = l.key?.map (moved i n) := by
  unfold key?
  rw [inFlow_moved, moved_keyAllowed, openHere_moved, dropKey?_moved]
  split
  · rfl
  · refine bind_map_eq fun l => ?_
    rw [inFlow_moved]
    exact congrArg some (take_moved i n l .key _ 1)

@[simp] theorem value?_moved : (l.moved i n).value? = l.value?.map (moved i n) := by
  unfold value?
  rcases hk : l.candidates with _ | ⟨_ | k, r⟩
  · simp [hk, moved_candidates, map_ite]
  · simp [hk, moved_candidates, map_ite]
  · simp only [hk, moved_candidates, List.map_cons, Option.map_some, Candidate.moved_position,
      Candidate.moved_place, Cursor.moved_column, insertAt_moved, openBlock_moved, take_moved]
    rfl

@[simp] theorem keyed?_moved {read : Cursor → Option (Token × Cursor)}
    (hread : ∀ c, read (c.moved i n) = (read c).map (shift i n)) :
    (l.moved i n).keyed? read = (l.keyed? read).map (moved i n) := by
  unfold keyed?
  rw [saveKey?_moved]
  refine bind_map_eq fun l => ?_
  rw [moved_cursor, hread]
  exact bind_map_eq fun r => rfl

@[simp] theorem block?_moved : (l.moved i n).block? = l.block?.map (moved i n) := by
  unfold block?
  rw [dropKey?_moved]
  refine bind_map_eq fun l => ?_
  rw [moved_cursor, column?_moved, Token.block?_moved]
  exact bind_map_eq fun r => rfl

@[simp] theorem plain?_moved : (l.moved i n).plain? = l.plain?.map (moved i n) := by
  unfold plain?
  rw [saveKey?_moved]
  refine bind_map_eq fun l => ?_
  simp only [moved_cursor, column?_moved, inFlow_moved, Token.plainFrom?_moved, Cursor.moved_rest]
  exact bind_map_eq fun r => rfl

theorem anchorName?_map_moved (f : String → Token) :
    (do
      let (name, c) ← Token.anchorName? (c.moved i n)
      return (f name, c)) =
    Option.map (shift i n) (do
      let (name, c) ← Token.anchorName? c
      return (f name, c)) := by
  rw [Token.anchorName?_moved]
  exact bind_map_eq fun r => rfl

@[simp] theorem token?_moved (b : Char) (r : List Char) :
    (l.moved i n).token? b r = (l.token? b r).map (moved i n) := by
  unfold token?
  simp only [moved_cursor, Cursor.moved_column, Cursor.atMark_moved, inFlow_moved, directive?_moved,
    documentMark?_moved]
  split
  · rfl
  split
  · rfl
  split
  · rfl
  -- one case for each character that starts a token
  split
  · exact flowStart?_moved i n l _
  · exact flowStart?_moved i n l _
  · exact flowEnd?_moved i n l _
  · exact flowEnd?_moved i n l _
  · exact comma?_moved i n l
  · exact keyed?_moved i n l (anchorName?_map_moved i n · .reference)
  · exact keyed?_moved i n l (anchorName?_map_moved i n · .anchor)
  · exact keyed?_moved i n l (Token.tag?_moved i n · l.inFlow)
  · exact keyed?_moved i n l (Token.quoted?_moved i n)
  · exact keyed?_moved i n l (Token.quoted?_moved i n)
  · rw [block?_moved, map_ite, Option.map_none]
  · rw [block?_moved, map_ite, Option.map_none]
  · rw [dash?_moved, plain?_moved, map_ite]
  · rw [key?_moved, plain?_moved, map_ite]
  · rw [value?_moved, plain?_moved, map_ite]
  · rfl
  · rfl
  · rfl
  · rfl
  · rw [plain?_moved, map_ite, Option.map_none]

@[simp] theorem finish?_moved : (l.moved i n).finish? = l.finish? := by
  unfold finish?
  rw [closeAll_moved, dropKey?_moved]
  cases l.closeAll.dropKey? <;> rfl

/-- The tokens of a text do not depend on what stands before it. -/
theorem run?_moved (k : Nat) : run? k (l.moved i n) = run? k l := by
  induction k generalizing l with
  | zero => rfl
  | succ k ih =>
    unfold run?
    rw [toToken?_moved]
    cases l.toToken? with
    | none => rfl
    | some l =>
      simp only [Option.map_some, Option.bind_eq_bind, Option.bind_some, moved_cursor,
        Cursor.moved_rest]
      split
      · exact finish?_moved i n l
      · rw [token?_moved]
        cases l.token? _ _ with
        | none => rfl
        | some l => exact ih l

end Layout

end PipeLoom.Yaml
