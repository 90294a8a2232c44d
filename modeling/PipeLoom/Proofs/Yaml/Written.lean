import PipeLoom.Proofs.Yaml.ReadBack

/-!
# The characters of a printed value

Whether a concrete value reads back is evaluated. The kernel is slow to put texts together and to
decode them, so `Node.chars` prints a value as a list of characters instead, in the same steps as
`Node.print` (`Node.toList_print`).
-/

namespace PipeLoom.Yaml

/-! ## Texts -/

/-- The characters of a text, one for each byte where all are ASCII. -/
def charsOf (s : String) : List Char :=
  let bytes := s.toByteArray.data.toList
  if bytes.all (· < 128) then bytes.map fun b => Char.ofNat b.toNat else s.toList

theorem utf8EncodeChar_of_lt {c : Char} (h : ∀ b ∈ String.utf8EncodeChar c, b < 128) :
    (String.utf8EncodeChar c).map (fun b => Char.ofNat b.toNat) = [c] := by
  unfold String.utf8EncodeChar at h ⊢
  simp only at h ⊢
  split at h
  · rename_i hc
    rw [if_pos hc]
    have hbyte : c.toNat % 256 = c.toNat := Nat.mod_eq_of_lt (Nat.lt_of_le_of_lt hc (by decide))
    simp [hbyte]
  · -- the first of several bytes is at least 192
    exfalso
    have hfirst : ∀ n, 192 ≤ n % 256 → ¬UInt8.ofNat n < 128 := by
      intro n hn hlt
      have := UInt8.lt_iff_toNat_lt.1 hlt
      simp at this
      omega
    split at h
    · exact hfirst _ (by omega) (h _ List.mem_cons_self)
    · split at h
      · exact hfirst _ (by omega) (h _ List.mem_cons_self)
      · exact hfirst _ (by omega) (h _ List.mem_cons_self)

theorem map_utf8EncodeChar {cs : List Char} (h : ∀ b ∈ cs.flatMap String.utf8EncodeChar, b < 128) :
    (cs.flatMap String.utf8EncodeChar).map (fun b => Char.ofNat b.toNat) = cs := by
  induction cs with
  | nil => rfl
  | cons c cs ih =>
    rw [List.flatMap_cons] at h ⊢
    rw [List.map_append, ih fun b hb => h b (List.mem_append_right _ hb),
      utf8EncodeChar_of_lt fun b hb => h b (List.mem_append_left _ hb)]
    rfl

theorem charsOf_eq (s : String) : charsOf s = s.toList := by
  have hbytes : s.toByteArray.data.toList = s.toList.flatMap String.utf8EncodeChar := by
    rw [← String.ofList_toList (s := s), String.toByteArray_ofList, String.toList_ofList]
    exact List.toList_data_toByteArray
  unfold charsOf
  simp only
  split
  · rename_i h
    rw [hbytes] at h ⊢
    exact map_utf8EncodeChar fun b hb => of_decide_eq_true (List.all_eq_true.1 h b hb)
  · rfl

/-! ## Values -/

namespace Node

/-- A text in its style and the end of its line. -/
def lineChars (indent : Nat) (text : String) : List Char :=
  let s := charsOf text
  let style :=
    if s.contains '\n' then if Style.allowsLiteral s then .literal else .double
    else if !Scalar.isAmbiguous text && Style.allowsPlain s then .plain
    else if Style.allowsSingle s then .single
    else .double
  let written := Style.writeList indent s style
  if style == .literal && s.getLast?.any isBreak then written else written ++ ['\n']

def scalarChars (indent : Nat) : Node → List Char
  | text s => lineChars indent s
  | v => (scalarLine indent v).toList

def keyChars : Node → List Char
  | tagged tag v => tag.toList ++ ' ' :: keyChars v
  | k => (scalarChars 0 k).dropLast

mutual

def afterChars (indent : Nat) : Node → List Char
  | list (x :: xs) => '\n' :: (itemsChars indent (x :: xs)).flatMap (Style.pad indent ++ ·)
  | map (e :: es) =>
    '\n' :: (entriesChars (indent + 2) (e :: es)).flatMap (Style.pad (indent + 2) ++ ·)
  | tagged tag v => ' ' :: (tag.toList ++ afterChars indent v)
  | v => ' ' :: scalarChars (indent + 2) v

def compactChars (indent : Nat) : Node → List Char
  | list (x :: xs) => List.intercalate (Style.pad (indent + 2)) (itemsChars (indent + 2) (x :: xs))
  | map (e :: es) => List.intercalate (Style.pad (indent + 2)) (entriesChars (indent + 2) (e :: es))
  | tagged tag v => tag.toList ++ afterChars indent v
  | v => scalarChars (indent + 2) v

def itemsChars (indent : Nat) : List Node → List (List Char)
  | [] => []
  | tagged tag (list (y :: ys)) :: xs =>
    ('-' :: ' ' :: (tag.toList ++
      '\n' :: (itemsChars (indent + 2) (y :: ys)).flatMap (Style.pad (indent + 2) ++ ·))) ::
      itemsChars indent xs
  | x :: xs => ('-' :: ' ' :: compactChars indent x) :: itemsChars indent xs

def entriesChars (indent : Nat) : List (Node × Node) → List (List Char)
  | [] => []
  | (k, v) :: es =>
    (if isSimpleKey k then keyChars k ++ ':' :: afterChars indent v
      else '?' :: ' ' :: (compactChars indent k ++
        (Style.pad indent ++ ':' :: ' ' :: compactChars indent v))) ::
      entriesChars indent es

end

/-- A value as a document. -/
def chars : Node → List Char
  | list (x :: xs) => (itemsChars 0 (x :: xs)).flatten
  | map (e :: es) => (entriesChars 0 (e :: es)).flatten
  | tagged tag v => tag.toList ++ afterChars 0 v
  | v => scalarChars 0 v

theorem toList_line (indent : Nat) (s : String) :
    (Style.line indent s).toList = lineChars indent s := by
  unfold lineChars
  rw [charsOf_eq]
  exact String.toList_ofList

theorem toList_scalarLine (indent : Nat) (v : Node) :
    (scalarLine indent v).toList = scalarChars indent v := by
  cases v with
  | text s => exact toList_line indent s
  | _ => rfl

theorem toList_keyText (k : Node) : (keyText k).toList = keyChars k := by
  induction k using keyText.induct with
  | case1 tag v ih => simp [keyText, keyChars, ih]
  | case2 k hk =>
    cases k with
    | tagged tag v => exact absurd rfl (hk tag v)
    | _ => simp [keyText, keyChars, toList_scalarLine]

theorem toList_padding (indent : Nat) : (padding indent).toList = Style.pad indent :=
  String.toList_ofList

/-- Lines that are put together, each behind its indentation. -/
theorem toList_join_padding (indent : Nat) (lines : List String) :
    (String.join (lines.map (padding indent ++ ·))).toList =
      (lines.map String.toList).flatMap (Style.pad indent ++ ·) := by
  simp [String.toList_join, List.flatMap_map, toList_padding]

mutual

theorem toList_after (indent : Nat) : (v : Node) → (after indent v).toList = afterChars indent v
  | list (x :: xs) => by
    rw [after, afterChars, String.toList_append, toList_join_padding, toList_items]
    rfl
  | map (e :: es) => by
    rw [after, afterChars, String.toList_append, toList_join_padding, toList_entries]
    rfl
  | tagged tag v => by
    rw [after, afterChars, String.toList_append, String.toList_append, toList_after indent v]
    rfl
  | null | bool _ | int _ | float _ | text _ | list [] | map [] => by
    simp only [after, afterChars, String.toList_append, toList_scalarLine]
    rfl

theorem toList_compact (indent : Nat) :
    (v : Node) → (compact indent v).toList = compactChars indent v
  | list (x :: xs) => by
    rw [compact, compactChars, String.toList_intercalate, toList_padding, toList_items]
  | map (e :: es) => by
    rw [compact, compactChars, String.toList_intercalate, toList_padding, toList_entries]
  | tagged tag v => by
    rw [compact, compactChars, String.toList_append, toList_after indent v]
  | null | bool _ | int _ | float _ | text _ | list [] | map [] => by
    simp only [compact, compactChars, toList_scalarLine]

theorem toList_items (indent : Nat) :
    (xs : List Node) → (items indent xs).map String.toList = itemsChars indent xs
  | [] => by rw [items, itemsChars, List.map_nil]
  | x :: xs => by
    by_cases hx : ∃ tag y ys, x = tagged tag (list (y :: ys))
    · obtain ⟨tag, y, ys, rfl⟩ := hx
      rw [items, itemsChars, List.map_cons, toList_items indent xs]
      simp only [String.toList_append, toList_join_padding, toList_items (indent + 2) (y :: ys),
        List.append_assoc]
      rfl
    · have hnot : ∀ tag y ys, x = tagged tag (list (y :: ys)) → False :=
        fun tag y ys heq => hx ⟨tag, y, ys, heq⟩
      rw [items.eq_3 indent x xs hnot, itemsChars.eq_3 indent x xs hnot, List.map_cons,
        toList_items indent xs, String.toList_append, toList_compact indent x]
      rfl

theorem toList_entries (indent : Nat) :
    (es : List (Node × Node)) → (entries indent es).map String.toList = entriesChars indent es
  | [] => by rw [entries, entriesChars, List.map_nil]
  | (k, v) :: es => by
    rw [entries, entriesChars, List.map_cons, toList_entries indent es]
    congr 1
    split
    · simp only [String.toList_append, toList_keyText, toList_after indent v, List.append_assoc]
      rfl
    · simp only [String.toList_append, toList_compact indent k, toList_compact indent v,
        toList_padding, List.append_assoc]
      rfl

end

theorem toList_print : (v : Node) → v.print.toList = v.chars
  | list (x :: xs) => by
    rw [print, chars, String.toList_join, List.flatMap_def, toList_items]
  | map (e :: es) => by
    rw [print, chars, String.toList_join, List.flatMap_def, toList_entries]
  | tagged tag v => by
    rw [print, chars, String.toList_append, toList_after]
  | null | bool _ | int _ | float _ | text _ | list [] | map [] => by
    simp only [print, chars, toList_scalarLine]

theorem ofText?_print (v : Node) : Document.ofText? v.print = Document.ofChars? v.chars :=
  Document.ofText?_of_toList (toList_print v)

/-- Whether the printed characters are a document with the value. -/
def isReadBack (v : Node) : Bool :=
  (Document.ofChars? v.chars).any fun d => d.root? Document.kept == some v

theorem readsBack_of_isReadBack {v : Node} (h : v.isReadBack = true) : v.ReadsBack := by
  obtain ⟨d, hd, hroot⟩ := (Option.any_eq_true _ _).1 h
  exact ⟨d, by rw [ofText?_print, hd], eq_of_beq hroot⟩

end Node

end PipeLoom.Yaml
