import PipeLoom.Pipeline.EnvReference

/-!
# What refers to a variable

`Begins` says that a reference stands at a place of a text, and `References` how a text is read from
there on: the leftmost reference first, the next one behind it. The scan of a guard finds just these
references (`refersTo_iff`).
-/

namespace PipeLoom.EnvReference

open Text (isWordChar)

variable {before text name rest : List Char} {c : Char} {names : List (List Char)}

/-- A word character stands on one side of the place and not on the other. -/
def IsWordBoundary (before after : List Char) : Prop :=
  before.getLast?.any isWordChar ≠ after.head?.any isWordChar

/-- Behind `before`, the text starts with a reference to the name. Letters and digits are those of
ASCII. -/
structure Begins (before text name rest : List Char) : Prop where
  eq_append : text = ['e', 'n', 'v', '.'] ++ name ++ rest
  boundary : IsWordBoundary before text
  first : ∃ c, name.head? = some c ∧ (c.isAlpha = true ∨ c = '_')
  chars : ∀ c ∈ name, c.isAlphanum = true ∨ c = '_'
  /-- The name does not go on. -/
  longest : ∀ c, rest.head? = some c → ¬(c.isAlphanum = true ∨ c = '_')

/-- The names that the text refers to behind `before`, from left to right. -/
inductive References : (before text : List Char) → (names : List (List Char)) → Prop
  | nil {before : List Char} : References before [] []
  | skip {before text : List Char} {c : Char} {names : List (List Char)}
      (noReference : ∀ name rest, ¬Begins before (c :: text) name rest)
      (next : References (before ++ [c]) text names) : References before (c :: text) names
  | take {before text name rest : List Char} {names : List (List Char)}
      (begins : Begins before text name rest)
      (next : References (before ++ (['e', 'n', 'v', '.'] ++ name)) rest names) :
      References before text (name :: names)

/-- The guard refers to these variables, in this order. -/
def RefersTo (guard : String) (names : List String) : Prop :=
  References [] guard.toList (names.map String.toList)

/-! ## One place -/

theorem isNameStart_iff : isNameStart c = true ↔ c.isAlpha = true ∨ c = '_' := by
  simp [isNameStart]

theorem isNameChar_iff : isNameChar c = true ↔ c.isAlphanum = true ∨ c = '_' := by
  simp [isNameChar]

theorem isNameChar_of_isNameStart (h : isNameStart c = true) : isNameChar c = true := by
  rw [isNameStart_iff] at h
  rw [isNameChar_iff, Char.isAlphanum, Bool.or_eq_true]
  exact h.imp_left .inl

/-- The name is the longest run of name characters. -/
theorem leading?_of_name (first : ∃ c, name.head? = some c ∧ isNameStart c = true)
    (chars : ∀ c ∈ name, isNameChar c = true)
    (longest : ∀ c, rest.head? = some c → ¬isNameChar c = true) :
    leading? (['e', 'n', 'v', '.'] ++ name ++ rest) = some name := by
  obtain ⟨c, hhead, hc⟩ := first
  obtain ⟨tail, rfl⟩ := List.head?_eq_some_iff.1 hhead
  have hrest : rest.takeWhile isNameChar = [] := by
    cases rest with
    | nil => rfl
    | cons d rest => exact List.takeWhile_cons_of_neg (longest d rfl)
  have hrun : (tail ++ rest).takeWhile isNameChar = tail := by
    rw [List.takeWhile_append_of_pos fun d hd => chars d (.tail _ hd), hrest, List.append_nil]
  show (if isNameStart c = true then some (c :: (tail ++ rest).takeWhile isNameChar) else none) = _
  rw [if_pos hc, hrun]

theorem exists_of_leading? (h : leading? text = some name) :
    ∃ rest, text = ['e', 'n', 'v', '.'] ++ name ++ rest ∧
      (∃ c, name.head? = some c ∧ isNameStart c = true) ∧ (∀ c ∈ name, isNameChar c = true) ∧
      ∀ c, rest.head? = some c → ¬isNameChar c = true := by
  unfold leading? at h
  split at h
  · rename_i c r
    split at h
    · rename_i hc
      cases h
      refine ⟨r.dropWhile isNameChar, ?_, ⟨c, rfl, hc⟩, fun d hd => ?_, fun d hd => ?_⟩
      · exact congrArg (fun r => 'e' :: 'n' :: 'v' :: '.' :: c :: r)
          List.takeWhile_append_dropWhile.symm
      · rcases List.mem_cons.1 hd with rfl | hd
        · exact isNameChar_of_isNameStart hc
        · exact List.all_eq_true.1 List.all_takeWhile d hd
      · have hnot := List.head?_dropWhile_not isNameChar r
        rw [hd] at hnot
        rw [hnot]
        exact Bool.false_ne_true
    · cases h
  · cases h

/-- A reference starts with a word character, so that none may stand before it. -/
theorem begins_iff : Begins before text name rest ↔
    before.getLast?.any isWordChar = false ∧ leading? text = some name ∧
      text = ['e', 'n', 'v', '.'] ++ name ++ rest := by
  have hboundary : IsWordBoundary before (['e', 'n', 'v', '.'] ++ name ++ rest) ↔
      before.getLast?.any isWordChar = false := by
    have he : isWordChar 'e' = true := by decide
    show before.getLast?.any isWordChar ≠ isWordChar 'e' ↔ _
    rw [he, ne_eq, Bool.not_eq_true]
  constructor
  · rintro ⟨rfl, hbefore, hfirst, hchars, hlongest⟩
    simp only [← isNameStart_iff, ← isNameChar_iff] at hfirst hchars hlongest
    exact ⟨hboundary.1 hbefore, leading?_of_name hfirst hchars hlongest, rfl⟩
  · rintro ⟨hbefore, hleading, rfl⟩
    obtain ⟨rest', heq, hfirst, hchars, hlongest⟩ := exists_of_leading? hleading
    obtain rfl := List.append_cancel_left heq
    simp only [isNameStart_iff, isNameChar_iff] at hfirst hchars hlongest
    exact ⟨rfl, hboundary.2 hbefore, hfirst, hchars, hlongest⟩

/-! ## The scan -/

/-- One step where no earlier reference goes on. -/
theorem scan_cons (inWord : Bool) (c : Char) (r : List Char) :
    scan inWord 0 (c :: r) =
      match if inWord then none else leading? (c :: r) with
      | some name => name :: scan (isWordChar c) (name.length + 3) r
      | none => scan (isWordChar c) 0 r := by
  conv => lhs; unfold scan
  generalize (if inWord then none else leading? (c :: r)) = found
  cases found <;> rfl

/-- Characters that belong to an earlier reference only decide whether a word goes on. -/
theorem scan_append (before xs ys : List Char) :
    scan (before.getLast?.any isWordChar) xs.length (xs ++ ys) =
      scan ((before ++ xs).getLast?.any isWordChar) 0 ys := by
  induction xs generalizing before with
  | nil => rw [List.append_nil]; rfl
  | cons x xs ih =>
    rw [List.append_cons, ← ih, List.getLast?_concat]
    rfl

theorem scan_of_begins (h : Begins before text name rest) :
    scan (before.getLast?.any isWordChar) 0 text =
      name :: scan ((before ++ (['e', 'n', 'v', '.'] ++ name)).getLast?.any isWordChar) 0 rest := by
  obtain ⟨hbefore, hleading, rfl⟩ := begins_iff.1 h
  -- behind its first letter the reference is passed over
  have hskip := scan_append (before ++ ['e']) (['n', 'v', '.'] ++ name) rest
  rw [List.getLast?_concat, List.append_assoc before] at hskip
  have hfound : leading? ('e' :: (['n', 'v', '.'] ++ name ++ rest)) = some name := hleading
  have hstep := scan_cons false 'e' (['n', 'v', '.'] ++ name ++ rest)
  rw [if_neg Bool.false_ne_true, hfound] at hstep
  rw [hbefore]
  exact hstep.trans (congrArg (List.cons name) hskip)

theorem scan_of_not_begins (h : ∀ name rest, ¬Begins before (c :: text) name rest) :
    scan (before.getLast?.any isWordChar) 0 (c :: text) =
      scan ((before ++ [c]).getLast?.any isWordChar) 0 text := by
  have hnone : (if before.getLast?.any isWordChar = true then none else leading? (c :: text)) =
      none := by
    split
    · rfl
    · rename_i hbefore
      rw [Option.eq_none_iff_forall_ne_some]
      intro name hleading
      obtain ⟨rest, heq, -⟩ := exists_of_leading? hleading
      exact h name rest (begins_iff.2 ⟨Bool.eq_false_iff.2 hbefore, hleading, heq⟩)
  rw [scan_cons, hnone, List.getLast?_concat]
  rfl

theorem references_scan (before text : List Char) :
    References before text (scan (before.getLast?.any isWordChar) 0 text) := by
  by_cases hbegins : ∃ name rest, Begins before text name rest
  · obtain ⟨name, rest, hbegins⟩ := hbegins
    have hshorter : rest.length < text.length := by
      rw [hbegins.eq_append, List.length_append, List.length_append, List.length_cons]
      omega
    rw [scan_of_begins hbegins]
    exact .take hbegins (references_scan _ rest)
  · cases text with
    | nil => exact .nil
    | cons c text =>
      have hnot : ∀ name rest, ¬Begins before (c :: text) name rest :=
        fun name rest h => hbegins ⟨name, rest, h⟩
      rw [scan_of_not_begins hnot]
      exact .skip hnot (references_scan _ text)
termination_by text.length

theorem eq_scan_of_references (h : References before text names) :
    names = scan (before.getLast?.any isWordChar) 0 text := by
  induction h with
  | nil => rfl
  | skip hnone _ ih => rw [scan_of_not_begins hnone, ih]
  | take hbegins _ ih => rw [scan_of_begins hbegins, ih]

/-- The scan finds what a guard refers to. -/
theorem refersTo_iff {guard : String} {names : List String} :
    RefersTo guard names ↔ names = EnvReference.names guard := by
  have hreferences : RefersTo guard names ↔ names.map String.toList = scan false 0 guard.toList :=
    ⟨eq_scan_of_references, fun h => by
      unfold RefersTo
      rw [h]
      exact references_scan [] guard.toList⟩
  rw [hreferences, EnvReference.names]
  constructor
  · intro h
    simp [← h, Function.comp_def]
  · rintro rfl
    simp [Function.comp_def]

/-- A reference that is found hides those inside it. -/
example : RefersTo "env.env.A == xenv.B || env.A-env._1 && env.9" ["env", "A", "_1"] :=
  refersTo_iff.2 (by decide +kernel)

end PipeLoom.EnvReference
