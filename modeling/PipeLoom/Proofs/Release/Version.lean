import PipeLoom.Proofs.Text.Decimal
import PipeLoom.Release.Version

/-!
# Reading versions

A text is read as a version just where it is how that version prints, the identifiers of the version
are sound and its numbers fit 64 bits: `parse?_eq_some_iff`.
-/

namespace PipeLoom.Version

/-! ## Numerals -/

theorem toList_toString (n : Nat) : (toString n).toList = Nat.toDigits 10 n := Nat.toList_repr

theorem isDigit_of_mem_toString {n : Nat} {c : Char} (h : c ∈ (toString n).toList) :
    c.isDigit = true := by
  rw [toList_toString] at h
  exact Nat.isDigit_of_mem_toDigits (by decide) (by decide) h

theorem isNumeral_iff {s : List Char} :
    isNumeral s = true ↔ ∃ n : Nat, s = (toString n).toList := by
  simp only [toList_toString]
  unfold isNumeral
  simp only [Bool.and_eq_true, Bool.or_eq_true, Bool.not_eq_true', List.isEmpty_eq_false_iff,
    List.all_eq_true, beq_iff_eq, bne_iff_ne]
  constructor
  · rintro ⟨⟨hne, hs⟩, hzero⟩
    refine ⟨Text.decimalValue s, (Text.toDigits_decimalValue hs hne fun h => ?_).symm⟩
    rcases hzero with hlength | hhead
    · obtain ⟨c, rfl⟩ := List.length_eq_one_iff.1 hlength
      rw [Option.some.inj h]
    · exact absurd h hhead
  · rintro ⟨n, rfl⟩
    refine ⟨⟨Nat.toDigits_ne_nil, fun c hc => ?_⟩, ?_⟩
    · exact Nat.isDigit_of_mem_toDigits (by decide) (by decide) hc
    · rcases Nat.eq_zero_or_pos n with rfl | hn
      · exact .inl rfl
      · exact .inr (Text.head?_toDigits hn)

theorem number?_eq_some_iff {s : List Char} {n : Nat} :
    number? s = some n ↔ n < UInt64.size ∧ s = (toString n).toList := by
  unfold number?
  constructor
  · intro h
    split at h
    · rename_i hs
      rw [Bool.and_eq_true, decide_eq_true_iff] at hs
      obtain ⟨m, rfl⟩ := isNumeral_iff.1 hs.1
      rw [toList_toString, Text.decimalValue_toDigits] at h hs
      cases h
      exact ⟨hs.2, rfl⟩
    · cases h
  · rintro ⟨hn, rfl⟩
    have hvalue : Text.decimalValue (toString n).toList = n := by
      rw [toList_toString, Text.decimalValue_toDigits]
    rw [hvalue, isNumeral_iff.2 ⟨n, rfl⟩, Bool.true_and, if_pos (by simpa using hn)]

/-! ## Sound versions -/

/-- A run of letters, digits and hyphens. -/
def IsIdentifier (i : String) : Prop := i ≠ "" ∧ ∀ c ∈ i.toList, c.isAlphanum = true ∨ c = '-'

/-- An identifier that is no numeral with a leading zero. -/
def IsPreIdentifier (i : String) : Prop :=
  IsIdentifier i ∧ ((∀ c ∈ i.toList, c.isDigit = true) → ∃ n : Nat, i = toString n)

structure Valid (v : Version) : Prop where
  pre : ∀ i ∈ v.pre, IsPreIdentifier i
  build : ∀ i ∈ v.build, IsIdentifier i

/-- The three numbers are below a bound. -/
structure Below (v : Version) (bound : Nat) : Prop where
  major : v.major < bound
  minor : v.minor < bound
  patch : v.patch < bound

theorem Below.mono {v : Version} {a b : Nat} (h : v.Below a) (hab : a ≤ b) : v.Below b :=
  ⟨Nat.lt_of_lt_of_le h.major hab, Nat.lt_of_lt_of_le h.minor hab,
    Nat.lt_of_lt_of_le h.patch hab⟩

theorem isIdentifier_iff {i : String} : isIdentifier i.toList = true ↔ IsIdentifier i := by
  unfold isIdentifier IsIdentifier isIdentifierChar
  simp

theorem isPreIdentifier_iff {i : String} : isPreIdentifier i.toList = true ↔ IsPreIdentifier i := by
  unfold isPreIdentifier IsPreIdentifier
  rw [Bool.and_eq_true, isIdentifier_iff, Bool.or_eq_true, isNumeral_iff]
  simp only [String.toList_inj, Bool.not_eq_true', ← Bool.not_eq_true, List.all_eq_true]
  rw [Classical.or_iff_not_imp_left, Classical.not_not]

/-! ## Parts -/

/-- A part behind its mark. -/
def marked (mark : Char) : Option (List Char) → List Char
  | none => []
  | some s => mark :: s

theorem cut_eq_iff {mark : Char} {s a : List Char} {b : Option (List Char)} :
    cut mark s = (a, b) ↔ mark ∉ a ∧ s = a ++ marked mark b := by
  induction s generalizing a with
  | nil =>
    constructor
    · intro h
      cases h
      exact ⟨List.not_mem_nil, rfl⟩
    · rintro ⟨-, h⟩
      obtain ⟨rfl, hb⟩ := List.append_eq_nil_iff.1 h.symm
      cases b with
      | none => rfl
      | some r => cases hb
  | cons c s ih =>
    by_cases hc : c = mark
    · rw [cut, if_pos hc]
      constructor
      · intro h
        cases h
        exact ⟨List.not_mem_nil, by rw [hc]; rfl⟩
      · rintro ⟨hmark, h⟩
        cases a with
        | nil =>
          cases b with
          | none => cases h
          | some r =>
            cases h
            rfl
        | cons d a =>
          cases h
          exact absurd (hc ▸ List.mem_cons_self) hmark
    · rw [cut, if_neg hc]
      constructor
      · intro h
        cases h
        obtain ⟨hmark, hs⟩ := (ih (a := (cut mark s).1)).1 rfl
        exact ⟨List.not_mem_cons_of_ne_of_not_mem (Ne.symm hc) hmark,
          congrArg (c :: ·) hs⟩
      · rintro ⟨hmark, h⟩
        cases a with
        | nil =>
          cases b with
          | none => cases h
          | some r =>
            cases h
            exact absurd rfl hc
        | cons d a =>
          cases h
          rw [(ih (a := a)).2 ⟨fun h => hmark (List.mem_cons_of_mem _ h), rfl⟩]

/-- The text of identifiers without their mark, if there are any. -/
def partOf : List String → Option (List Char)
  | [] => none
  | i :: ids => some (List.intercalate ['.'] ((i :: ids).map String.toList))

theorem toList_printPart (mark : Char) (ids : List String) :
    (printPart mark.toString ids).toList = marked mark (partOf ids) := by
  cases ids with
  | nil => rfl
  | cons i ids =>
    unfold printPart
    rw [String.toList_append, String.toList_intercalate, Char.toString_eq_singleton,
      String.toList_singleton]
    rfl

theorem partOf_splitOn (s : List Char) :
    partOf ((s.splitOn '.').map String.ofList) = some s := by
  have hinverse : String.toList ∘ String.ofList = id := funext fun _ => String.toList_ofList
  have hjoin :
      List.intercalate ['.'] (((s.splitOn '.').map String.ofList).map String.toList) = s := by
    rw [List.map_map, hinverse, List.map_id, List.intercalate_splitOn]
  obtain ⟨m, ms, hs⟩ := List.exists_cons_of_ne_nil (List.splitOn_ne_nil '.' s)
  rw [hs] at hjoin ⊢
  exact congrArg some hjoin

theorem splitOn_partOf {ids : List String} (h : ∀ i ∈ ids, '.' ∉ i.toList) {s : List Char}
    (hs : partOf ids = some s) : (s.splitOn '.').map String.ofList = ids := by
  cases ids with
  | nil => cases hs
  | cons i ids =>
    cases hs
    have hinverse : String.ofList ∘ String.toList = id := funext fun _ => String.ofList_toList
    rw [List.splitOn_intercalate '.' (by simpa using h) (by simp), List.map_map, hinverse,
      List.map_id]

theorem identifiers?_eq_some_iff {valid : List Char → Bool}
    (hvalid : ∀ s, valid s = true → '.' ∉ s) {part : Option (List Char)} {ids : List String} :
    identifiers? valid part = some ids ↔
      part = partOf ids ∧ ∀ i ∈ ids, valid i.toList = true := by
  cases part with
  | none =>
    cases ids with
    | nil => exact iff_of_true rfl ⟨rfl, fun _ hi => nomatch hi⟩
    | cons i ids => exact iff_of_false (fun h => nomatch h) fun h => nomatch h.1
  | some s =>
    unfold identifiers?
    simp only
    constructor
    · intro h
      split at h
      · rename_i hs
        cases h
        refine ⟨(partOf_splitOn s).symm, ?_⟩
        simpa using hs
      · cases h
    · rintro ⟨hs, hids⟩
      have hsplit := splitOn_partOf (fun i hi => hvalid _ (hids i hi)) hs.symm
      rw [hsplit, if_pos]
      rw [← hsplit] at hids
      simpa using hids

/-! ## The text of a version -/

/-- The three numbers with full stops between them. -/
def coreText (v : Version) : List Char :=
  List.intercalate ['.'] ([v.major, v.minor, v.patch].map fun n => (toString n).toList)

theorem print_toList (v : Version) :
    v.print.toList = (v.coreText ++ marked '-' (partOf v.pre)) ++ marked '+' (partOf v.build) := by
  have hdot : ".".toList = ['.'] := rfl
  unfold print coreText
  rw [show "-" = '-'.toString from rfl, show "+" = '+'.toString from rfl]
  simp only [String.toList_append, toList_printPart, List.map, hdot, List.intercalate_cons_cons,
    List.intercalate_singleton, List.append_assoc]

theorem eq_dot_or_mem_of_mem_intercalate {c : Char} {ss : List (List Char)}
    (h : c ∈ List.intercalate ['.'] ss) : c = '.' ∨ ∃ s ∈ ss, c ∈ s := by
  induction ss with
  | nil => cases h
  | cons s ss ih =>
    cases ss with
    | nil => exact .inr ⟨s, List.mem_singleton_self s, by simpa using h⟩
    | cons s' ss =>
      rw [List.intercalate_cons_cons, List.append_assoc, List.mem_append, List.mem_append,
        List.mem_singleton] at h
      rcases h with hs | hdot | hrest
      · exact .inr ⟨s, List.mem_cons_self, hs⟩
      · exact .inl hdot
      · exact (ih hrest).imp_right fun ⟨s', hs', hc⟩ => ⟨s', List.mem_cons_of_mem _ hs', hc⟩

theorem isDigit_of_mem_coreText {v : Version} {c : Char} (h : c ∈ v.coreText) :
    c = '.' ∨ c.isDigit = true := by
  refine (eq_dot_or_mem_of_mem_intercalate h).imp_right fun ⟨s, hs, hc⟩ => ?_
  obtain ⟨n, -, rfl⟩ := List.mem_map.1 hs
  exact isDigit_of_mem_toString hc

theorem isIdentifierChar_of_mem_partOf {ids : List String} (h : ∀ i ∈ ids, IsIdentifier i)
    {s : List Char} (hs : partOf ids = some s) {c : Char} (hc : c ∈ s) :
    c = '.' ∨ c.isAlphanum = true ∨ c = '-' := by
  cases ids with
  | nil => cases hs
  | cons i ids =>
    cases hs
    refine (eq_dot_or_mem_of_mem_intercalate hc).imp_right fun ⟨s, hs, hc⟩ => ?_
    obtain ⟨i, hi, rfl⟩ := List.mem_map.1 hs
    exact (h i hi).2 c hc

theorem splitOn_coreText (v : Version) : v.coreText.splitOn '.' =
    [(toString v.major).toList, (toString v.minor).toList, (toString v.patch).toList] := by
  refine List.splitOn_intercalate '.' (fun s hs hdot => ?_) (by simp)
  obtain ⟨n, -, rfl⟩ := List.mem_map.1 hs
  exact absurd (isDigit_of_mem_toString hdot) (by decide)

/-! ## Reading -/

/-- The two marks cut the text of a version apart. -/
theorem cut_print {v : Version} (hpre : ∀ i ∈ v.pre, IsIdentifier i) :
    cut '+' v.print.toList = (v.coreText ++ marked '-' (partOf v.pre), partOf v.build) ∧
      cut '-' (v.coreText ++ marked '-' (partOf v.pre)) = (v.coreText, partOf v.pre) := by
  refine ⟨cut_eq_iff.2 ⟨fun hplus => ?_, v.print_toList⟩, cut_eq_iff.2 ⟨fun hminus => ?_, rfl⟩⟩
  · rcases List.mem_append.1 hplus with hcore | hmarked
    · exact absurd (isDigit_of_mem_coreText hcore) (by decide)
    · cases hpart : partOf v.pre with
      | none =>
        rw [hpart] at hmarked
        cases hmarked
      | some s =>
        rw [hpart] at hmarked
        rcases List.mem_cons.1 hmarked with hplus | hs
        · exact absurd hplus (by decide)
        · exact absurd (isIdentifierChar_of_mem_partOf hpre hpart hs) (by decide)
  · exact absurd (isDigit_of_mem_coreText hminus) (by decide)

theorem dot_not_mem_of_isIdentifier {s : List Char} (h : isIdentifier s = true) : '.' ∉ s := by
  intro hdot
  have hidentifier := isIdentifier_iff (i := String.ofList s)
  rw [String.toList_ofList] at hidentifier
  have hchar := (hidentifier.1 h).2 '.' (by rwa [String.toList_ofList])
  exact absurd hchar (by decide)

theorem dot_not_mem_of_isPreIdentifier {s : List Char} (h : isPreIdentifier s = true) : '.' ∉ s :=
  dot_not_mem_of_isIdentifier (Bool.and_eq_true_iff.1 h).1

theorem parts_eq_some_iff {pre build : Option (List Char)} {v : Version} :
    (identifiers? isPreIdentifier pre = some v.pre ∧
        identifiers? isIdentifier build = some v.build) ↔
      (pre = partOf v.pre ∧ build = partOf v.build) ∧ v.Valid := by
  rw [identifiers?_eq_some_iff fun _ => dot_not_mem_of_isPreIdentifier,
    identifiers?_eq_some_iff fun _ => dot_not_mem_of_isIdentifier]
  simp only [isPreIdentifier_iff, isIdentifier_iff]
  constructor
  · rintro ⟨⟨hpre, hvalid⟩, hbuild, hvalid'⟩
    exact ⟨⟨hpre, hbuild⟩, hvalid, hvalid'⟩
  · rintro ⟨⟨hpre, hbuild⟩, hvalid, hvalid'⟩
    exact ⟨⟨hpre, hvalid⟩, hbuild, hvalid'⟩

theorem numbers_eq_some_iff {a b c : List Char} {v : Version} :
    (number? a = some v.major ∧ number? b = some v.minor ∧ number? c = some v.patch) ↔
      v.Below UInt64.size ∧ [a, b, c] =
        [(toString v.major).toList, (toString v.minor).toList, (toString v.patch).toList] := by
  simp only [number?_eq_some_iff, List.cons.injEq, and_true]
  constructor
  · rintro ⟨⟨hmajor, ha⟩, ⟨hminor, hb⟩, hpatch, hc⟩
    exact ⟨⟨hmajor, hminor, hpatch⟩, ha, hb, hc⟩
  · rintro ⟨⟨hmajor, hminor, hpatch⟩, ha, hb, hc⟩
    exact ⟨⟨hmajor, ha⟩, ⟨hminor, hb⟩, hpatch, hc⟩

/-- The numbers and the parts that a text is cut into are read one by one. -/
theorem parse?_eq_some {s front core : List Char} {pre build : Option (List Char)}
    (hfront : cut '+' s = (front, build)) (hcore : cut '-' front = (core, pre)) {v : Version} :
    parse? s = some v ↔ v.Below UInt64.size ∧
      core.splitOn '.' =
        [(toString v.major).toList, (toString v.minor).toList, (toString v.patch).toList] ∧
      (pre = partOf v.pre ∧ build = partOf v.build) ∧ v.Valid := by
  unfold parse?
  simp only [hfront, hcore]
  split
  · rename_i a b c hsplit
    rw [hsplit, ← parts_eq_some_iff, ← and_assoc, ← numbers_eq_some_iff]
    cases v
    simp only [Option.bind_eq_bind, Option.bind_eq_some_iff, Option.pure_def, Option.some.injEq,
      Version.mk.injEq]
    constructor
    · rintro ⟨a', ha, b', hb, c', hc, pre', hpre, build', hbuild, rfl, rfl, rfl, rfl, rfl⟩
      exact ⟨⟨ha, hb, hc⟩, hpre, hbuild⟩
    · rintro ⟨⟨ha, hb, hc⟩, hpre, hbuild⟩
      exact ⟨_, ha, _, hb, _, hc, _, hpre, _, hbuild, rfl, rfl, rfl, rfl, rfl⟩
  · rename_i hsplit
    exact iff_of_false (fun h => nomatch h) fun h => hsplit _ _ _ h.2.1

/-- Reading takes the texts of sound versions whose numbers fit 64 bits, and no others. -/
theorem parse?_eq_some_iff {s : List Char} {v : Version} :
    parse? s = some v ↔ v.Valid ∧ v.Below UInt64.size ∧ s = v.print.toList := by
  constructor
  · intro h
    obtain ⟨hbound, hsplit, ⟨hpre, hbuild⟩, hvalid⟩ := (parse?_eq_some rfl rfl).1 h
    obtain ⟨-, hs⟩ := cut_eq_iff.1 (show cut '+' s = (_, _) from rfl)
    obtain ⟨-, hfront⟩ := cut_eq_iff.1 (show cut '-' (cut '+' s).1 = (_, _) from rfl)
    have hcore : (cut '-' (cut '+' s).1).1 = v.coreText := by
      have hjoin : ['.'].intercalate ((cut '-' (cut '+' s).1).1.splitOn '.') = _ :=
        List.intercalate_splitOn '.'
      rw [← hjoin, hsplit]
      rfl
    rw [hcore, hpre] at hfront
    rw [hfront, hbuild] at hs
    exact ⟨hvalid, hbound, hs.trans v.print_toList.symm⟩
  · rintro ⟨hvalid, hbound, rfl⟩
    obtain ⟨hfront, hcore⟩ := cut_print fun i hi => (hvalid.pre i hi).1
    exact (parse?_eq_some hfront hcore).2
      ⟨hbound, v.splitOn_coreText, ⟨rfl, rfl⟩, hvalid⟩

end PipeLoom.Version
