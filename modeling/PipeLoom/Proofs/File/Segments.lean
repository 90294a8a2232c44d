import PipeLoom.File.Path

/-!
# The names in a path

The segments of a joined path are those of its parts, and two paths that are the same path have the
same segments but for full stops (`segments_of_same`).
-/

namespace PipeLoom.Path

/-- The segments that lead somewhere. -/
def names (p : Path) : List String := p.segments.filter (· != ".")

/-! ## Joined paths -/

def segmentsOf (s : List Char) : List String :=
  ((s.splitOn '/').map String.ofList).filter (· != "")

theorem segmentsOf_append_slash (s r : List Char) :
    segmentsOf (s ++ '/' :: r) = segmentsOf s ++ segmentsOf r := by
  unfold segmentsOf
  rw [List.splitOn_append_cons_self, List.map_append, List.filter_append]

theorem segmentsOf_slash (s : List Char) : segmentsOf (s ++ ['/']) = segmentsOf s := by
  rw [segmentsOf_append_slash]
  exact List.append_nil _

theorem join_of_isAbsolute {q : Path} (hq : q.isAbsolute = true) (p : Path) : p.join q = q := by
  unfold join
  rw [hq]
  rfl

theorem join_of_isEmpty {p : Path} (hp : p.text = "") (q : Path) : p.join q = q := by
  unfold join
  rw [hp, if_pos (by simp)]

section Join

variable {p q : Path} (hq : q.isAbsolute = false)
include hq

theorem join_segments : (p.join q).segments = p.segments ++ q.segments := by
  by_cases hp : p.text = ""
  · have hnil : p.segments = [] := by
      unfold segments
      rw [hp]
      rfl
    rw [join_of_isEmpty hp, hnil, List.nil_append]
  have hempty : p.text.isEmpty = false := by simpa using hp
  unfold join
  rw [hq, hempty, if_neg (by decide)]
  split
  · rename_i hslash
    obtain ⟨s, hs⟩ := List.getLast?_eq_some_iff.1 (eq_of_beq hslash)
    show segmentsOf (p.text ++ q.text).toList = segmentsOf p.text.toList ++ segmentsOf q.text.toList
    rw [String.toList_append, hs, segmentsOf_slash, List.append_assoc]
    exact segmentsOf_append_slash s _
  · show segmentsOf (p.text ++ "/" ++ q.text).toList = _
    rw [String.toList_append, String.toList_append, List.append_assoc]
    exact segmentsOf_append_slash _ _

theorem join_names : (p.join q).names = p.names ++ q.names := by
  unfold names
  rw [join_segments hq, List.filter_append]

theorem join_isAbsolute : (p.join q).isAbsolute = p.isAbsolute := by
  by_cases hp : p.text = ""
  · rw [join_of_isEmpty hp, hq]
    unfold isAbsolute
    rw [hp]
    rfl
  have hempty : p.text.isEmpty = false := by simpa using hp
  have hne : p.text.toList ≠ [] := by simpa using hp
  obtain ⟨c, s, hs⟩ := List.exists_cons_of_ne_nil hne
  unfold join
  rw [hq, hempty, if_neg (by decide)]
  unfold isAbsolute
  split <;> simp [hs]

end Join

/-- However paths are joined, the segments of the second come last. -/
theorem segments_suffix_join (p q : Path) : q.segments <:+ (p.join q).segments := by
  by_cases hq : q.isAbsolute = true
  · have hjoin := join_of_isAbsolute hq p
    exact hjoin.symm ▸ List.suffix_rfl
  · rw [join_segments (Bool.eq_false_iff.2 hq)]
    exact List.suffix_append _ _

theorem exists_getLast?_splitOn {r : List Char} (hr : '/' ∉ r) (s : List Char) :
    ∃ l, ((s ++ r).splitOn '/').getLast? = some l ∧ r <:+ l := by
  induction s with
  | nil =>
    rw [List.nil_append, List.splitOn_eq_singleton hr]
    exact ⟨r, rfl, List.suffix_rfl⟩
  | cons c s ih =>
    obtain ⟨l, hl, hsuffix⟩ := ih
    obtain ⟨m, ms, hs⟩ := List.exists_cons_of_ne_nil (List.splitOn_ne_nil '/' (s ++ r))
    rw [List.cons_append, List.splitOn_cons_eq_if_modifyHead, hs]
    rw [hs] at hl
    split
    · exact ⟨l, by rw [List.getLast?_cons_cons]; exact hl, hsuffix⟩
    · rw [List.modifyHead_cons]
      cases ms with
      | nil =>
        cases hl
        exact ⟨c :: m, rfl, hsuffix.trans (List.suffix_cons c m)⟩
      | cons m' ms =>
        rw [List.getLast?_cons_cons] at hl ⊢
        exact ⟨l, hl, hsuffix⟩

/-- What ends a text without a slash in it ends the last segment. -/
theorem exists_getLast?_segments {name ending : String} (hslash : '/' ∉ ending.toList)
    (hne : ending ≠ "") : ∃ l, (segments ⟨name ++ ending⟩).getLast? = some l ∧
      ending.toList <:+ l.toList := by
  obtain ⟨l, hl, hsuffix⟩ := exists_getLast?_splitOn hslash name.toList
  refine ⟨String.ofList l, ?_, by rwa [String.toList_ofList]⟩
  obtain ⟨ms, hms⟩ := List.getLast?_eq_some_iff.1 hl
  have hl : (String.ofList l != "") = true := by
    rw [bne_iff_ne]
    rintro h
    have hnil : l = [] := by simpa using h
    rw [hnil, List.suffix_nil] at hsuffix
    exact hne (String.toList_inj.1 hsuffix)
  unfold segments
  rw [String.toList_append, hms, List.map_append, List.filter_append]
  simp [hl]

/-! ## Same paths -/

theorem slash_notMem_splitOn {s l : List Char} (hl : l ∈ s.splitOn '/') : '/' ∉ l := by
  induction s generalizing l with
  | nil =>
    rw [List.splitOn_nil, List.mem_singleton] at hl
    rw [hl]
    exact List.not_mem_nil
  | cons c s ih =>
    rw [List.splitOn_cons_eq_if_modifyHead] at hl
    split at hl
    · rcases List.mem_cons.1 hl with rfl | hl
      · exact List.not_mem_nil
      · exact ih hl
    · rename_i hc
      obtain ⟨h, r, hs⟩ := List.exists_cons_of_ne_nil (List.splitOn_ne_nil '/' s)
      rw [hs] at hl ih
      rw [List.modifyHead_cons] at hl
      rcases List.mem_cons.1 hl with rfl | hl
      · have hne : '/' ≠ c := fun h => hc (h ▸ beq_self_eq_true '/')
        rw [List.mem_cons, not_or]
        exact ⟨hne, ih List.mem_cons_self⟩
      · exact ih (List.mem_cons_of_mem _ hl)

theorem slash_notMem_names (p : Path) : "/" ∉ p.names := by
  intro h
  obtain ⟨hs, -⟩ := List.mem_filter.1 h
  obtain ⟨hs, -⟩ := List.mem_filter.1 hs
  obtain ⟨l, hl, he⟩ := List.mem_map.1 hs
  refine slash_notMem_splitOn hl ?_
  rw [← String.toList_ofList (l := l), he]
  decide

theorem dot_notMem_names (p : Path) : "." ∉ p.names := by
  intro h
  obtain ⟨-, h⟩ := List.mem_filter.1 h
  exact absurd h (by decide)

theorem components_of_isAbsolute {p : Path} (h : p.isAbsolute = true) :
    p.components = "/" :: p.names := by
  unfold components
  rw [if_pos h]
  rfl

theorem components_of_relative {p : Path} (h : p.isAbsolute = false) :
    p.components = p.names ∨ p.components = "." :: p.names := by
  unfold components
  rw [if_neg (by simp [h])]
  split
  · exact .inr rfl
  · exact .inl rfl

/-- What the components say apart from a leading full stop. -/
theorem isAbsolute_iff_slash_mem (p : Path) : p.isAbsolute = true ↔ "/" ∈ p.components := by
  constructor
  · intro h
    rw [components_of_isAbsolute h]
    exact List.mem_cons_self
  · intro h
    by_cases ha : p.isAbsolute = true
    · exact ha
    · rcases components_of_relative (Bool.eq_false_iff.2 ha) with hc | hc
      · exact absurd (hc ▸ h) p.slash_notMem_names
      · rw [hc, List.mem_cons] at h
        rcases h with h | h
        · exact absurd h (by decide)
        · exact absurd h p.slash_notMem_names

theorem names_eq_filter (p : Path) :
    p.names = p.components.filter fun s => s != "." && s != "/" := by
  have hnames : p.names.filter (fun s => s != "." && s != "/") = p.names := by
    rw [List.filter_eq_self]
    intro s hs
    have hdot : s ≠ "." := fun h => p.dot_notMem_names (h ▸ hs)
    have hslash : s ≠ "/" := fun h => p.slash_notMem_names (h ▸ hs)
    simp [hdot, hslash]
  by_cases ha : p.isAbsolute = true
  · rw [components_of_isAbsolute ha, List.filter_cons, if_neg (by decide), hnames]
  · rcases components_of_relative (Bool.eq_false_iff.2 ha) with hc | hc
    · rw [hc, hnames]
    · rw [hc, List.filter_cons, if_neg (by decide), hnames]

theorem isAbsolute_of_same {p q : Path} (h : p.same q = true) : p.isAbsolute = q.isAbsolute := by
  have hc : p.components = q.components := eq_of_beq h
  rw [Bool.eq_iff_iff, isAbsolute_iff_slash_mem, isAbsolute_iff_slash_mem, hc]

theorem names_of_same {p q : Path} (h : p.same q = true) : p.names = q.names := by
  have hc : p.components = q.components := eq_of_beq h
  rw [names_eq_filter, names_eq_filter, hc]

end PipeLoom.Path
