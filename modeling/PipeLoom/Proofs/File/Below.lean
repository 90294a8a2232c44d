import Mathlib.Data.List.TakeDrop
import PipeLoom.Dict
import PipeLoom.Proofs.File.Landing

/-!
# Files below a directory

In a proper tree the files below a directory are those that stand there (`mem_filesBelow`), and a
file has an extension when a full stop and the extension end its name (`extension?_eq_some_iff`).
-/

namespace PipeLoom

namespace FileTree

variable {t : FileTree}

/-- Each place below the root has one entry at most, and no name has a slash in it. -/
structure Proper (t : FileTree) : Prop where
  nodup : (t.entries.map Prod.fst).Nodup
  below : ∀ p ∈ t.entries.map Prod.fst, p ≠ [] ∧ ∀ name ∈ p, '/' ∉ name.toList

theorem mem_files {p : Place} {content : String} :
    (p, content) ∈ t.files ↔ (p, .file content) ∈ t.entries := by
  unfold files
  rw [List.mem_filterMap]
  constructor
  · rintro ⟨⟨q, e⟩, hmem, he⟩
    cases e with
    | file content' =>
      cases he
      exact hmem
    | directory => cases he
  · intro hmem
    exact ⟨_, hmem, rfl⟩

theorem get?_eq_file_iff (ht : t.Proper) {p : Place} {content : String} :
    t.get? p = some (.file content) ↔ (p, content) ∈ t.files := by
  rw [mem_files, ← Dict.lookup_eq_some_iff_mem ht.nodup]
  unfold get?
  split
  · rename_i hp
    refine ⟨fun h => ?_, fun h => ?_⟩
    · cases h
    have hmem := List.mem_map_of_mem (f := Prod.fst) ((Dict.lookup_eq_some_iff_mem ht.nodup).1 h)
    exact absurd hp (ht.below p hmem).1
  · rfl

theorem Proper.slash_notMem (ht : t.Proper) {p : Place} {content : String}
    (h : t.get? p = some (.file content)) {name : String} (hname : name ∈ p) :
    '/' ∉ name.toList :=
  (ht.below p (List.mem_map_of_mem (mem_files.1 ((get?_eq_file_iff ht).1 h)))).2 name hname

/-! ## Below a directory -/

section Below

variable {dir : Path} {place : Place} (hdir : t.target dir = .ok (.entry place .directory))
include hdir

theorem isDirectory_of_target : t.isDirectory dir = true := by
  unfold isDirectory entryAt?
  rw [hdir]
  rfl

theorem filesBelow_eq : t.filesBelow dir = t.files.filterMap fun f =>
    if place.isPrefixOf f.1 then some (f.1.drop place.length, f.2) else none := by
  unfold filesBelow
  rw [hdir]

theorem mem_filesBelow (ht : t.Proper) {names : List String} {content : String} :
    (names, content) ∈ t.filesBelow dir ↔ t.get? (place ++ names) = some (.file content) := by
  rw [filesBelow_eq hdir, List.mem_filterMap, get?_eq_file_iff ht]
  constructor
  · rintro ⟨f, hf, h⟩
    split at h
    · rename_i hprefix
      obtain ⟨rest, hrest⟩ := List.isPrefixOf_iff_prefix.1 hprefix
      rw [← hrest, List.drop_left] at h
      cases h
      rwa [hrest]
    · cases h
  · intro hf
    refine ⟨_, hf, ?_⟩
    rw [if_pos (List.isPrefixOf_iff_prefix.2 (List.prefix_append _ _)), List.drop_left]

theorem nodup_filesBelow (ht : t.Proper) :
    (t.filesBelow dir).Pairwise fun f g => f.1 ≠ g.1 := by
  have hfiles : t.files.Pairwise fun f g => f.1 ≠ g.1 := by
    refine List.pairwise_filterMap.2 ((List.pairwise_map.1 ht.nodup).imp ?_)
    intro x y hxy f hf g hg
    obtain ⟨p, e⟩ := x
    obtain ⟨q, d⟩ := y
    cases e <;> cases hf
    cases d <;> cases hg
    exact hxy
  rw [filesBelow_eq hdir]
  refine List.pairwise_filterMap.2 (hfiles.imp ?_)
  intro f g hfg x hx y hy
  split at hx <;> cases hx
  split at hy <;> cases hy
  rename_i hf hg
  obtain ⟨r, hr⟩ := List.isPrefixOf_iff_prefix.1 hf
  obtain ⟨q, hq⟩ := List.isPrefixOf_iff_prefix.1 hg
  rw [← hr, ← hq] at hfg
  rw [← hr, ← hq, List.drop_left, List.drop_left]
  exact fun h => hfg (congrArg _ h)

end Below

end FileTree

/-! ## Extensions -/

namespace Path

theorem segments_of_name {name : String} (hslash : '/' ∉ name.toList) (hne : name ≠ "") :
    segments ⟨name⟩ = [name] := by
  unfold segments
  rw [List.splitOn_eq_singleton hslash, List.map_singleton, String.ofList_toList, List.filter_cons,
    if_pos (bne_iff_ne.2 hne), List.filter_nil]

theorem getLast?_components_of_name {name : String} (hslash : '/' ∉ name.toList)
    (hne : name ≠ "") : (components ⟨name⟩).getLast? = some name := by
  have habsolute : isAbsolute ⟨name⟩ = false := by
    refine beq_eq_false_iff_ne.2 fun h => hslash ?_
    exact List.mem_of_head? h
  unfold components
  rw [habsolute, if_neg Bool.false_ne_true, segments_of_name hslash hne]
  by_cases hdot : name = "."
  · rw [hdot]
    rfl
  · rw [List.filter_cons, if_pos (bne_iff_ne.2 hdot)]
    split
    · rename_i h
      exact absurd (List.cons.inj h).1 hdot
    · rfl

/-- The last full stop of a text parts it into what is before and after it. -/
theorem dropWhile_reverse_eq_iff (s before after : List Char) :
    s.reverse.dropWhile (· != '.') = '.' :: before.reverse ∧
        (s.reverse.takeWhile (· != '.')).reverse = after ↔
      s = before ++ '.' :: after ∧ '.' ∉ after := by
  constructor
  · rintro ⟨hdrop, rfl⟩
    constructor
    · have h := congrArg List.reverse (List.takeWhile_append_dropWhile (p := (· != '.'))
        (l := s.reverse))
      rw [hdrop, List.reverse_append, List.reverse_reverse, List.reverse_cons,
        List.reverse_reverse, List.append_assoc] at h
      exact h.symm
    · intro h
      exact absurd (List.all_eq_true.1 List.all_takeWhile _ (List.mem_reverse.1 h)) (by decide)
  · rintro ⟨rfl, hafter⟩
    have hall : ∀ c ∈ after.reverse, (c != '.') = true := fun c hc =>
      bne_iff_ne.2 fun h => hafter (h ▸ List.mem_reverse.1 hc)
    rw [List.reverse_append, List.reverse_cons, List.append_assoc,
      List.dropWhile_append_of_pos hall, List.takeWhile_append_of_pos hall]
    simp

/-- A file has the extension that follows the last full stop of its name, if the name does not start
there. -/
theorem extension?_eq_some_iff {name e : String} (hslash : '/' ∉ name.toList) (he : e ≠ "")
    (hdot : '.' ∉ e.toList) :
    extension? ⟨name⟩ = some e ↔ ∃ stem, stem ≠ "" ∧ name = stem ++ "." ++ e := by
  have hparts : ∀ stem : String, name = stem ++ "." ++ e ↔
      name.toList = stem.toList ++ '.' :: e.toList := by
    intro stem
    rw [← String.toList_inj]
    simp
  have hlong : ∀ stem : String, stem ≠ "" → name = stem ++ "." ++ e → 2 < name.toList.length := by
    intro stem hstem h
    have h1 : 0 < stem.toList.length := List.length_pos_iff.2 (by simpa using hstem)
    have h2 : 0 < e.toList.length := List.length_pos_iff.2 (by simpa using he)
    rw [(hparts stem).1 h, List.length_append, List.length_cons]
    omega
  unfold extension?
  by_cases hne : name = ""
  · subst hne
    refine ⟨fun h => ?_, fun ⟨stem, hstem, h⟩ => absurd (hlong stem hstem h) (by decide)⟩
    cases h
  rw [getLast?_components_of_name hslash hne]
  simp only [List.span_eq_takeWhile_dropWhile]
  constructor
  · intro h
    split at h
    · cases h
    split at h
    · rename_i c d r hdrop
      have hhead := List.head_dropWhile_not (· != '.') (l := name.toList.reverse) (by simp [hdrop])
      obtain rfl : c = '.' := by simpa [hdrop] using hhead
      have hbefore : name.toList.reverse.dropWhile (· != '.') = '.' :: (d :: r).reverse.reverse := by
        rw [List.reverse_reverse, hdrop]
      obtain ⟨hname, -⟩ := (dropWhile_reverse_eq_iff _ _ _).1 ⟨hbefore, rfl⟩
      refine ⟨String.ofList (d :: r).reverse, by simp, ?_⟩
      rw [hparts, String.toList_ofList, ← Option.some.inj h, String.toList_ofList]
      exact hname
    · cases h
  · rintro ⟨stem, hstem, h⟩
    have hdots : name ≠ ".." := by
      rintro rfl
      exact absurd (hlong stem hstem h) (by decide)
    rw [hparts] at h
    obtain ⟨hdrop, htake⟩ := (dropWhile_reverse_eq_iff _ _ _).2 ⟨h, hdot⟩
    obtain ⟨d, r, hr⟩ := List.exists_cons_of_ne_nil
      (show stem.toList.reverse ≠ [] by simpa using hstem)
    rw [if_neg (by simpa using hdots), hdrop, hr, htake, String.ofList_toList]

end Path

end PipeLoom
