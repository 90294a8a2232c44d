import Mathlib.Data.List.Nodup
import PipeLoom.Proofs.Project.Regeneration

/-!
# Comparing with what stands

A file of a new generation is due when its content is not that of the previous generation and does
not stand already. Comparing gives the files that are due, unless one of them was edited
(`changed_eq`). Once these are written nothing is due any more (`changed_settles`).
-/

namespace PipeLoom.Artifact

open FileTree (Wrote)

variable {t t' : FileTree} {root : Path} {previous as cs : List Artifact} {force : Bool}
  {a : Artifact}

/-- The content is not that of the previous generation, and the file is missing or holds something
else. -/
def Due (t : FileTree) (root : Path) (previous : List Artifact) (a : Artifact) : Prop :=
  a.previousContent? previous ≠ some a.content ∧ t.read (a.target root) ≠ .ok a.content

/-- The file is there and does not hold what it held in the previous generation. -/
def Edited (t : FileTree) (root : Path) (previous : List Artifact) (a : Artifact) : Prop :=
  ∃ held, t.read (a.target root) = .ok held ∧ a.previousContent? previous ≠ some held

theorem edited_iff_of_read {held : String} (h : t.read (a.target root) = .ok held) :
    a.Edited t root previous ↔ a.previousContent? previous ≠ some held := by
  unfold Edited
  simp [h]

theorem not_edited_of_read {e : FileError} (h : t.read (a.target root) = .error e) :
    ¬a.Edited t root previous := by
  unfold Edited
  simp [h]

instance : Decidable (a.Due t root previous) := inferInstanceAs (Decidable (_ ∧ _))

instance : Decidable (a.Edited t root previous) :=
  match h : t.read (a.target root) with
  | .ok _ => decidable_of_iff _ (edited_iff_of_read h).symm
  | .error _ => isFalse (not_edited_of_read h)

/-! ## What is due -/

theorem needsWriting_of_not_due (h : ¬a.Due t root previous) :
    a.needsWriting t root previous force = .ok false := by
  by_cases hbefore : a.previousContent? previous = some a.content
  · unfold needsWriting
    exact if_pos hbefore
  · refine needsWriting_of_read ?_
    rw [Due, not_and, Decidable.not_not] at h
    exact h hbefore

/-- A file that is due has to be written, unless it was edited and that is not to be overridden. -/
theorem needsWriting_of_due (h : a.Due t root previous)
    (hread : ∀ e, t.read (a.target root) = .error e → e = .notFound) :
    a.needsWriting t root previous force =
      if force = false ∧ a.Edited t root previous then .error (.alreadyExists (a.target root))
      else .ok true := by
  obtain ⟨hbefore, hstands⟩ := h
  unfold needsWriting
  simp only [if_neg hbefore]
  cases hheld : t.read (a.target root) with
  | error e =>
    rw [hread e hheld, if_neg fun h => not_edited_of_read hheld h.2]
  | ok held =>
    rw [hheld, ne_eq, Except.ok.injEq] at hstands
    simp only [if_neg hstands, edited_iff_of_read hheld]
    by_cases hsame : a.previousContent? previous = some held <;> cases force <;> simp [hsame]

/-- The first file that was edited ends the comparison, which else gives what is due. -/
theorem changed_eq (hreads : ∀ a ∈ as, ∀ e, t.read (a.target root) = .error e → e = .notFound) :
    changed t root previous force as =
      match as.find? fun a => force = false ∧ a.Due t root previous ∧ a.Edited t root previous with
      | some a => .error (.alreadyExists (a.target root))
      | none => .ok (as.filter fun a => a.Due t root previous) := by
  induction as with
  | nil => rfl
  | cons a as ih =>
    obtain ⟨ha, has⟩ := List.forall_mem_cons.1 hreads
    rw [changed, ih has]
    by_cases hdue : a.Due t root previous
    · rw [needsWriting_of_due hdue ha]
      by_cases hedited : force = false ∧ a.Edited t root previous
      · rw [if_pos hedited, List.find?_cons_of_pos (by simp [hedited, hdue])]
        rfl
      · have hpass : ¬(force = false ∧ a.Due t root previous ∧ a.Edited t root previous) :=
          fun h => hedited ⟨h.1, h.2.2⟩
        rw [if_neg hedited, List.find?_cons_of_neg (by simpa using hpass),
          List.filter_cons_of_pos (by simpa using hdue)]
        split <;> rfl
    · rw [needsWriting_of_not_due hdue, List.find?_cons_of_neg (by simp [hdue]),
        List.filter_cons_of_neg (by simpa using hdue)]
      split <;> rfl

theorem eq_filter_of_changed
    (hreads : ∀ a ∈ as, ∀ e, t.read (a.target root) = .error e → e = .notFound)
    (h : changed t root previous force as = .ok cs) :
    cs = as.filter fun a => a.Due t root previous := by
  rw [changed_eq hreads] at h
  split at h
  · cases h
  · exact (Except.ok.inj h).symm

/-! ## Once it is written -/

section Settled

variable (hapart : (as.map fun a => t.landing (a.target root)).Nodup)
  (hwrote : Wrote t (writes root (as.filter fun a => a.Due t root previous)) t')

include hapart in
/-- Only what is due is written where it lands. -/
theorem due_of_landing_eq (ha : a ∈ as) {w : Path × String}
    (hw : w ∈ writes root (as.filter fun a => a.Due t root previous))
    (hland : t.landing w.1 = t.landing (a.target root)) :
    a.Due t root previous ∧ w.2 = a.content := by
  obtain ⟨b, hb, rfl⟩ := List.mem_map.1 hw
  obtain ⟨hb, hdue⟩ := List.mem_filter.1 hb
  obtain rfl : b = a := List.inj_on_of_nodup_map hapart hb ha hland
  exact ⟨of_decide_eq_true hdue, rfl⟩

include hapart hwrote

theorem read_of_due (ha : a ∈ as) (hdue : a.Due t root previous) :
    t'.read (a.target root) = .ok a.content := by
  have hw : (a.target root, a.content) ∈
      writes root (as.filter fun a => a.Due t root previous) :=
    List.mem_map.2 ⟨a, List.mem_filter.2 ⟨ha, decide_eq_true hdue⟩, rfl⟩
  have hread := hwrote.read_of_mem hw fun v hv hland => (due_of_landing_eq hapart ha hv hland).2
  exact hread

/-- What is not due is left alone. -/
theorem file?_of_not_due (ha : a ∈ as) (hdue : ¬a.Due t root previous) :
    t'.file? (t.landing (a.target root)) = t.file? (t.landing (a.target root)) :=
  hwrote.file?_of_untouched fun _ hw hland => hdue (due_of_landing_eq hapart ha hw hland).1

/-- Every file stands, or its content is that of the previous generation and it is left alone. -/
theorem read_or_left_alone (ha : a ∈ as) :
    t'.read (a.target root) = .ok a.content ∨
      a.previousContent? previous = some a.content ∧
        t'.file? (t.landing (a.target root)) = t.file? (t.landing (a.target root)) := by
  by_cases hdue : a.Due t root previous
  · exact .inl (read_of_due hapart hwrote ha hdue)
  · by_cases hbefore : a.previousContent? previous = some a.content
    · exact .inr ⟨hbefore, file?_of_not_due hapart hwrote ha hdue⟩
    · rw [Due, not_and, Decidable.not_not] at hdue
      refine .inl (hwrote.read_of_untouched (hdue hbefore) fun w hw hland => ?_)
      exact (due_of_landing_eq hapart ha hw hland).1.2 (hdue hbefore)

theorem changed_again : changed t' root previous force as = .ok [] := by
  refine changed_eq_nil_of_needsWriting fun a ha => needsWriting_of_not_due fun hdue => ?_
  rcases read_or_left_alone hapart hwrote ha with hread | ⟨hbefore, -⟩
  · exact hdue.2 hread
  · exact hdue.1 hbefore

end Settled

/-- Where files can be read or are missing, comparing gives in order the files that are due, or
reports the first of them that was edited unless that is to be overridden. If the files given are
then written, every file stands or is left alone with the content of the previous generation, no
other file changes, and there is nothing left to write. -/
theorem changed_settles (hapart : (as.map fun a => t.landing (a.target root)).Nodup)
    (hreads : ∀ a ∈ as, ∀ e, t.read (a.target root) = .error e → e = .notFound) :
    (changed t root previous force as =
      match as.find? fun a => force = false ∧ a.Due t root previous ∧ a.Edited t root previous with
      | some a => .error (.alreadyExists (a.target root))
      | none => .ok (as.filter fun a => a.Due t root previous)) ∧
    ∀ cs paths t', changed t root previous force as = .ok cs →
      writeAll t root cs true = (.ok paths, t') →
        (∀ a ∈ as, t'.read (a.target root) = .ok a.content ∨
          a.previousContent? previous = some a.content ∧
            t'.file? (t.landing (a.target root)) = t.file? (t.landing (a.target root))) ∧
        (∀ q, (∀ a ∈ cs, t.landing (a.target root) ≠ q) → t'.file? q = t.file? q) ∧
        changed t' root previous force as = .ok [] := by
  refine ⟨changed_eq hreads, fun cs paths t' hchanged hwritten => ?_⟩
  obtain rfl := eq_filter_of_changed hreads hchanged
  have hwrote := wrote_of_writeAll hwritten
  exact ⟨fun a ha => read_or_left_alone hapart hwrote ha,
    fun q hq => file?_of_wrote_writes hwrote hq, changed_again hapart hwrote⟩

def before : List Artifact := [⟨⟨"main.yml"⟩, "v1"⟩, ⟨⟨"gcp.yaml"⟩, "r1"⟩, ⟨⟨"rollback.yml"⟩, "b1"⟩]

/-- The first and the last file are rendered anew, the second as before, and one is new. -/
def fresh : List Artifact :=
  [⟨⟨"main.yml"⟩, "v2"⟩, ⟨⟨"gcp.yaml"⟩, "r1"⟩, ⟨⟨"ci/hotfix.yml"⟩, "h1"⟩, ⟨⟨"rollback.yml"⟩, "b2"⟩]

/-- The second file was edited, and the last one holds the new content already. -/
def compared (main : String) : FileTree :=
  ⟨[(["main.yml"], .file main), (["gcp.yaml"], .file "edited"), (["rollback.yml"], .file "b2")], []⟩

theorem changed_settles_compared :
    changed (compared "mine") ⟨"/"⟩ before false fresh = .error (.alreadyExists ⟨"/main.yml"⟩) ∧
      ∃ t', writeAll (compared "v1") ⟨"/"⟩ [⟨⟨"main.yml"⟩, "v2"⟩, ⟨⟨"ci/hotfix.yml"⟩, "h1"⟩] true =
          (.ok [⟨"/main.yml"⟩, ⟨"/ci/hotfix.yml"⟩], t') ∧
        t'.file? ["gcp.yaml"] = some "edited" ∧
        changed t' ⟨"/"⟩ before false fresh = .ok [] := by
  have hapart : ∀ main ∈ ["mine", "v1"],
      (fresh.map fun a => (compared main).landing (a.target ⟨"/"⟩)).Nodup := by
    decide +kernel
  have hreads : ∀ main ∈ ["mine", "v1"], ∀ a ∈ fresh, ∀ e,
      (compared main).read (a.target ⟨"/"⟩) = .error e → e = .notFound := by
    have hall : ∀ main ∈ ["mine", "v1"], ∀ a ∈ fresh,
        ((compared main).read (a.target ⟨"/"⟩)).isOk = true ∨
          (compared main).read (a.target ⟨"/"⟩) = .error .notFound := by
      decide +kernel
    intro main hmain a ha e he
    have h := hall main hmain a ha
    rw [he] at h
    rcases h with h | h
    · cases h
    · exact Except.error.inj h
  constructor
  · rw [(changed_settles (hapart "mine" (by simp)) (hreads "mine" (by simp))).1]
    decide +kernel
  · have hchanged : changed (compared "v1") ⟨"/"⟩ before false fresh =
        .ok [⟨⟨"main.yml"⟩, "v2"⟩, ⟨⟨"ci/hotfix.yml"⟩, "h1"⟩] := by
      rw [(changed_settles (hapart "v1" (by simp)) (hreads "v1" (by simp))).1]
      decide +kernel
    have hwritten : (writeAll (compared "v1") ⟨"/"⟩
        [⟨⟨"main.yml"⟩, "v2"⟩, ⟨⟨"ci/hotfix.yml"⟩, "h1"⟩] true).1 =
        .ok [⟨"/main.yml"⟩, ⟨"/ci/hotfix.yml"⟩] := by
      decide +kernel
    rcases heq : writeAll (compared "v1") ⟨"/"⟩
        [⟨⟨"main.yml"⟩, "v2"⟩, ⟨⟨"ci/hotfix.yml"⟩, "h1"⟩] true with ⟨r, t'⟩
    rw [heq] at hwritten
    obtain rfl : r = _ := hwritten
    obtain ⟨-, hframe, hagain⟩ :=
      (changed_settles (hapart "v1" (by simp)) (hreads "v1" (by simp))).2 _ _ _ hchanged heq
    refine ⟨t', rfl, ?_, hagain⟩
    rw [hframe ["gcp.yaml"] (by decide +kernel)]
    decide +kernel

end PipeLoom.Artifact
