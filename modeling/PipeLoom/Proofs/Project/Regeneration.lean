import PipeLoom.Proofs.Command.Writes

/-!
# Generating again

While nobody edits what was generated, a new generation is never refused
(`Kept.error_of_changed`), and once the files that differ are written all its files stand
(`read_of_wrote`).
-/

namespace PipeLoom

open FileTree (Wrote)

namespace Artifact

variable {t t' : FileTree} {root : Path} {previous as cs : List Artifact} {force : Bool}
  {a : Artifact}

/-! ## Files that have to be written -/

theorem needsWriting_of_read (h : t.read (a.target root) = .ok a.content) :
    a.needsWriting t root previous force = .ok false := by
  unfold needsWriting
  simp only
  split
  · rfl
  · rw [h]
    exact if_pos rfl

theorem changed_cons_eq_ok_iff : changed t root previous force (a :: as) = .ok cs ↔
    ∃ write rest, a.needsWriting t root previous force = .ok write ∧
      changed t root previous force as = .ok rest ∧ (if write then a :: rest else rest) = cs := by
  rw [changed]
  simp only [Except.bind_eq_ok_iff]
  constructor
  · rintro ⟨write, hwrite, rest, hrest, h⟩
    exact ⟨write, rest, hwrite, hrest, Except.ok.inj h⟩
  · rintro ⟨write, rest, hwrite, hrest, rfl⟩
    exact ⟨write, hwrite, rest, hrest, rfl⟩

theorem changed_eq_nil_of_needsWriting
    (h : ∀ a ∈ as, a.needsWriting t root previous force = .ok false) :
    changed t root previous force as = .ok [] := by
  induction as with
  | nil => rfl
  | cons a as ih =>
    obtain ⟨ha, has⟩ := List.forall_mem_cons.1 h
    exact changed_cons_eq_ok_iff.2 ⟨false, [], ha, ih has, rfl⟩

theorem changed_eq_nil (h : ∀ a ∈ as, t.read (a.target root) = .ok a.content) :
    changed t root previous force as = .ok [] :=
  changed_eq_nil_of_needsWriting fun a ha => needsWriting_of_read (h a ha)

theorem mem_changed (h : changed t root previous force as = .ok cs) (ha : a ∈ cs) :
    a ∈ as ∧ a.needsWriting t root previous force = .ok true := by
  induction as generalizing cs with
  | nil =>
    cases h
    exact absurd ha List.not_mem_nil
  | cons b as ih =>
    obtain ⟨write, rest, hwrite, hrest, rfl⟩ := changed_cons_eq_ok_iff.1 h
    cases write with
    | false => exact (ih hrest ha).imp_left (List.mem_cons_of_mem _)
    | true =>
      rcases List.mem_cons.1 ha with rfl | ha
      · exact ⟨List.mem_cons_self, hwrite⟩
      · exact (ih hrest ha).imp_left (List.mem_cons_of_mem _)

theorem needsWriting_of_notMem (h : changed t root previous force as = .ok cs) (ha : a ∈ as)
    (hcs : a ∉ cs) : a.needsWriting t root previous force = .ok false := by
  induction as generalizing cs with
  | nil => cases ha
  | cons b as ih =>
    obtain ⟨write, rest, hwrite, hrest, rfl⟩ := changed_cons_eq_ok_iff.1 h
    have hsubset : ∀ f ∈ rest, f ∈ if write = true then b :: rest else rest := by
      intro f hf
      split
      · exact List.mem_cons_of_mem b hf
      · exact hf
    rcases List.mem_cons.1 ha with rfl | ha
    · cases write with
      | true => exact absurd List.mem_cons_self hcs
      | false => exact hwrite
    · exact ih hrest ha fun h => hcs (hsubset a h)

theorem exists_needsWriting_eq_error {e : StoreError}
    (h : changed t root previous force as = .error e) :
    ∃ a ∈ as, a.needsWriting t root previous force = .error e := by
  induction as with
  | nil => cases h
  | cons b as ih =>
    unfold changed at h
    cases hwrite : b.needsWriting t root previous force with
    | error e' =>
      rw [hwrite] at h
      cases h
      exact ⟨b, List.mem_cons_self, hwrite⟩
    | ok write =>
      rw [hwrite] at h
      cases hrest : changed t root previous force as with
      | error e' =>
        obtain ⟨a, ha, hneeds⟩ := ih (by rw [hrest] at h ⊢; cases h; rfl)
        exact ⟨a, List.mem_cons_of_mem b ha, hneeds⟩
      | ok rest =>
        rw [hrest] at h
        cases h

theorem changed_sublist (h : changed t root previous force as = .ok cs) : cs.Sublist as := by
  induction as generalizing cs with
  | nil =>
    cases h
    exact List.Sublist.refl []
  | cons b as ih =>
    obtain ⟨write, rest, -, hrest, rfl⟩ := changed_cons_eq_ok_iff.1 h
    cases write with
    | false => exact (ih hrest).cons b
    | true => exact (ih hrest).cons_cons b

/-- A file that cannot be compared is there, but cannot be read. -/
theorem read_of_needsWriting_eq_error {e : FileError}
    (h : a.needsWriting t root previous force = .error (.file e)) :
    t.read (a.target root) = .error e ∧ e ≠ .notFound := by
  unfold needsWriting at h
  simp only at h
  split at h
  · cases h
  · split at h
    · cases h
    · rename_i e' hne hread
      cases h
      exact ⟨hread, hne⟩
    · split at h
      · cases h
      · split at h <;> cases h

/-! ## Files without edits -/

/-- The files of the previous generation stand as they were written, and where the new one has other
paths no file stands. -/
structure Kept (t : FileTree) (root : Path) (previous as : List Artifact) : Prop where
  held : ∀ p ∈ previous, t.read (p.target root) = .ok p.content
  path_eq : ∀ a ∈ as, ∀ p ∈ previous, p.path.same a.path = true → p.path = a.path
  free : ∀ a ∈ as, (∀ p ∈ previous, p.path.same a.path = false) →
    t.file? (t.landing (a.target root)) = none

namespace Kept

/-- Such a file holds its content, has to be written, or cannot be read. -/
theorem needsWriting_cases (h : Kept t root previous as) (ha : a ∈ as) (force : Bool) :
    (t.read (a.target root) = .ok a.content ∧ a.needsWriting t root previous force = .ok false) ∨
      a.needsWriting t root previous force = .ok true ∨
      ∃ e, a.needsWriting t root previous force = .error (.file e) := by
  cases hfind : previous.find? fun p => p.path.same a.path with
  | some p =>
    have hp := List.mem_of_find?_eq_some hfind
    have hread : t.read (a.target root) = .ok p.content := by
      have hsame := List.find?_some hfind
      have hpath := h.path_eq a ha p hp hsame
      unfold target
      rw [← hpath]
      exact h.held p hp
    by_cases hcontent : p.content = a.content
    · rw [hcontent] at hread
      exact .inl ⟨hread, needsWriting_of_read hread⟩
    · refine .inr (.inl ?_)
      unfold needsWriting previousContent?
      simp only [hfind, Option.map_some, hread, Option.some_inj, hcontent, if_false, decide_true,
        Bool.true_or, if_true]
  | none =>
    have hfree := h.free a ha fun p hp => Bool.eq_false_iff.2 (List.find?_eq_none.1 hfind p hp)
    refine .inr ?_
    unfold needsWriting previousContent?
    simp only [hfind, Option.map_none, reduceCtorEq, if_false]
    cases hread : t.read (a.target root) with
    | ok c =>
      rw [FileTree.file?_eq_some_iff.2 (FileTree.get?_landing_of_read hread)] at hfree
      cases hfree
    | error e =>
      cases e with
      | notFound => exact .inl rfl
      | _ => exact .inr ⟨_, rfl⟩

/-- Comparing fails only on a file, not for an edit. -/
theorem error_of_changed (h : Kept t root previous as) {e : StoreError}
    (hchanged : changed t root previous force as = .error e) : ∃ fe, e = .file fe := by
  obtain ⟨a, ha, hneeds⟩ := exists_needsWriting_eq_error hchanged
  rcases h.needsWriting_cases ha force with ⟨-, hok⟩ | hok | ⟨fe, hfile⟩
  · rw [hneeds] at hok
    cases hok
  · rw [hneeds] at hok
    cases hok
  · rw [hneeds] at hfile
    cases hfile
    exact ⟨fe, rfl⟩

/-- Files that can be read or are missing are compared. -/
theorem exists_changed (h : Kept t root previous as) (force : Bool)
    (hreads : ∀ a ∈ as, ∀ e, t.read (a.target root) = .error e → e = .notFound) :
    ∃ cs, changed t root previous force as = .ok cs := by
  cases hchanged : changed t root previous force as with
  | ok cs => exact ⟨cs, rfl⟩
  | error e =>
    obtain ⟨a, ha, hneeds⟩ := exists_needsWriting_eq_error hchanged
    obtain ⟨fe, rfl⟩ := h.error_of_changed hchanged
    obtain ⟨hread, hne⟩ := read_of_needsWriting_eq_error hneeds
    exact absurd (hreads a ha fe hread) hne

theorem read_of_notMem (h : Kept t root previous as)
    (hchanged : changed t root previous force as = .ok cs) (ha : a ∈ as) (hcs : a ∉ cs) :
    t.read (a.target root) = .ok a.content := by
  have hneeds := needsWriting_of_notMem hchanged ha hcs
  rcases h.needsWriting_cases ha force with ⟨hread, -⟩ | hok | ⟨fe, hfile⟩
  · exact hread
  · rw [hneeds] at hok
    cases hok
  · rw [hneeds] at hfile
    cases hfile

end Kept

/-! ## Writing -/

section Wrote

variable {extra : Path × String} (hwrote : Wrote t (writes root cs ++ [extra]) t')
  (hcs : ∀ a ∈ cs, a ∈ as)
include hwrote hcs

/-- Once the files that do not stand are written, with one more beside them, all stand. -/
theorem read_of_wrote
    (hdistinct : ∀ a ∈ as, ∀ b ∈ as, t.landing (a.target root) = t.landing (b.target root) → a = b)
    (hextra : ∀ a ∈ as, t.landing extra.1 ≠ t.landing (a.target root))
    (hrest : ∀ a ∈ as, a ∉ cs → t.read (a.target root) = .ok a.content) (ha : a ∈ as) :
    t'.read (a.target root) = .ok a.content := by
  -- what lands where the file does is the file
  have hlanding : ∀ w ∈ writes root cs ++ [extra], t.landing w.1 = t.landing (a.target root) →
      a ∈ cs ∧ w.2 = a.content := by
    intro w hw hland
    rcases List.mem_append.1 hw with hw | hw
    · obtain ⟨b, hb, rfl⟩ := List.mem_map.1 hw
      have hba : b = a := hdistinct b (hcs b hb) a ha hland
      exact hba ▸ ⟨hb, rfl⟩
    · rw [List.mem_singleton.1 hw] at hland
      exact absurd hland (hextra a ha)
  by_cases hmem : a ∈ cs
  · have hw : (a.target root, a.content) ∈ writes root cs ++ [extra] :=
      List.mem_append_left _ (List.mem_map.2 ⟨a, hmem, rfl⟩)
    have hread := hwrote.read_of_mem hw fun v hv hland => (hlanding v hv hland).2
    exact hread
  · exact hwrote.read_of_untouched (hrest a ha hmem) fun w hw hland =>
      hmem (hlanding w hw hland).1

/-- Elsewhere nothing happens. -/
theorem file?_of_wrote {q : Place} (hq : ∀ a ∈ as, t.landing (a.target root) ≠ q)
    (hextra : t.landing extra.1 ≠ q) : t'.file? q = t.file? q := by
  refine hwrote.file?_of_untouched fun w hw => ?_
  rcases List.mem_append.1 hw with hw | hw
  · obtain ⟨b, hb, rfl⟩ := List.mem_map.1 hw
    exact hq b (hcs b hb)
  · rw [List.mem_singleton.1 hw]
    exact hextra

end Wrote

end Artifact

end PipeLoom
