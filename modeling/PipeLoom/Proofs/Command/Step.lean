import PipeLoom.Proofs.Command.Writes

/-!
# What a run comes to

`InitArgs.Step` and `AddArgs.Step` list the ways in which a run of `init` or `add` can end, each
with its checks, its result and the tree that it leaves. Every run ends in one of them
(`InitArgs.step_run`, `AddArgs.step_run`), and a run that changes files either succeeds or fails on
a file.
-/

namespace PipeLoom

open FileTree (Wrote)

theorem SavedSelection.error_of_save {t t' : FileTree} {root : Path} {s : SavedSelection}
    {e : StoreError} (h : s.save t root = (.error e, t')) : ∃ fe, e = .file fe := by
  unfold save saveBy at h
  split at h
  · cases h
  · cases h
    exact ⟨_, rfl⟩

theorem SavedSelection.wrote_of_save {t t' : FileTree} {root : Path} {s : SavedSelection}
    (h : s.save t root = (.ok (), t')) : Wrote t [(path root, s.print)] t' := by
  have hsave := s.save_wrote t root
  rw [h] at hsave
  exact hsave.wrote

theorem SavedSelection.read_of_wrote {t t' : FileTree} {ws : List (Path × String)} {root : Path}
    {s : SavedSelection} (h : Wrote t (ws ++ [(path root, s.print)]) t') :
    t'.read (path root) = .ok s.print := by
  obtain ⟨c, hlast, hread⟩ := h.delivered (List.mem_append_right ws (List.mem_singleton_self _))
  rw [FileTree.lastAt_append, FileTree.lastAt_single, if_pos rfl] at hlast
  cases hlast
  exact hread

/-- A selection that was saved last is loaded, if its text reads back. -/
theorem SavedSelection.load_of_wrote {t t' : FileTree} {ws : List (Path × String)} {root : Path}
    {s : SavedSelection} (h : Wrote t (ws ++ [(path root, s.print)]) t')
    (hs : ofText? s.print = some s) : load t' root = .ok s := by
  have hread := read_of_wrote h
  have hthere : t'.isThere (path root) = true := by
    obtain ⟨q, htarget⟩ := FileTree.target_of_read hread
    unfold FileTree.isThere FileTree.entryAt?
    rw [htarget]
    rfl
  unfold load
  rw [hthere, hread]
  simp only [hs]
  rfl

/-! ## Init -/

/-- A run is prepared from the configuration and the catalogue, unless that is done already. -/
theorem InitArgs.prepare_eq_ok_iff {a : InitArgs} {t : FileTree} {root : Path} {g : Generation} :
    a.prepare t root = .ok g ↔
      (t.isThere (SavedSelection.path root) && !a.force && !a.dryRun) = false ∧
        ∃ config c, a.config.load t root = .ok config ∧ loadCatalogue t root config = .ok c ∧
          Generation.make c a.selection.toRaw a.appName config = .ok g := by
  unfold prepare
  cases t.isThere (SavedSelection.path root) && !a.force && !a.dryRun with
  | false =>
    rw [Except.bind_eq_ok_iff]
    constructor
    · rintro ⟨config, hconfig, h⟩
      obtain ⟨c, hc, hg⟩ := Except.bind_eq_ok_iff.1 h
      exact ⟨rfl, config, c, hconfig, hc, hg⟩
    · rintro ⟨-, config, c, hconfig, hc, hg⟩
      exact ⟨config, hconfig, Except.bind_eq_ok_iff.2 ⟨c, hc, hg⟩⟩
  | true =>
    constructor
    · intro h
      obtain ⟨config, -, h⟩ := Except.bind_eq_ok_iff.1 h
      cases h
    · rintro ⟨h, -⟩
      cases h

/-- The selection that the run would save reads back from its text. -/
def InitArgs.SavesReadably (a : InitArgs) (now : Timestamp) (t : FileTree) : Prop :=
  ∀ g, a.prepare t (a.root t) = .ok g →
    SavedSelection.ofText? (SavedSelection.new a.appName g.selection.toRaw now).print =
      some (SavedSelection.new a.appName g.selection.toRaw now)

/-- How a run of `init` ends. -/
inductive InitArgs.Step (a : InitArgs) (now : Timestamp) (t : FileTree) :
    Except CommandError Unit → FileTree → Prop
  | unprepared {e : CommandError} : a.prepare t (a.root t) = .error e → Step a now t (.error e) t
  | shown : a.dryRun = true → Step a now t (.ok ()) t
  | blocked {g : Generation} {f : Artifact} : a.prepare t (a.root t) = .ok g → f ∈ g.artifacts →
      t.isThere (f.target (a.root t)) = true →
      Step a now t (.error (.store .writing (.alreadyExists (f.target (a.root t))))) t
  | broken {activity : Activity} {e : FileError} {t' : FileTree} :
      Step a now t (.error (.store activity (.file e))) t'
  | generated {g : Generation} {t' : FileTree} : a.prepare t (a.root t) = .ok g →
      Wrote t (Artifact.writes (a.root t) g.artifacts ++ [(SavedSelection.path (a.root t),
        (SavedSelection.new a.appName g.selection.toRaw now).print)]) t' → Step a now t (.ok ()) t'

theorem InitArgs.step_run (a : InitArgs) (now : Timestamp) (t : FileTree) :
    a.Step now t (a.run now t).result (a.run now t).tree := by
  rw [run_eq]
  cases hprepare : a.prepare t (a.root t) with
  | error e => exact .unprepared hprepare
  | ok g =>
    simp only
    split
    · rename_i hdry
      exact .shown hdry
    · rcases hwritten : Artifact.writeAll t (a.root t) g.artifacts a.force with ⟨e | paths, t1⟩
      · rcases Artifact.error_of_writeAll hwritten with ⟨fe, rfl⟩ | ⟨rfl, -, f, hf, rfl, hthere⟩
        · exact .broken
        · exact .blocked hprepare hf hthere
      · simp only
        rcases hsaved : SavedSelection.save t1 (a.root t) (.new a.appName g.selection.toRaw now)
          with ⟨e | ⟨⟩, t2⟩
        · obtain ⟨fe, rfl⟩ := SavedSelection.error_of_save hsaved
          exact .broken
        · exact .generated hprepare
            ((Artifact.wrote_of_writeAll hwritten).trans (SavedSelection.wrote_of_save hsaved))

/-- A run that succeeds saves the selection. -/
theorem InitArgs.load_of_run {a : InitArgs} {now : Timestamp} {t : FileTree}
    (hdry : a.dryRun = false) (hreads : a.SavesReadably now t)
    (hok : (a.run now t).result = .ok ()) :
    ∃ g, a.prepare t (a.root t) = .ok g ∧ SavedSelection.load (a.run now t).tree (a.root t) =
      .ok (.new a.appName g.selection.toRaw now) := by
  have hstep := a.step_run now t
  rw [hok] at hstep
  generalize (a.run now t).tree = t' at hstep
  cases hstep with
  | shown h =>
    rw [hdry] at h
    cases h
  | generated hprepare hwrote =>
    exact ⟨_, hprepare, SavedSelection.load_of_wrote hwrote (hreads _ hprepare)⟩

/-! ## Add -/

/-- The files that generating renders, none if it fails. -/
def Generation.filesOf (r : Except CommandError Generation) : List Artifact :=
  match r with
  | .ok g => g.artifacts
  | .error _ => []

/-- A run is prepared from the saved selection, the configuration and the catalogue. -/
theorem AddArgs.prepare_eq_ok_iff {a : AddArgs} {t : FileTree} {root : Path}
    {saved : SavedSelection} {g : Generation} {previous : List Artifact} :
    a.prepare t root = .ok (saved, g, previous) ↔
      SavedSelection.load t root = .ok saved ∧ ∃ config c, a.config.load t root = .ok config ∧
        loadCatalogue t root config = .ok c ∧
        Generation.make c (saved.selection.addHooks [a.target.hook]) saved.appName config = .ok g ∧
        Generation.filesOf (Generation.make c saved.selection saved.appName config) = previous := by
  unfold prepare
  simp only [Except.bind_eq_ok_iff, Except.mapError_eq_ok_iff]
  constructor
  · rintro ⟨saved', hsaved, config, hconfig, c, hc, g', hg, h⟩
    cases h
    exact ⟨hsaved, config, c, hconfig, hc, hg, rfl⟩
  · rintro ⟨hsaved, config, c, hconfig, hc, hg, rfl⟩
    exact ⟨saved, hsaved, config, hconfig, c, hc, g, hg, rfl⟩

/-- The selection that the run would save reads back from its text. -/
def AddArgs.SavesReadably (a : AddArgs) (now : Timestamp) (t : FileTree) : Prop :=
  ∀ saved g previous, a.prepare t (a.root t) = .ok (saved, g, previous) →
    SavedSelection.ofText? (saved.update g.selection.toRaw now).print =
      some (saved.update g.selection.toRaw now)

/-- How a run of `add` ends. -/
inductive AddArgs.Step (a : AddArgs) (now : Timestamp) (t : FileTree) :
    Except CommandError Unit → FileTree → Prop
  | unprepared {e : CommandError} : a.prepare t (a.root t) = .error e → Step a now t (.error e) t
  | shown : a.dryRun = true → Step a now t (.ok ()) t
  | refused {saved : SavedSelection} {g : Generation} {previous : List Artifact} {e : StoreError} :
      a.prepare t (a.root t) = .ok (saved, g, previous) →
      Artifact.changed t (a.root t) previous a.force g.artifacts = .error e →
      Step a now t (.error (.store .comparing e)) t
  | upToDate {saved : SavedSelection} {g : Generation} {previous : List Artifact} :
      a.prepare t (a.root t) = .ok (saved, g, previous) →
      Artifact.changed t (a.root t) previous a.force g.artifacts = .ok [] →
      Step a now t (.ok ()) t
  | broken {activity : Activity} {e : FileError} {t' : FileTree} :
      Step a now t (.error (.store activity (.file e))) t'
  | added {saved : SavedSelection} {g : Generation} {previous changed : List Artifact}
      {t' : FileTree} : a.dryRun = false → a.prepare t (a.root t) = .ok (saved, g, previous) →
      Artifact.changed t (a.root t) previous a.force g.artifacts = .ok changed → changed ≠ [] →
      Wrote t (Artifact.writes (a.root t) changed ++ [(SavedSelection.path (a.root t),
        (saved.update g.selection.toRaw now).print)]) t' → Step a now t (.ok ()) t'

theorem AddArgs.step_run (a : AddArgs) (now : Timestamp) (t : FileTree) :
    a.Step now t (a.run now t).result (a.run now t).tree := by
  have hroot : a.output.getD t.currentPath = a.root t := rfl
  unfold run
  simp only
  rw [hroot]
  rcases hprepare : a.prepare t (a.root t) with e | ⟨saved, g, previous⟩
  · exact .unprepared hprepare
  · simp only
    split
    · rename_i hdry
      exact .shown hdry
    · rename_i hdry
      rcases hchanged : Artifact.changed t (a.root t) previous a.force g.artifacts with
        e | _ | ⟨f, fs⟩
      · exact .refused hprepare hchanged
      · exact .upToDate hprepare hchanged
      · simp only
        rcases hwritten : Artifact.writeAll t (a.root t) (f :: fs) true with ⟨e | paths, t1⟩
        · rcases Artifact.error_of_writeAll hwritten with ⟨fe, rfl⟩ | ⟨-, hforce, -⟩
          · exact .broken
          · cases hforce
        · simp only
          rcases hsaved : SavedSelection.save t1 (a.root t) (saved.update g.selection.toRaw now)
            with ⟨e | ⟨⟩, t2⟩
          · obtain ⟨fe, rfl⟩ := SavedSelection.error_of_save hsaved
            exact .broken
          · exact .added (Bool.eq_false_iff.2 hdry) hprepare hchanged (List.cons_ne_nil f fs)
              ((Artifact.wrote_of_writeAll hwritten).trans (SavedSelection.wrote_of_save hsaved))

section Run

variable {a : AddArgs} {now : Timestamp} {t : FileTree} {saved : SavedSelection} {g : Generation}
  {previous changed : List Artifact} (h : a.prepare t (a.root t) = .ok (saved, g, previous))
include h

/-- Where nothing has to be written, a run succeeds and does nothing. -/
theorem AddArgs.run_of_changed_eq_nil
    (hchanged : Artifact.changed t (a.root t) previous a.force g.artifacts = .ok []) :
    (a.run now t).result = .ok () ∧ (a.run now t).tree = t := by
  have hroot : a.output.getD t.currentPath = a.root t := rfl
  unfold run
  simp only
  rw [hroot, h]
  simp only [hchanged]
  cases a.dryRun <;> exact ⟨rfl, rfl⟩

/-- Where the files that have to be written can be, and then the selection, a run succeeds. -/
theorem AddArgs.result_of_written
    (hchanged : Artifact.changed t (a.root t) previous a.force g.artifacts = .ok changed)
    (hwritten : (Artifact.writeAll t (a.root t) changed true).1.isOk = true)
    (hsaved : (SavedSelection.save (Artifact.writeAll t (a.root t) changed true).2 (a.root t)
      (saved.update g.selection.toRaw now)).1 = .ok ()) : (a.run now t).result = .ok () := by
  cases changed with
  | nil => exact (run_of_changed_eq_nil h hchanged).1
  | cons f fs =>
    have hroot : a.output.getD t.currentPath = a.root t := rfl
    unfold run
    simp only
    rw [hroot, h]
    simp only [hchanged]
    rcases hall : Artifact.writeAll t (a.root t) (f :: fs) true with ⟨e | paths, t1⟩
    · rw [hall] at hwritten
      cases hwritten
    · rw [hall] at hsaved
      simp only at hsaved ⊢
      rcases hsave : SavedSelection.save t1 (a.root t) (saved.update g.selection.toRaw now) with
        ⟨e | ⟨⟩, t2⟩
      · rw [hsave] at hsaved
        cases hsaved
      · cases a.dryRun <;> rfl

end Run

end PipeLoom
