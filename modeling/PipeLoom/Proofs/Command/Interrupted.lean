import PipeLoom.Proofs.Command.Untouched

/-!
# Runs that stop in the middle

Files are written one after the other and nothing is taken back: where one cannot be written, those
before it stay, and of itself a part may stay as well, unless its path does not lead to a file. A
run of `init` that fails while writing stops at some file, and the saved selection comes last
(`InitArgs.runBy_keeps_files_before_failure`). It makes no difference how files are written and why
that fails (`FileTree.Faithful`).
-/

namespace PipeLoom

open FileTree (Completes Faithful StopsAt Writing)

variable {write : Writing} {t t' : FileTree} {root : Path} {e : FileError}

theorem SavedSelection.fails_of_saveBy {s : SavedSelection}
    (h : s.saveBy write t root = (.error (.file e), t')) :
    write t (path root) s.print = (.error e, t') := by
  unfold saveBy at h
  split at h
  · cases h
  · rename_i hw
    cases h
    exact hw

/-- Nothing is written to prepare a run, so that no file is at fault. -/
theorem InitArgs.ne_store_of_prepare {a : InitArgs} {e : CommandError}
    (h : a.prepare t root = .error e) (activity : Activity) (se : StoreError) :
    e ≠ .store activity se := by
  have hfails : FailsWith (fun e => ∀ activity se, e ≠ CommandError.store activity se)
      (a.prepare t root) := by
    unfold prepare ConfigArgs.load
    refine .bind (.map (.mapError fun _ _ _ _ h => nomatch h)) fun _ _ => ?_
    split
    · exact .error fun _ _ h => nomatch h
    · refine .bind ?_ fun c _ e he => Generation.ne_store_of_make he
      unfold loadCatalogue
      split
      · exact .mapError fun _ _ _ _ h => nomatch h
      · exact .map (.mapError fun _ _ _ _ h => nomatch h)
  exact hfails e h activity se

namespace InitArgs

variable {a : InitArgs} {now : Timestamp} {activity : Activity} {g : Generation}

/-- What a run sets out to write that nothing is in the way of. -/
theorem writes_eq (now : Timestamp) (hprepare : a.prepare t (a.root t) = .ok g)
    (hdry : a.dryRun = false)
    (hfree : a.force = true ∨ ∀ f ∈ g.artifacts, t.isThere (f.target (a.root t)) = false) :
    a.writes now t = Artifact.writes (a.root t) g.artifacts ++
      [(SavedSelection.path (a.root t),
        (SavedSelection.new a.appName g.selection.toRaw now).print)] := by
  have hunblocked : (!a.force &&
      (Artifact.writes (a.root t) g.artifacts).any fun w => t.isThere w.1) = false := by
    rcases hfree with hforce | hfree
    · rw [hforce]
      rfl
    · have hnone : ((Artifact.writes (a.root t) g.artifacts).any fun w => t.isThere w.1) =
          false := by
        unfold Artifact.writes
        rw [List.any_map, List.any_eq_false]
        exact fun f hf => Bool.eq_false_iff.1 (hfree f hf)
      rw [hnone, Bool.and_false]
  unfold writes
  rw [hprepare]
  simp only
  rw [hdry, hunblocked]
  rfl

/-- A run that fails on a file has stopped at one of those that it set out to write. Before it come
generated files alone, since the selection is the last. -/
theorem stopsAt_of_runBy
    (h : (a.runBy write now t).result = .error (.store activity (.file e))) :
    ∃ g done between w, a.prepare t (a.root t) = .ok g ∧
      a.writes now t = Artifact.writes (a.root t) g.artifacts ++
        [(SavedSelection.path (a.root t),
          (SavedSelection.new a.appName g.selection.toRaw now).print)] ∧
      done ++ [w] <+: a.writes now t ∧ done <+: Artifact.writes (a.root t) g.artifacts ∧
      StopsAt write t done between w e (a.runBy write now t).tree := by
  revert h
  rw [runBy_eq]
  cases hprepare : a.prepare t (a.root t) with
  | error e' =>
    intro h
    exact absurd (Except.error.inj h) (ne_store_of_prepare hprepare activity (.file e))
  | ok g =>
    simp only
    cases hdry : a.dryRun with
    | true =>
      intro h
      cases h
    | false =>
      rw [if_neg Bool.false_ne_true]
      rcases hwritten : Artifact.writeAllBy write t (a.root t) g.artifacts a.force with ⟨r, t1⟩
      rcases Artifact.writeAllBy_cases hwritten with
        ⟨-, -, p, -, rfl⟩ | ⟨hfree, ⟨rfl, hall⟩ | ⟨done, f, between, fe, rfl, hbegins, hstops⟩⟩
      · intro h
        cases h
      · have hwrites := writes_eq now hprepare hdry hfree
        simp only
        rcases hsaved : (SavedSelection.new a.appName g.selection.toRaw now).saveBy write t1
          (a.root t) with ⟨e' | ⟨⟩, t2⟩
        · intro h
          cases h
          refine ⟨g, _, t1, (SavedSelection.path (a.root t),
            (SavedSelection.new a.appName g.selection.toRaw now).print), rfl, hwrites, ?_,
            List.prefix_rfl, hall, SavedSelection.fails_of_saveBy hsaved⟩
          simp only [hwrites, List.prefix_rfl]
        · intro h
          cases h
      · have hwrites := writes_eq now hprepare hdry hfree
        have hfiles : Artifact.writes (a.root t) done ++ [(f.target (a.root t), f.content)] <+:
            Artifact.writes (a.root t) g.artifacts := by
          have hmap := hbegins.map fun f : Artifact => (f.target (a.root t), f.content)
          rwa [List.map_append] at hmap
        intro h
        cases h
        refine ⟨g, _, between, _, rfl, hwrites, ?_, (List.prefix_append _ _).trans hfiles, hstops⟩
        rw [hwrites]
        exact hfiles.trans (List.prefix_append _ _)

/-- Generated files that land at one place are one file. -/
theorem eq_of_landing_eq (hprepare : a.prepare t (a.root t) = .ok g)
    {v w : Path × String} (hv : v ∈ Artifact.writes (a.root t) g.artifacts)
    (hw : w ∈ Artifact.writes (a.root t) g.artifacts) (h : t.landing v.1 = t.landing w.1) :
    v = w := by
  obtain ⟨-, config, c, -, -, hmake⟩ := prepare_eq_ok_iff.1 hprepare
  obtain ⟨f, hf, rfl⟩ := List.mem_map.1 hv
  obtain ⟨f', hf', rfl⟩ := List.mem_map.1 hw
  have hpath : f.path = f'.path :=
    Config.eq_of_landing_eq (Generation.path_mem_generatedPaths hmake hf)
      (Generation.path_mem_generatedPaths hmake hf') h
  rw [Generation.eq_of_path_eq hmake hf hf' hpath]

/-- However files are written, a run without `--force` that fails on a file while it writes has
written the generated files before that one, where nothing was found, and leaves them there. Of the
file that it failed on something may be left, but nothing if its path does not lead to a file. No
other file is made or changed, and the selection is saved only after all. If already the path of the
first file does not lead to one, no file is made or changed. -/
theorem runBy_keeps_files_before_failure (hwrite : Faithful write) (hforce : a.force = false)
    (h : (a.runBy write now t).result = .error (.store activity (.file e))) :
    ∃ g done between w left, a.prepare t (a.root t) = .ok g ∧
      a.writes now t = Artifact.writes (a.root t) g.artifacts ++
        [(SavedSelection.path (a.root t),
          (SavedSelection.new a.appName g.selection.toRaw now).print)] ∧
      done ++ [w] <+: a.writes now t ∧ done <+: Artifact.writes (a.root t) g.artifacts ∧
      StopsAt write t done between w e (a.runBy write now t).tree ∧
      (left = [] ∨ ∃ rest, left = [(w.1, rest)]) ∧
      ((between.writeWithParents w.1 w.2).1 ≠ .ok () → left = []) ∧
      (∀ v ∈ done ++ [w], t.isThere v.1 = false) ∧
      (∀ v ∈ done, (∀ u ∈ left, t.landing u.1 ≠ t.landing v.1) →
        (a.runBy write now t).tree.read v.1 = .ok v.2) ∧
      (∀ q, (∀ v ∈ done ++ left, t.landing v.1 ≠ q) →
        (a.runBy write now t).tree.file? q = t.file? q) ∧
      (∀ q content, t.file? q = some content → ¬t.ConcealedBy (done ++ left) q →
        (a.runBy write now t).tree.file? q = some content) ∧
      ∀ v e', (a.writes now t).head? = some v → (t.writeWithParents v.1 v.2).1 = .error e' →
        ∀ q, (a.runBy write now t).tree.file? q = t.file? q := by
  obtain ⟨g, done, between, w, hprepare, hwrites, hbegins, hfiles, hstops⟩ := stopsAt_of_runBy h
  obtain ⟨left, hleft, hwrote, hreach⟩ := hstops.exists_left hwrite
  have hfree : ∀ v ∈ done ++ [w], t.isThere v.1 = false := fun v hv =>
    isThere_of_mem_writes hforce (hbegins.subset hv)
  refine ⟨g, done, between, w, left, hprepare, hwrites, hbegins, hfiles, hstops, hleft, hreach,
    hfree, fun v hv honly => ?_, fun q hq => hwrote.file?_of_untouched hq,
    fun q content hq hconcealed => ?_, fun v e' hfirst hv q => ?_⟩
  · refine hwrote.read_of_mem (List.mem_append_left left hv) fun u hu hland => ?_
    rcases List.mem_append.1 hu with hu | hu
    · rw [eq_of_landing_eq hprepare (hfiles.subset hu) (hfiles.subset hv) hland]
    · exact absurd hland (honly u hu)
  · rw [hwrote.file?_of_untouched fun v hv hland => ?_]
    · exact hq
    · -- what is left stands where the run failed, and there was nothing at that path either
      have hthere : t.isThere v.1 = false := by
        rcases List.mem_append.1 hv with hv | hv
        · exact hfree v (List.mem_append_left [w] hv)
        · rcases hleft with rfl | ⟨rest, rfl⟩
          · cases hv
          · rw [List.mem_singleton.1 hv]
            exact hfree w (List.mem_append_right done (List.mem_singleton_self w))
      exact hconcealed ⟨v, hv, FileTree.conceals_of_isThere hthere hland fun _ he =>
        hwrote.reached hv he⟩
  · have hhead : (done ++ [w]).head? = some v := by
      obtain ⟨rest, hrest⟩ := hbegins
      rw [← hrest, List.head?_append_of_ne_nil _ (by simp)] at hfirst
      exact hfirst
    obtain ⟨rfl, rfl, rfl⟩ := hstops.eq_nil hwrite hhead hv
    rw [hreach (by rw [hv]; exact nofun)] at hwrote
    exact hwrote.file?_of_untouched fun _ h => absurd h List.not_mem_nil

end InitArgs

/-! ## A file in place of a directory, and a broken device -/

/-- The provider document goes into the directory `deploy`, but a file stands there. -/
def blockedTree : FileTree := ⟨[(["deploy"], .file "notes")], []⟩

theorem run_blockedTree :
    (goArgs.run noon blockedTree).result = .error (.store .writing (.file .alreadyExists)) ∧
      blockedTree.file? [".github", "workflows", "pipeline.yml"] = none ∧
      (goArgs.run noon blockedTree).tree.file? [".github", "workflows", "pipeline.yml"] ≠ none ∧
      (goArgs.run noon blockedTree).tree.isThere (SavedSelection.path goProject.root) = false := by
  have hroot : goArgs.root blockedTree = goProject.root := goProject.currentPath_eq rfl
  rw [InitArgs.run_eq, hroot, goProject.prepare_goArgs (by decide +kernel) (by decide +kernel)]
  decide +kernel

/-- Some of the provider document is written before the device fails. -/
def cutOff : Writing := FileTree.writeBrokenAt ["deploy", "gcp.yaml"] "provider: g"

def deviceError : FileError := .other "Input/output error (os error 5)"

theorem run_cutOff :
    (goArgs.runBy cutOff noon emptyTree).result = .error (.store .writing (.file deviceError)) ∧
      (goArgs.runBy cutOff noon emptyTree).tree.file? ["deploy", "gcp.yaml"] =
        some "provider: g" := by
  have hroot : goArgs.root emptyTree = goProject.root := goProject.currentPath_eq rfl
  rw [InitArgs.runBy_eq, hroot, goProject.prepare_goArgs (by decide +kernel) (by decide +kernel)]
  decide +kernel

/-- The workflow is written and stays, while the selection is not saved. On the broken device a part
of the provider document stays as well. -/
theorem InitArgs.runBy_keeps_files_before_failure_blockedTree :
    (goArgs.run noon blockedTree).result = .error (.store .writing (.file .alreadyExists)) ∧
      (goArgs.run noon blockedTree).tree.isThere (SavedSelection.path goProject.root) = false ∧
      (∃ done between w, done ≠ [] ∧ StopsAt FileTree.writeWithParents blockedTree done between w
          .alreadyExists (goArgs.run noon blockedTree).tree ∧
        ∀ v ∈ done, (goArgs.run noon blockedTree).tree.read v.1 = .ok v.2) ∧
      (goArgs.runBy cutOff noon emptyTree).result = .error (.store .writing (.file deviceError)) ∧
      (goArgs.runBy cutOff noon emptyTree).tree.file? ["deploy", "gcp.yaml"] =
        some "provider: g" ∧
      ∃ done between w left,
        StopsAt cutOff emptyTree done between w deviceError
          (goArgs.runBy cutOff noon emptyTree).tree ∧
        (left = [] ∨ ∃ rest, left = [(w.1, rest)]) ∧
        ∀ q, (∀ v ∈ done ++ left, emptyTree.landing v.1 ≠ q) →
          (goArgs.runBy cutOff noon emptyTree).tree.file? q = none := by
  obtain ⟨hresult, hbefore, hafter, hsaved⟩ := run_blockedTree
  obtain ⟨hfailed, hcut⟩ := run_cutOff
  refine ⟨hresult, hsaved, ?_, hfailed, hcut, ?_⟩
  · have hrun : goArgs.run noon blockedTree =
        goArgs.runBy FileTree.writeWithParents noon blockedTree := rfl
    rw [hrun] at hresult hafter ⊢
    obtain ⟨-, done, between, w, left, -, -, -, -, hstops, -, hreach, -, hread, huntouched, -⟩ :=
      runBy_keeps_files_before_failure FileTree.faithful_writeWithParents (a := goArgs) rfl hresult
    obtain rfl : left = [] := hreach (by rw [hstops.fails]; exact nofun)
    refine ⟨done, between, w, ?_, hstops, fun v hv => hread v hv fun _ h => nomatch h⟩
    rintro rfl
    rw [huntouched _ fun _ h => nomatch h] at hafter
    exact hafter hbefore
  · obtain ⟨-, done, between, w, left, -, -, -, -, hstops, hleft, -, -, -, huntouched, -⟩ :=
      runBy_keeps_files_before_failure (FileTree.faithful_writeBrokenAt _ _) (a := goArgs) rfl
        hfailed
    have hempty : ∀ q, emptyTree.file? q = none := fun q => by cases q <;> rfl
    exact ⟨done, between, w, left, hstops, hleft, fun q hq => (huntouched q hq).trans (hempty q)⟩

/-- A run that fails on a file can have made others. -/
theorem not_untouched_after_failure :
    ¬∀ (a : InitArgs) (now : Timestamp) (t : FileTree) (activity : Activity) (e : FileError),
      a.force = false → (a.run now t).result = .error (.store activity (.file e)) →
      ∀ q, (a.run now t).tree.file? q = t.file? q := by
  intro h
  obtain ⟨hresult, hbefore, hafter, -⟩ := run_blockedTree
  rw [h goArgs noon blockedTree _ _ rfl hresult, hbefore] at hafter
  exact hafter rfl

end PipeLoom
