import PipeLoom.Proofs.Command.Step
import PipeLoom.Proofs.Project.Generated
import PipeLoom.Proofs.Project.Regeneration
import PipeLoom.Proofs.Selection.Hooks

/-!
# Projects between runs

A project stands while the files generated for its saved selection hold their contents and all
others are as they were before the first run. `init` leaves it so (`Stands.of_init`). A run of `add`
that does not fail on a file leaves it alone, or leaves it standing with the hook
(`Stands.next_run`), and adding a hook that is there does nothing (`Stands.run_of_mem`).
-/

namespace PipeLoom

open FileTree (Wrote)

theorem FileTree.landing_congr {t t' : FileTree} (h : t'.current = t.current) (p : Path) :
    t'.landing p = t.landing p := by
  unfold landing start
  rw [h]

theorem AddTarget.isChoice_hook (target : AddTarget) : RawSelection.IsChoice target.hook := by
  cases target <;> exact ⟨by decide +kernel, by decide +kernel⟩

/-- The workflow that a hook brings. -/
def AddTarget.workflow : AddTarget → WorkflowKind
  | hotfix => .hotfix
  | rollback => .rollback

theorem AddTarget.mem_hooks_iff (target : AddTarget) {c : Catalogue} {raw : RawSelection}
    {appName : String} {config : Config} {g : Generation}
    (hg : Generation.make c raw appName config = .ok g) :
    target.hook ∈ g.selection.hooks ↔
      ∃ f ∈ g.artifacts, f.path = config.workflowDir.child target.workflow.fileName := by
  rw [Generation.exists_workflow_iff hg]
  cases target <;> simp [hook, workflow]

theorem Selection.ExtendedBy.provider_eq {s s' : Selection} {hooks : List String}
    (h : s.ExtendedBy hooks s') : s'.provider = s.provider :=
  List.singleton_inj.1 (h.values (a := .provider) (by decide))

/-- The same project, generated with other hooks. -/
def InitArgs.withHooks (i : InitArgs) (hooks : List String) : InitArgs :=
  { i with selection := { i.selection with hooks } }

/-- A root that is generated again and again with one configuration and one catalogue. -/
structure Project where
  root : Path
  config : Config
  catalogue : Catalogue

namespace Project

variable {P : Project} {appName : String} {t0 t t' : FileTree} {g g' : Generation}
  {raw raw' : RawSelection}

/-- Generating the selection in the project. -/
def make (P : Project) (raw : RawSelection) (appName : String) : Except CommandError Generation :=
  Generation.make P.catalogue raw appName P.config

/-- Nothing stands where generated files go, and the saved selection goes elsewhere. -/
structure Free (P : Project) (t : FileTree) (provider : String) : Prop where
  vacant : ∀ p ∈ P.config.generatedPaths provider, t.get? (t.landing (P.root.join p)) = none
  apart : ∀ p ∈ P.config.generatedPaths provider,
    t.landing (SavedSelection.path P.root) ≠ t.landing (P.root.join p)

/-- The project stands as `g` generates it. It was first generated in `t0`. -/
structure Stands (P : Project) (appName : String) (t0 t : FileTree) (g : Generation) : Prop where
  current : t.current = t0.current
  saved : ∃ saved, SavedSelection.load t P.root = .ok saved ∧ saved.appName = appName ∧
    saved.selection = g.selection.toRaw
  made : P.make g.selection.toRaw appName = .ok g
  held : ∀ f ∈ g.artifacts, t.read (f.target P.root) = .ok f.content
  elsewhere {q : Place} : q ≠ t0.landing (SavedSelection.path P.root) →
    (∀ f ∈ g.artifacts, t0.landing (f.target P.root) ≠ q) → t.file? q = t0.file? q

/-! ## Files of one generation and of the next -/

section Generations

variable (hg : P.make raw appName = .ok g)
include hg

theorem make_toRaw : P.make g.selection.toRaw appName = .ok g := by
  have hresolve := Generation.resolve_of_make hg
  rw [← hg]
  exact Generation.make_congr ((Catalogue.resolve_toRaw hresolve).trans hresolve.symm)

theorem eq_of_landing_eq {f f' : Artifact} (hf : f ∈ g.artifacts) (hf' : f' ∈ g.artifacts)
    (h : t.landing (f.target P.root) = t.landing (f'.target P.root)) : f = f' :=
  Generation.eq_of_path_eq hg hf hf' (Config.eq_of_landing_eq
    (Generation.path_mem_generatedPaths hg hf) (Generation.path_mem_generatedPaths hg hf') h)

theorem Free.apart_of_mem (h : P.Free t g.selection.provider) {f : Artifact}
    (hf : f ∈ g.artifacts) :
    t.landing (SavedSelection.path P.root) ≠ t.landing (f.target P.root) :=
  h.apart _ (Generation.path_mem_generatedPaths hg hf)

theorem Free.file?_eq_none (h : P.Free t g.selection.provider) {f : Artifact}
    (hf : f ∈ g.artifacts) : t.file? (t.landing (f.target P.root)) = none := by
  have hvacant := h.vacant _ (Generation.path_mem_generatedPaths hg hf)
  unfold FileTree.file? Artifact.target
  rw [hvacant]

variable (hg' : P.make raw' appName = .ok g')
  (hprovider : g'.selection.provider = g.selection.provider)
include hg' hprovider

theorem path_eq_of_landing_eq {f f' : Artifact} (hf : f ∈ g.artifacts) (hf' : f' ∈ g'.artifacts)
    (h : t.landing (f.target P.root) = t.landing (f'.target P.root)) : f.path = f'.path :=
  Config.eq_of_landing_eq (Generation.path_mem_generatedPaths hg hf)
    (hprovider ▸ Generation.path_mem_generatedPaths hg' hf') h

/-- While the project stands, its files are kept for the next generation. -/
theorem Stands.kept (h : P.Stands appName t0 t g) (hfree : P.Free t0 g.selection.provider) :
    Artifact.Kept t P.root g.artifacts g'.artifacts where
  held := h.held
  path_eq f' hf' f hf hsame := path_eq_of_landing_eq hg hg' hprovider hf hf'
    (FileTree.landing_join_of_same (t := t) hsame P.root)
  free f' hf' hnew := by
    rw [FileTree.landing_congr h.current, h.elsewhere]
    · exact Free.file?_eq_none hg' (hprovider ▸ hfree) hf'
    · exact (Free.apart_of_mem hg' (hprovider ▸ hfree) hf').symm
    · intro f hf hland
      have hpath := path_eq_of_landing_eq hg hg' hprovider hf hf' hland
      have hnot := hnew f hf
      rw [hpath] at hnot
      exact absurd (beq_self_eq_true _) (Bool.eq_false_iff.1 hnot)

/-- What stands at the place of a file of the next generation was generated. -/
theorem Stands.exists_path_eq (h : P.Stands appName t0 t g) (hfree : P.Free t0 g.selection.provider)
    {f' : Artifact} (hf' : f' ∈ g'.artifacts)
    (hread : t.read (f'.target P.root) = .ok f'.content) : ∃ f ∈ g.artifacts, f.path = f'.path := by
  by_contra hnone
  have hfile := FileTree.file?_eq_some_iff.2 (FileTree.get?_landing_of_read hread)
  rw [FileTree.landing_congr h.current, h.elsewhere] at hfile
  · rw [Free.file?_eq_none hg' (hprovider ▸ hfree) hf'] at hfile
    cases hfile
  · exact (Free.apart_of_mem hg' (hprovider ▸ hfree) hf').symm
  · intro f hf hland
    exact hnone ⟨f, hf, path_eq_of_landing_eq hg hg' hprovider hf hf' hland⟩

end Generations

/-! ## After writing -/

/-- A project stands once the files that did not stand are written, and then the selection. -/
theorem Stands.of_wrote {cs : List Artifact} {saved : SavedSelection}
    (hg : P.make raw appName = .ok g) (hfree : P.Free t0 g.selection.provider)
    (hwrote : Wrote t (Artifact.writes P.root cs ++ [(SavedSelection.path P.root, saved.print)]) t')
    (hreads : SavedSelection.ofText? saved.print = some saved) (hname : saved.appName = appName)
    (hselection : saved.selection = g.selection.toRaw) (hcs : ∀ f ∈ cs, f ∈ g.artifacts)
    (hcurrent : t.current = t0.current)
    (hheld : ∀ f ∈ g.artifacts, f ∉ cs → t.read (f.target P.root) = .ok f.content)
    (helsewhere : ∀ q, q ≠ t0.landing (SavedSelection.path P.root) →
      (∀ f ∈ g.artifacts, t0.landing (f.target P.root) ≠ q) → t.file? q = t0.file? q) :
    P.Stands appName t0 t' g where
  current := hwrote.current.trans hcurrent
  saved := ⟨saved, SavedSelection.load_of_wrote hwrote hreads, hname, hselection⟩
  made := make_toRaw hg
  held f hf := by
    refine Artifact.read_of_wrote hwrote hcs (fun a ha b hb => eq_of_landing_eq hg ha hb)
      (fun a ha => ?_) hheld hf
    rw [FileTree.landing_congr hcurrent, FileTree.landing_congr hcurrent]
    exact hfree.apart_of_mem hg ha
  elsewhere {q} hq hfiles := by
    rw [Artifact.file?_of_wrote hwrote hcs, helsewhere q hq hfiles]
    · intro f hf
      rw [FileTree.landing_congr hcurrent]
      exact hfiles f hf
    · rw [FileTree.landing_congr hcurrent]
      exact hq.symm

/-! ## Init -/

/-- A run of `init` that is to generate the project where nothing was generated before, and is not
stopped by a file. -/
structure Starts (P : Project) (i : InitArgs) (now : Timestamp) (t : FileTree) : Prop where
  root : i.root t = P.root
  config : i.config.load t P.root = .ok P.config
  catalogue : loadCatalogue t P.root P.config = .ok P.catalogue
  free {s : Selection} : P.catalogue.resolve i.selection.toRaw = .ok s → P.Free t s.provider
  dryRun : i.dryRun = false
  readable : i.SavesReadably now t
  works {activity : Activity} {e : FileError} :
    (i.run now t).result ≠ .error (.store activity (.file e))

section Init

variable {i : InitArgs} {now : Timestamp}

theorem make_of_prepare (hconfig : i.config.load t P.root = .ok P.config)
    (hc : loadCatalogue t P.root P.config = .ok P.catalogue) (hg : i.prepare t P.root = .ok g) :
    P.make i.selection.toRaw i.appName = .ok g := by
  obtain ⟨-, config, c, hconfig', hc', hmake⟩ := InitArgs.prepare_eq_ok_iff.1 hg
  rw [hconfig] at hconfig'
  cases hconfig'
  rw [hc] at hc'
  cases hc'
  exact hmake

theorem Stands.of_init (h : P.Starts i now t0) (hok : (i.run now t0).result = .ok ()) :
    ∃ g, i.prepare t0 P.root = .ok g ∧ P.make i.selection.toRaw i.appName = .ok g ∧
      P.Stands i.appName t0 (i.run now t0).tree g := by
  have hstep := i.step_run now t0
  rw [hok] at hstep
  generalize (i.run now t0).tree = t' at hstep
  cases hstep with
  | shown hdry =>
    rw [h.dryRun] at hdry
    cases hdry
  | @generated g _ hprepare hwrote =>
    have hreads := h.readable g hprepare
    rw [h.root] at hprepare hwrote
    have hg := make_of_prepare h.config h.catalogue hprepare
    refine ⟨g, hprepare, hg, .of_wrote hg (h.free (Generation.resolve_of_make hg)) hwrote hreads rfl
      rfl (fun _ hf => hf) rfl (fun f hf hnot => absurd hf hnot) fun _ _ _ => rfl⟩

end Init

/-! ## Add -/

/-- A run of `add` on the project that is not stopped by a file. -/
structure Admits (P : Project) (a : AddArgs) (now : Timestamp) (t : FileTree) : Prop where
  root : a.root t = P.root
  config : a.config.load t P.root = .ok P.config
  catalogue : loadCatalogue t P.root P.config = .ok P.catalogue
  readable : a.SavesReadably now t
  works {activity : Activity} {e : FileError} :
    (a.run now t).result ≠ .error (.store activity (.file e))

section Add

variable {a : AddArgs} {now : Timestamp}

/-- A run on a standing project is prepared from what the project was generated from. -/
theorem Stands.prepare_eq (h : P.Stands appName t0 t g)
    (hconfig : a.config.load t P.root = .ok P.config)
    (hc : loadCatalogue t P.root P.config = .ok P.catalogue) :
    ∃ saved : SavedSelection, saved.appName = appName ∧
      a.prepare t P.root = (P.make (g.selection.toRaw.addHooks [a.target.hook]) appName).map
        fun g' => (saved, g', g.artifacts) := by
  obtain ⟨saved, hload, hname, hselection⟩ := h.saved
  have hprevious : Generation.filesOf
      (Generation.make P.catalogue saved.selection saved.appName P.config) = g.artifacts := by
    have hmade : Generation.make P.catalogue g.selection.toRaw appName P.config = .ok g := h.made
    rw [hname, hselection, hmade]
    rfl
  refine ⟨saved, hname, ?_⟩
  unfold make
  rw [← hselection, ← hname]
  cases hmake : Generation.make P.catalogue (saved.selection.addHooks [a.target.hook]) saved.appName
      P.config with
  | ok g' =>
    exact AddArgs.prepare_eq_ok_iff.2
      ⟨hload, P.config, P.catalogue, hconfig, hc, hmake, hprevious⟩
  | error e =>
    unfold AddArgs.prepare
    rw [hload, hconfig]
    show (loadCatalogue t P.root P.config >>= _) = _
    rw [hc]
    show (Generation.make _ _ _ _ >>= _) = _
    rw [hmake]
    rfl

/-! What a run makes of a standing project whose selection can be extended by the hook. -/

section Extended

variable (h : P.Stands appName t0 t g) (hfree : P.Free t0 g.selection.provider)
  (hmake : P.make (g.selection.toRaw.addHooks [a.target.hook]) appName = .ok g')
include h hmake

theorem Stands.extendedBy : g.selection.ExtendedBy [a.target.hook] g'.selection :=
  Catalogue.extendedBy_of_resolve (Generation.resolve_of_make h.made)
    (Generation.resolve_of_make hmake) fun _ hv => List.mem_singleton.1 hv ▸ a.target.isChoice_hook

include hfree

theorem Stands.kept_extended : Artifact.Kept t P.root g.artifacts g'.artifacts :=
  h.kept h.made hmake (h.extendedBy hmake).provider_eq hfree

/-- If nothing has to be written the workflow of the hook stands, so it was generated before. -/
theorem Stands.hook_mem_of_upToDate {force : Bool}
    (hchanged : Artifact.changed t P.root g.artifacts force g'.artifacts = .ok []) :
    a.target.hook ∈ g.selection.hooks := by
  have hext := h.extendedBy hmake
  obtain ⟨f', hf', hpath⟩ := (a.target.mem_hooks_iff hmake).1
    (hext.hooks.2 (.inr (List.mem_singleton_self _)))
  have hread := (h.kept_extended hfree hmake).read_of_notMem hchanged hf' List.not_mem_nil
  obtain ⟨f, hf, hsame⟩ := h.exists_path_eq h.made hmake hext.provider_eq hfree hf' hread
  exact (a.target.mem_hooks_iff h.made).2 ⟨f, hf, hsame.trans hpath⟩

/-- Once what has changed is written, and then the selection, the extended project stands. -/
theorem Stands.extend {force : Bool} {cs : List Artifact} {saved : SavedSelection}
    (hchanged : Artifact.changed t P.root g.artifacts force g'.artifacts = .ok cs)
    (hwrote : Wrote t (Artifact.writes P.root cs ++ [(SavedSelection.path P.root, saved.print)]) t')
    (hreads : SavedSelection.ofText? saved.print = some saved) (hname : saved.appName = appName)
    (hselection : saved.selection = g'.selection.toRaw) : P.Stands appName t0 t' g' := by
  have hext := h.extendedBy hmake
  refine .of_wrote hmake (hext.provider_eq ▸ hfree) hwrote hreads hname hselection
    (fun f hf => (Artifact.mem_changed hchanged hf).1) h.current
    (fun f hf hnot => (h.kept_extended hfree hmake).read_of_notMem hchanged hf hnot)
    fun q hq hfiles => h.elsewhere hq fun f hf => ?_
  obtain ⟨f', hf', hpath⟩ := Generation.exists_path_eq h.made hmake hext.provider_eq
    (fun hook hhook => hext.hooks.2 (.inl hhook)) hf
  unfold Artifact.target
  rw [← hpath]
  exact hfiles f' hf'

end Extended

/-- How a run on a standing project ends. A run that leaves it alone does so at most because of the
selection, and does not say that it succeeded unless the project has the hook. -/
inductive Next (P : Project) (appName : String) (t0 t : FileTree) (g : Generation) (a : AddArgs) :
    Except CommandError Unit → FileTree → Prop
  | kept {r : Except CommandError Unit} :
      (∀ (activity : Activity) (e : StoreError), r ≠ .error (.store activity e)) →
      (r = .ok () → a.dryRun = true ∨ a.target.hook ∈ g.selection.hooks) →
      Next P appName t0 t g a r t
  | extended {t' : FileTree} {g' : Generation} : a.dryRun = false →
      g.selection.ExtendedBy [a.target.hook] g'.selection → P.Stands appName t0 t' g' →
      Next P appName t0 t g a (.ok ()) t'

/-- Such a run is not refused because of a file. -/
theorem Next.ne_store {r : Except CommandError Unit} (h : P.Next appName t0 t g a r t')
    (activity : Activity) (e : StoreError) : r ≠ .error (.store activity e) := by
  cases h with
  | kept hnot => exact hnot activity e
  | extended => exact fun h => nomatch h

theorem Next.tree_eq {r : Except CommandError Unit} (h : P.Next appName t0 t g a r t')
    (hr : r ≠ .ok ()) : t' = t := by
  cases h with
  | kept => rfl
  | extended => exact absurd rfl hr

theorem Stands.next_run (h : P.Stands appName t0 t g) (hfree : P.Free t0 g.selection.provider)
    (ha : P.Admits a now t) : P.Next appName t0 t g a (a.run now t).result (a.run now t).tree := by
  obtain ⟨saved, hname, hprepare⟩ := h.prepare_eq ha.config ha.catalogue
  have hworks := @ha.works
  have hreadable := ha.readable
  unfold AddArgs.SavesReadably at hreadable
  have hstep := a.step_run now t
  generalize (a.run now t).result = r, (a.run now t).tree = t' at hstep hworks
  rw [← ha.root] at hprepare
  cases hmake : P.make (g.selection.toRaw.addHooks [a.target.hook]) appName with
  | error e =>
    rw [hmake] at hprepare
    have herror : a.prepare t (a.root t) = .error e := hprepare
    cases hstep with
    | unprepared h' =>
      rw [herror] at h'
      cases h'
      refine .kept (fun activity se heq => ?_) fun h => nomatch h
      cases heq
      exact Generation.ne_store_of_make hmake activity se rfl
    | shown hdry => exact .kept (fun _ _ h => nomatch h) fun _ => .inl hdry
    | broken => exact absurd rfl hworks
    | refused h' | upToDate h' | added _ h' =>
      rw [herror] at h'
      cases h'
  | ok g' =>
    rw [hmake] at hprepare
    have hok : a.prepare t (a.root t) = .ok (saved, g', g.artifacts) := hprepare
    cases hstep with
    | unprepared h' =>
      rw [hok] at h'
      cases h'
    | shown hdry => exact .kept (fun _ _ h => nomatch h) fun _ => .inl hdry
    | broken => exact absurd rfl hworks
    | refused h' hchanged =>
      rw [hok] at h'
      cases h'
      rw [ha.root] at hchanged
      obtain ⟨fe, rfl⟩ := (h.kept_extended hfree hmake).error_of_changed hchanged
      exact absurd rfl hworks
    | upToDate h' hchanged =>
      rw [hok] at h'
      cases h'
      rw [ha.root] at hchanged
      exact .kept (fun _ _ h => nomatch h) fun _ => .inr (h.hook_mem_of_upToDate hfree hmake hchanged)
    | added hdry h' hchanged _ hwrote =>
      have hreads := hreadable _ _ _ h'
      rw [hok] at h'
      cases h'
      rw [ha.root] at hchanged hwrote
      exact .extended hdry (h.extendedBy hmake)
        (h.extend hfree hmake hchanged hwrote hreads hname rfl)

/-- Adding a hook that the project has succeeds and does nothing. -/
theorem Stands.run_of_mem (h : P.Stands appName t0 t g) (hroot : a.root t = P.root)
    (hconfig : a.config.load t P.root = .ok P.config)
    (hc : loadCatalogue t P.root P.config = .ok P.catalogue)
    (hhook : a.target.hook ∈ g.selection.hooks) :
    (a.run now t).result = .ok () ∧ (a.run now t).tree = t := by
  obtain ⟨saved, -, hprepare⟩ := h.prepare_eq hconfig hc
  have hsame : P.make (g.selection.toRaw.addHooks [a.target.hook]) appName = .ok g := by
    have hresolve := Generation.resolve_of_make h.made
    have hagain := Catalogue.resolve_toRaw_addHooks hresolve fun v hv =>
      List.mem_singleton.1 hv ▸ hhook
    exact (Generation.make_congr (hagain.trans hresolve.symm)).trans h.made
  rw [hsame, ← hroot] at hprepare
  refine AddArgs.run_of_changed_eq_nil hprepare ?_
  rw [hroot]
  exact Artifact.changed_eq_nil h.held

end Add

end Project

end PipeLoom
