import PipeLoom.Proofs.Command.OwnerEdits
import PipeLoom.Proofs.Command.Standing
import PipeLoom.Proofs.Yaml.Written

/-!
# Enabled hooks

A run of `add` that has files to write saves a selection with the hook. A run that finds every file
as it should be says that the hook is enabled, but saves nothing: where the saved selection lacks
the hook, as after a run that could not save it, it goes on lacking it.
-/

namespace PipeLoom

/-- The saved selection resolves and has the hook. -/
def Catalogue.Enables (c : Catalogue) (t : FileTree) (root : Path) (hook : String) : Prop :=
  ∃ saved s, SavedSelection.load t root = .ok saved ∧ c.resolve saved.selection = .ok s ∧
    hook ∈ s.hooks

namespace AddArgs

variable {a : AddArgs} {now : Timestamp} {t : FileTree}

theorem writes_eq {saved : SavedSelection} {g : Generation} {previous changed : List Artifact}
    (hdry : a.dryRun = false) (h : a.prepare t (a.root t) = .ok (saved, g, previous))
    (hchanged : Artifact.changed t (a.root t) previous a.force g.artifacts = .ok changed) :
    a.writes now t = if changed = [] then [] else Artifact.writes (a.root t) changed ++
      [(SavedSelection.path (a.root t), (saved.update g.selection.toRaw now).print)] := by
  unfold writes
  rw [h]
  simp only [hdry, hchanged]
  cases changed <;> rfl

/-- A run that succeeds and has something to write saves a selection with the hook. Otherwise it
changes nothing, so that the hook is enabled only if it was enabled before. -/
theorem enables_iff (hdry : a.dryRun = false) (hok : (a.run now t).result = .ok ()) :
    ∃ config c, a.config.load t (a.root t) = .ok config ∧
      loadCatalogue t (a.root t) config = .ok c ∧
      (a.writes now t = [] → (a.run now t).tree = t) ∧
      (a.writes now t ≠ [] → ∃ (saved : SavedSelection) (s : Selection),
        (a.run now t).tree.read (SavedSelection.path (a.root t)) = .ok saved.print ∧
        c.resolve saved.selection = .ok s ∧ a.target.hook ∈ s.hooks) ∧
      (a.SavesReadably now t → (c.Enables (a.run now t).tree (a.root t) a.target.hook ↔
        a.writes now t ≠ [] ∨ c.Enables t (a.root t) a.target.hook)) := by
  have hstep := a.step_run now t
  rw [hok] at hstep
  generalize (a.run now t).tree = t' at hstep
  cases hstep with
  | shown h =>
    rw [hdry] at h
    cases h
  | upToDate hprepare hchanged =>
    obtain ⟨-, config, c, hconfig, hc, -⟩ := prepare_eq_ok_iff.1 hprepare
    have hnone : a.writes now t = [] := writes_eq hdry hprepare hchanged
    exact ⟨config, c, hconfig, hc, fun _ => rfl, fun h => absurd hnone h, fun _ => by simp [hnone]⟩
  | added _ hprepare hchanged hne hwrote =>
    obtain ⟨-, config, c, hconfig, hc, hmake, -⟩ := prepare_eq_ok_iff.1 hprepare
    have hsome : a.writes now t ≠ [] := by
      rw [writes_eq hdry hprepare hchanged, if_neg hne]
      exact List.append_ne_nil_of_right_ne_nil _ (List.cons_ne_nil _ _)
    have hresolve := Generation.resolve_of_make hmake
    have hagain := Catalogue.resolve_toRaw hresolve
    have hhook := Catalogue.hasHook_of_resolve_addHooks hresolve (List.mem_singleton_self _)
      a.target.isChoice_hook
    refine ⟨config, c, hconfig, hc, fun h => absurd h hsome, fun _ => ?_, fun hreads => ?_⟩
    · exact ⟨_, _, SavedSelection.read_of_wrote hwrote, hagain, hhook⟩
    · exact iff_of_true ⟨_, _, SavedSelection.load_of_wrote hwrote (hreads _ _ _ hprepare), hagain,
        hhook⟩ (.inl hsome)

end AddArgs

/-! ## A stale selection

The files of a project with the hotfix hook stand, but its saved selection is one without the hook.
-/

def goProject : Project := ⟨⟨"/"⟩, .default, .builtin⟩

def noon : Timestamp := ⟨2026, 1, 1, 12, 0, 0, 0⟩

def emptyTree : FileTree := ⟨[], []⟩

def hotfixSelection : Selection := { goSelection with hooks := ["hotfix"] }

theorem resolve_hotfixArgs : Catalogue.builtin.resolve
    (goArgs.withHooks ["hotfix"]).selection.toRaw = .ok hotfixSelection :=
  Catalogue.resolve_of_checks (by decide +kernel)

theorem SavedSelection.ofText?_print (s : SavedSelection) : ofText? s.print =
    (Yaml.Document.ofChars? s.toNode.chars).bind fun d => (read d).run' 0 := by
  rw [← Yaml.Node.ofText?_print]
  rfl

namespace goProject

/-- A tree without a configuration has the default one. -/
theorem load_config {t : FileTree} (h : t.isThere (Config.path goProject.root) = false) :
    ConfigArgs.load ⟨none, none⟩ t goProject.root = .ok goProject.config := by
  unfold ConfigArgs.load Config.load
  rw [h]
  simp only [Bool.not_false, if_true]
  rfl

/-- Nothing stands in the way of the project's first files. -/
theorem vacant_emptyTree :
    emptyTree.isThere (Config.path goProject.root) = false ∧
      emptyTree.isThere (SavedSelection.path goProject.root) = false ∧
      ∀ p ∈ goProject.config.generatedPaths "gcp",
        emptyTree.get? (emptyTree.landing (goProject.root.join p)) = none ∧
          emptyTree.landing (SavedSelection.path goProject.root) ≠
            emptyTree.landing (goProject.root.join p) := by
  decide +kernel

theorem load_config_emptyTree :
    ConfigArgs.load ⟨none, none⟩ emptyTree goProject.root = .ok goProject.config :=
  load_config vacant_emptyTree.1

theorem load_catalogue (t : FileTree) :
    loadCatalogue t goProject.root goProject.config = .ok goProject.catalogue :=
  loadCatalogue_eq_builtin rfl t goProject.root

/-- What generating a selection comes to. -/
def generation (s : Selection) : Except CommandError Generation := do
  let provider ← (ProviderConfig.ofSelection .builtin s "shop").mapError .provider
  let pipeline ← (Catalogue.builtin.compose s).mapError .uncomposable
  return ⟨s, Generation.artifactsOf .default "shop" pipeline provider, pipeline.warnings⟩

theorem currentPath_eq {t : FileTree} (h : t.current = []) : t.currentPath = goProject.root := by
  unfold FileTree.currentPath
  rw [h]
  rfl

section Init

variable {hooks : List String} {s : Selection}
  (hs : Catalogue.builtin.resolve (goArgs.withHooks hooks).selection.toRaw = .ok s)
include hs

theorem prepare_withHooks :
    (goArgs.withHooks hooks).prepare emptyTree goProject.root = generation s := by
  have hconfig : (goArgs.withHooks hooks).config.load emptyTree goProject.root =
      .ok goProject.config := load_config_emptyTree
  obtain ⟨-, hthere, -⟩ := vacant_emptyTree
  rw [InitArgs.prepare_eq_make hconfig hthere (load_catalogue emptyTree)]
  exact Generation.make_of_resolve hs "shop" .default

theorem starts (hprovider : s.provider = "gcp")
    (hreads : SavedSelection.ofText? (SavedSelection.new "shop" s.toRaw noon).print =
      some (SavedSelection.new "shop" s.toRaw noon))
    (hok : ((goArgs.withHooks hooks).run noon emptyTree).result = .ok ()) :
    goProject.Starts (goArgs.withHooks hooks) noon emptyTree := by
  have hroot : (goArgs.withHooks hooks).root emptyTree = goProject.root := currentPath_eq rfl
  have hconfig : (goArgs.withHooks hooks).config.load emptyTree goProject.root =
      .ok goProject.config := load_config_emptyTree
  refine ⟨hroot, hconfig, load_catalogue emptyTree, fun {s'} hs' => ?_, rfl, fun g hg => ?_,
    fun {_ _} h => ?_⟩
  · have heq : Except.ok s' = Except.ok s := hs'.symm.trans hs
    cases heq
    rw [hprovider]
    obtain ⟨-, -, hfree⟩ := vacant_emptyTree
    exact ⟨fun p hp => (hfree p hp).1, fun p hp => (hfree p hp).2⟩
  · rw [hroot] at hg
    have hmake := Project.make_of_prepare hconfig (load_catalogue emptyTree) hg
    have heq : Except.ok g.selection = Except.ok s :=
      (Generation.resolve_of_make hmake).symm.trans hs
    cases heq
    exact hreads
  · rw [hok] at h
    cases h

end Init

/-- What is saved of either project can be read. -/
theorem reads :
    SavedSelection.ofText? (SavedSelection.new "shop" goSelection.toRaw noon).print =
      some (SavedSelection.new "shop" goSelection.toRaw noon) ∧
    SavedSelection.ofText? (SavedSelection.new "shop" hotfixSelection.toRaw noon).print =
      some (SavedSelection.new "shop" hotfixSelection.toRaw noon) := by
  rw [SavedSelection.ofText?_print, SavedSelection.ofText?_print]
  constructor <;> decide +kernel

end goProject

def addHotfix : AddArgs := ⟨.hotfix, none, false, false, ⟨none, none⟩⟩

def staleTree : FileTree :=
  (SavedSelection.save ((goArgs.withHooks ["hotfix"]).run noon emptyTree).tree goProject.root
    (.new "shop" goSelection.toRaw noon)).2

namespace staleTree

/-- Rewriting with this, and not by unfolding, keeps the run from being evaluated again. -/
theorem eq_save : staleTree = (SavedSelection.save
    ((goArgs.withHooks ["hotfix"]).run noon emptyTree).tree goProject.root
      (.new "shop" goSelection.toRaw noon)).2 := rfl

theorem save_run_hotfix :
    ((goArgs.withHooks ["hotfix"]).run noon emptyTree).result = .ok () ∧
      ((goArgs.withHooks ["hotfix"]).run noon emptyTree).tree.isThere
        (Config.path goProject.root) = false ∧
      (SavedSelection.save ((goArgs.withHooks ["hotfix"]).run noon emptyTree).tree goProject.root
        (.new "shop" goSelection.toRaw noon)).1 = .ok () ∧
      staleTree.isThere (Config.path goProject.root) = false := by
  have hroot : (goArgs.withHooks ["hotfix"]).root emptyTree = goProject.root :=
    goProject.currentPath_eq rfl
  rw [eq_save, InitArgs.run_eq, hroot, goProject.prepare_withHooks resolve_hotfixArgs]
  decide +kernel

/-- The project with the hook. -/
theorem starts_hotfix : goProject.Starts (goArgs.withHooks ["hotfix"]) noon emptyTree :=
  goProject.starts resolve_hotfixArgs rfl goProject.reads.2 save_run_hotfix.1

theorem wrote : FileTree.Wrote ((goArgs.withHooks ["hotfix"]).run noon emptyTree).tree
    [(SavedSelection.path goProject.root, (SavedSelection.new "shop" goSelection.toRaw noon).print)]
    staleTree := by
  have hok := save_run_hotfix.2.2.1
  rw [eq_save]
  rcases hsave : SavedSelection.save ((goArgs.withHooks ["hotfix"]).run noon emptyTree).tree
    goProject.root (.new "shop" goSelection.toRaw noon) with ⟨r, t⟩
  rw [hsave] at hok
  cases hok
  exact SavedSelection.wrote_of_save hsave

theorem root_addHotfix : addHotfix.root staleTree = goProject.root := by
  obtain ⟨g, -, -, hstands⟩ := Project.Stands.of_init starts_hotfix save_run_hotfix.1
  exact goProject.currentPath_eq (wrote.current.trans hstands.current)

/-- A run that adds the hook finds the files as they should be. -/
theorem prepare_addHotfix : ∃ g previous, g.selection = hotfixSelection ∧
    addHotfix.prepare staleTree (addHotfix.root staleTree) =
      .ok (.new "shop" goSelection.toRaw noon, g, previous) ∧
    Artifact.changed staleTree (addHotfix.root staleTree) previous false g.artifacts = .ok [] := by
  obtain ⟨g, -, hmake, hstands⟩ := Project.Stands.of_init starts_hotfix save_run_hotfix.1
  have hwrote := wrote
  have hselection : Except.ok g.selection = Except.ok hotfixSelection :=
    (Generation.resolve_of_make hmake).symm.trans resolve_hotfixArgs
  have hload : SavedSelection.load staleTree goProject.root =
      .ok (.new "shop" goSelection.toRaw noon) :=
    @SavedSelection.load_of_wrote _ _ [] _ _ hwrote goProject.reads.1
  have hraw : goSelection.toRaw.addHooks ["hotfix"] =
      (goArgs.withHooks ["hotfix"]).selection.toRaw := rfl
  rw [← hraw] at hmake
  rw [root_addHotfix]
  refine ⟨g, _, Except.ok.inj hselection, AddArgs.prepare_eq_ok_iff.2 ⟨hload, .default, .builtin,
    goProject.load_config save_run_hotfix.2.2.2, goProject.load_catalogue staleTree, hmake, rfl⟩,
    Artifact.changed_eq_nil fun f hf => ?_⟩
  refine hwrote.read_of_untouched (hstands.held f hf) fun w hw => ?_
  rw [List.mem_singleton.1 hw, FileTree.landing_congr hstands.current,
    FileTree.landing_congr hstands.current]
  exact (starts_hotfix.free (Generation.resolve_of_make hmake)).apart_of_mem hmake hf

end staleTree

namespace AddArgs

theorem enables_iff_staleTree :
    (addHotfix.run noon staleTree).result = .ok () ∧ addHotfix.SavesReadably noon staleTree ∧
      (addHotfix.run noon staleTree).tree = staleTree ∧
      ¬Catalogue.builtin.Enables (addHotfix.run noon staleTree).tree (addHotfix.root staleTree)
        "hotfix" := by
  obtain ⟨g, previous, hg, hprepare, hchanged⟩ := staleTree.prepare_addHotfix
  have hok : (addHotfix.run noon staleTree).result = .ok () :=
    (run_of_changed_eq_nil hprepare hchanged).1
  have hreads : addHotfix.SavesReadably noon staleTree := by
    intro saved g' previous' h
    rw [hprepare] at h
    cases h
    rw [hg]
    exact goProject.reads.2
  have hnone : addHotfix.writes noon staleTree = [] := writes_eq rfl hprepare hchanged
  obtain ⟨config, c, hconfig, hc, htree, -, henables⟩ := enables_iff rfl hok
  have henables := henables hreads
  obtain ⟨hload, -⟩ := prepare_eq_ok_iff.1 hprepare
  rw [staleTree.root_addHotfix] at hconfig hc hload henables ⊢
  have heq : Except.ok config = Except.ok goProject.config :=
    hconfig.symm.trans (goProject.load_config staleTree.save_run_hotfix.2.2.2)
  cases heq
  have heq : Except.ok c = Except.ok Catalogue.builtin :=
    hc.symm.trans (goProject.load_catalogue staleTree)
  cases heq
  refine ⟨hok, hreads, htree hnone, fun h => ?_⟩
  rcases henables.1 h with hsome | ⟨saved, s, hload', hresolve, hhook⟩
  · exact hsome hnone
  · rw [hload] at hload'
    cases hload'
    have heq : Except.ok s = Except.ok goSelection :=
      hresolve.symm.trans (Catalogue.resolve_toRaw resolve_goArgs)
    cases heq
    exact absurd hhook List.not_mem_nil

end AddArgs

end PipeLoom
