import Mathlib.Data.List.Sublists
import PipeLoom.Proofs.Command.Enabled

/-!
# Histories of a project

After `init` and any runs of `add` the files of the saved selection stand, no run of `add` is
refused because of them, and how the hooks came into the selection does not show
(`Project.history_regenerates`).
-/

namespace PipeLoom

/-! ## Init with other hooks -/

/-- The value given for an axis that takes a single one. -/
def SelectionArgs.get? (a : SelectionArgs) : Axis → Option String
  | .language => a.language
  | .packageManager => a.packageManager
  | .framework => a.framework
  | .provider => a.provider
  | .service => a.service
  | .hooks => none

theorem SelectionArgs.toRaw_spec (a : SelectionArgs) : a.toRaw.Canonical ∧
    ∀ b, a.toRaw.listed b = if b = .hooks then a.hooks else (a.get? b).toList := by
  obtain ⟨hcanonical, hlisted⟩ := RawSelection.listed_foldl_all a.get?
  unfold toRaw
  simp only
  split
  · rename_i hhooks
    refine ⟨hcanonical, fun b => (hlisted b).trans ?_⟩
    by_cases hb : b = .hooks
    · subst hb
      exact (List.isEmpty_iff.1 hhooks).symm
    · rw [if_neg hb]
  · refine ⟨hcanonical.addHooks a.hooks, fun b => (RawSelection.listed_addHooks a.hooks).trans ?_⟩
    by_cases hb : b = .hooks
    · subst hb
      rw [if_pos rfl, if_pos rfl]
      exact congrArg (· ++ a.hooks) (hlisted .hooks)
    · rw [if_neg hb, if_neg hb]
      exact hlisted b

/-- Hooks that are given at once lead to the selection that they would join one by one. -/
theorem Catalogue.resolve_withHooks {c : Catalogue} {i : InitArgs} {s s' : Selection}
    {raw : RawSelection} {hooks hooks' : List String} (hs : c.resolve i.selection.toRaw = .ok s)
    (hs' : c.resolve raw = .ok s') (hext : s.ExtendedBy hooks' s')
    (hhooks : ∀ v, v ∈ hooks ↔ v ∈ i.selection.hooks ++ hooks') :
    c.resolve (i.withHooks hooks).selection.toRaw = .ok s' := by
  obtain ⟨hcanonical, hlisted⟩ := i.selection.toRaw_spec
  obtain ⟨hcanonical', hlisted'⟩ := (i.withHooks hooks).selection.toRaw_spec
  have hholds := holds_of_resolve hs
  refine resolve_of_given hs' hcanonical'.unknownKeys (fun a ha => ?_) fun v => ?_
  · rw [hext.values ha, hholds.single a ha, hcanonical.given, hcanonical'.given, hlisted, hlisted',
      if_neg ha, if_neg ha]
    rfl
  · have hchosen : RawSelection.choices hooks' = hooks' :=
      RawSelection.choices_eq_self fun w hw =>
        isChoice_of_resolve (a := .hooks) hs' (hext.hooks.2 (.inr hw))
    rw [hcanonical'.given, hlisted', if_pos rfl, hext.hooks, hholds.mem_hooks v,
      ← RawSelection.mem_given, hcanonical.given, hlisted, if_pos rfl]
    show v ∈ RawSelection.choices hooks ↔ _
    rw [RawSelection.mem_choices_congr hhooks, RawSelection.choices_append, hchosen,
      List.mem_append]

namespace Project

variable {P : Project} {appName : String} {t0 t t' : FileTree} {g g' : Generation}
  {targets targets' : List AddTarget}

/-- Runs of `add` one after the other, with the hooks that they added. A dry run adds none, nor does
a run that fails. -/
inductive Adds (P : Project) (t : FileTree) : List AddTarget → FileTree → Prop
  | none : Adds P t [] t
  | added {targets : List AddTarget} {t' : FileTree} {a : AddArgs} {now : Timestamp} :
      Adds P t targets t' → P.Admits a now t' → a.dryRun = false → (a.run now t').result = .ok () →
      Adds P t (targets ++ [a.target]) (a.run now t').tree
  | skipped {targets : List AddTarget} {t' : FileTree} {a : AddArgs} {now : Timestamp} :
      Adds P t targets t' → P.Admits a now t' →
      a.dryRun = true ∨ (a.run now t').result ≠ .ok () → Adds P t targets (a.run now t').tree

/-- A project goes on standing, with the hooks that were added. -/
theorem Stands.of_adds (h : P.Stands appName t0 t g) (hfree : P.Free t0 g.selection.provider)
    (hadds : P.Adds t targets t') :
    ∃ g', P.Stands appName t0 t' g' ∧
      g.selection.ExtendedBy (targets.map AddTarget.hook) g'.selection := by
  induction hadds with
  | none => exact ⟨g, h, .of_mem fun v hv => absurd hv List.not_mem_nil⟩
  | @added targets t' a now _ ha hdry hok ih =>
    obtain ⟨g1, h1, hext⟩ := ih
    have hnext := h1.next_run (hext.provider_eq ▸ hfree) ha
    rw [hok] at hnext
    generalize (a.run now t').tree = t2 at hnext
    rw [List.map_append]
    cases hnext with
    | kept _ hhas =>
      have hhook := (hhas rfl).resolve_left (by rw [hdry]; exact Bool.false_ne_true)
      exact ⟨g1, h1, hext.trans (.of_mem fun v hv => List.mem_singleton.1 hv ▸ hhook)⟩
    | extended _ hext' h2 => exact ⟨_, h2, hext.trans hext'⟩
  | @skipped targets t' a now _ ha hskip ih =>
    obtain ⟨g1, h1, hext⟩ := ih
    have hnext := h1.next_run (hext.provider_eq ▸ hfree) ha
    generalize (a.run now t').result = r, (a.run now t').tree = t2 at hnext hskip
    cases hnext with
    | kept => exact ⟨g1, h1, hext⟩
    | extended hdry =>
      rw [hdry] at hskip
      exact absurd rfl (hskip.resolve_left Bool.false_ne_true)

/-! ## Alike -/

/-- The trees have the same files and the same saved selection, but for its times. -/
structure Same (P : Project) (t t' : FileTree) : Prop where
  file? {q : Place} : q ≠ t.landing (SavedSelection.path P.root) → t'.file? q = t.file? q
  saved : ∃ s s', SavedSelection.load t P.root = .ok s ∧ SavedSelection.load t' P.root = .ok s' ∧
    s'.appName = s.appName ∧ s'.selection = s.selection

theorem Stands.file?_of_mem (h : P.Stands appName t0 t g) {f : Artifact} (hf : f ∈ g.artifacts) :
    t.file? (t0.landing (f.target P.root)) = some f.content := by
  rw [← FileTree.landing_congr h.current]
  exact FileTree.file?_eq_some_iff.2 (FileTree.get?_landing_of_read (h.held f hf))

/-- What stands as generated from one selection stands alike. -/
theorem Stands.same (h : P.Stands appName t0 t g) (h' : P.Stands appName t0 t' g')
    (hselection : g'.selection = g.selection) : P.Same t t' := by
  have hmade := h'.made
  rw [hselection, h.made] at hmade
  cases hmade
  obtain ⟨s, hload, hname, hs⟩ := h.saved
  obtain ⟨s', hload', hname', hs'⟩ := h'.saved
  refine ⟨fun {q} hq => ?_, s, s', hload, hload', hname'.trans hname.symm, hs'.trans hs.symm⟩
  rw [FileTree.landing_congr h.current] at hq
  by_cases hfile : ∃ f ∈ g.artifacts, t0.landing (f.target P.root) = q
  · obtain ⟨f, hf, rfl⟩ := hfile
    rw [h.file?_of_mem hf, h'.file?_of_mem hf]
  · have hfiles : ∀ f ∈ g.artifacts, t0.landing (f.target P.root) ≠ q := fun f hf hland =>
      hfile ⟨f, hf, hland⟩
    rw [h.elsewhere hq hfiles, h'.elsewhere hq hfiles]

/-- What a history comes to, `init` generates at once. -/
theorem Stands.init_withHooks {i : InitArgs} {now' : Timestamp} {hooks hooks' : List String}
    {gi : Generation} (hi : i.prepare t0 P.root = .ok gi)
    (hgi : P.make i.selection.toRaw i.appName = .ok gi) (h : P.Stands i.appName t0 t g)
    (hext : gi.selection.ExtendedBy hooks' g.selection)
    (hhooks : ∀ v, v ∈ hooks ↔ v ∈ i.selection.hooks ++ hooks')
    (hstart : P.Starts (i.withHooks hooks) now' t0) :
    ((i.withHooks hooks).run now' t0).result = .ok () ∧
      P.Same t ((i.withHooks hooks).run now' t0).tree := by
  have hresolve := Generation.resolve_of_make h.made
  have hwith := Catalogue.resolve_withHooks (Generation.resolve_of_make hgi) hresolve hext hhooks
  have hmake : P.make (i.withHooks hooks).selection.toRaw i.appName = .ok g :=
    (Generation.make_congr (hwith.trans hresolve.symm)).trans h.made
  have hprepare : (i.withHooks hooks).prepare t0 P.root = .ok g :=
    InitArgs.prepare_eq_ok_iff.2 ⟨(InitArgs.prepare_eq_ok_iff.1 hi).1, P.config, P.catalogue,
      hstart.config, hstart.catalogue, hmake⟩
  have hok : ((i.withHooks hooks).run now' t0).result = .ok () := by
    have hworks := @hstart.works
    have hstep := (i.withHooks hooks).step_run now' t0
    generalize ((i.withHooks hooks).run now' t0).result = r,
      ((i.withHooks hooks).run now' t0).tree = t1 at hstep hworks
    cases hstep with
    | shown => rfl
    | generated => rfl
    | broken => exact absurd rfl hworks
    | unprepared h' =>
      rw [hstart.root, hprepare] at h'
      cases h'
    | blocked h' hf hthere =>
      rw [hstart.root] at h' hthere
      rw [hprepare] at h'
      cases h'
      have hmem := Generation.path_mem_generatedPaths hmake hf
      have hfalse := Config.isThere_eq_false hmem ((hstart.free hwith).vacant _ hmem)
      rw [show t0.isThere (Artifact.target P.root _) = false from hfalse] at hthere
      cases hthere
  obtain ⟨g', hg', -, h'⟩ := Stands.of_init hstart hok
  rw [hprepare] at hg'
  cases hg'
  exact ⟨hok, h.same h' rfl⟩

/-! ## Histories -/

/-- Every file that the saved selection generates stands. -/
def Holds (P : Project) (t : FileTree) : Prop :=
  ∃ saved g, SavedSelection.load t P.root = .ok saved ∧
    P.make saved.selection saved.appName = .ok g ∧
    ∀ f ∈ g.artifacts, t.read (f.target P.root) = .ok f.content

theorem Stands.holds (h : P.Stands appName t0 t g) : P.Holds t := by
  obtain ⟨saved, hload, hname, hselection⟩ := h.saved
  have hmade := h.made
  rw [← hname, ← hselection] at hmade
  exact ⟨saved, g, hload, hmade, h.held⟩

theorem Stands.mem_hooks (h : P.Stands appName t0 t g) {hook : String}
    (hhook : P.catalogue.Enables t P.root hook) : hook ∈ g.selection.hooks := by
  obtain ⟨saved, hload, -, hselection⟩ := h.saved
  obtain ⟨saved', s, hload', hresolve, hmem⟩ := hhook
  rw [hload] at hload'
  cases hload'
  rw [hselection, Generation.resolve_of_make h.made] at hresolve
  cases hresolve
  exact hmem

/-- After `init`, where nothing was generated before, and any runs of `add`: the files of the saved
selection stand; another run is not refused because of a file, changes nothing if it fails, and
succeeds and changes nothing if the hook is saved; the same hooks added otherwise, or given to
`init`, lead to the same files and the same saved selection. -/
theorem history_regenerates {i : InitArgs} {now : Timestamp} (hstart : P.Starts i now t0)
    (hinit : (i.run now t0).result = .ok ()) (hadds : P.Adds (i.run now t0).tree targets t) :
    P.Holds t ∧
      (∀ (a : AddArgs) (now' : Timestamp), P.Admits a now' t →
        (∀ activity e, (a.run now' t).result ≠ .error (.store activity e)) ∧
        ((a.run now' t).result ≠ .ok () → (a.run now' t).tree = t) ∧
        (P.catalogue.Enables t P.root a.target.hook →
          (a.run now' t).result = .ok () ∧ (a.run now' t).tree = t)) ∧
      (∀ targets' t', P.Adds (i.run now t0).tree targets' t' →
        (∀ x, x ∈ targets' ↔ x ∈ targets) → P.Same t t') ∧
      (∀ (hooks : List String) (now' : Timestamp),
        (∀ v, v ∈ hooks ↔ v ∈ i.selection.hooks ++ targets.map AddTarget.hook) →
        P.Starts (i.withHooks hooks) now' t0 →
        ((i.withHooks hooks).run now' t0).result = .ok () ∧
          P.Same t ((i.withHooks hooks).run now' t0).tree) := by
  obtain ⟨gi, hi, hgi, h0⟩ := Stands.of_init hstart hinit
  have hfree := hstart.free (Generation.resolve_of_make hgi)
  obtain ⟨g, h, hext⟩ := h0.of_adds hfree hadds
  refine ⟨h.holds, fun a now' ha => ?_, fun targets' t' hadds' hsame => ?_,
    fun hooks now' hhooks => h.init_withHooks hi hgi hext hhooks⟩
  · have hnext := h.next_run (hext.provider_eq ▸ hfree) ha
    exact ⟨hnext.ne_store, hnext.tree_eq, fun hhook =>
      h.run_of_mem ha.root ha.config ha.catalogue (h.mem_hooks hhook)⟩
  · obtain ⟨g', h', hext'⟩ := h0.of_adds hfree hadds'
    refine h.same h' (Catalogue.eq_of_extendedBy (Generation.resolve_of_make h'.made)
      (Generation.resolve_of_make h.made) hext' hext fun v => ?_)
    simp only [List.mem_map, hsame]

end Project

/-! ## A history of one run -/

namespace goProject

theorem exists_generation : ∃ g, generation hotfixSelection = .ok g ∧
    g.selection = hotfixSelection := by
  obtain ⟨g, -, hmake, -⟩ := Project.Stands.of_init staleTree.starts_hotfix
    staleTree.save_run_hotfix.1
  have hselection : Except.ok g.selection = Except.ok hotfixSelection :=
    (Generation.resolve_of_make hmake).symm.trans resolve_hotfixArgs
  exact ⟨g, (Generation.make_of_resolve resolve_hotfixArgs "shop" .default).symm.trans hmake,
    Except.ok.inj hselection⟩

section Add

variable {hooks : List String} {s : Selection} {t : FileTree}
  (hs : Catalogue.builtin.resolve (goArgs.withHooks hooks).selection.toRaw = .ok s)
  (hadd : Catalogue.builtin.resolve (s.toRaw.addHooks ["hotfix"]) = .ok hotfixSelection)
  (hstart : goProject.Starts (goArgs.withHooks hooks) noon emptyTree)
  (hok : ((goArgs.withHooks hooks).run noon emptyTree).result = .ok ())
  (ht : ((goArgs.withHooks hooks).run noon emptyTree).tree = t)
  (hconfig : t.isThere (Config.path goProject.root) = false)
include hs hadd hstart hok ht hconfig

/-- Adding the hook starts from what was generated. -/
theorem prepare_addHotfix : ∃ g g', goProject.Stands "shop" emptyTree t g ∧
    g.selection = s ∧ addHotfix.root t = goProject.root ∧
    generation hotfixSelection = .ok g' ∧ g'.selection = hotfixSelection ∧
    addHotfix.prepare t (addHotfix.root t) = .ok (.new "shop" s.toRaw noon, g', g.artifacts) := by
  subst ht
  obtain ⟨g, hg, hmake, hstands⟩ := Project.Stands.of_init hstart hok
  obtain ⟨g1, hg1, hload⟩ := InitArgs.load_of_run hstart.dryRun hstart.readable hok
  rw [hstart.root] at hg1 hload
  rw [hg] at hg1
  cases hg1
  have hselection : Except.ok g.selection = Except.ok s :=
    (Generation.resolve_of_make hmake).symm.trans hs
  have hmade := hstands.made
  rw [Except.ok.inj hselection] at hload hmade
  obtain ⟨g', hg', hselection'⟩ := exists_generation
  refine ⟨g, g', hstands, Except.ok.inj hselection, currentPath_eq hstands.current, hg',
    hselection', ?_⟩
  have hprevious :
      Generation.filesOf (Generation.make .builtin s.toRaw "shop" .default) = g.artifacts := by
    have hmade : Generation.make .builtin s.toRaw "shop" .default = .ok g := hmade
    rw [hmade]
    rfl
  rw [show addHotfix.root _ = goProject.root from currentPath_eq hstands.current]
  exact AddArgs.prepare_eq_ok_iff.2 ⟨hload, .default, .builtin, load_config hconfig,
    load_catalogue _, (Generation.make_of_resolve hadd "shop" .default).trans hg', hprevious⟩

theorem admits_addHotfix (hrun : (addHotfix.run noon t).result = .ok ()) :
    goProject.Admits addHotfix noon t := by
  obtain ⟨g, g', -, -, hroot, -, hg', hprepare⟩ := prepare_addHotfix hs hadd hstart hok ht hconfig
  refine ⟨hroot, load_config hconfig, load_catalogue t, fun saved g1 previous h => ?_,
    fun {_ _} h => ?_⟩
  · rw [hprepare] at h
    cases h
    rw [hg']
    exact reads.2
  · rw [hrun] at h
    cases h

end Add

theorem resolve_plain :
    Catalogue.builtin.resolve (goArgs.withHooks []).selection.toRaw = .ok goSelection :=
  resolve_goArgs

def files (s : Selection) : List Artifact := Generation.filesOf (generation s)

def plainTree : FileTree := (goArgs.run noon emptyTree).tree

/-- Rewriting with this, and not by unfolding, keeps the run from being evaluated again. -/
theorem tree_plain : (goArgs.run noon emptyTree).tree = plainTree := rfl

theorem run_plain :
    (goArgs.run noon emptyTree).result = .ok () ∧
      plainTree.isThere (Config.path goProject.root) = false ∧
      (∀ f ∈ files hotfixSelection, (plainTree.read (f.target goProject.root)).isOk = true ∨
        plainTree.read (f.target goProject.root) = .error .notFound) ∧
      ∀ fs ∈ (files hotfixSelection).sublists,
        (Artifact.writeAll plainTree goProject.root fs true).1.isOk = true ∧
        (SavedSelection.save (Artifact.writeAll plainTree goProject.root fs true).2 goProject.root
          (.new "shop" hotfixSelection.toRaw noon)).1 = .ok () := by
  have hroot : goArgs.root emptyTree = goProject.root := goProject.currentPath_eq rfl
  have hprepare : goArgs.prepare emptyTree goProject.root = generation goSelection :=
    prepare_withHooks resolve_plain
  rw [← tree_plain]
  rw [InitArgs.run_eq, hroot, hprepare]
  decide +kernel

theorem starts_plain : goProject.Starts goArgs noon emptyTree :=
  starts resolve_plain rfl reads.1 run_plain.1

theorem resolve_addHooks :
    Catalogue.builtin.resolve (goSelection.toRaw.addHooks ["hotfix"]) = .ok hotfixSelection := by
  have hraw : goSelection.toRaw.addHooks ["hotfix"] =
      (goArgs.withHooks ["hotfix"]).selection.toRaw := by decide +kernel
  rw [hraw]
  exact resolve_hotfixArgs

theorem result_addHotfix : (addHotfix.run noon plainTree).result = .ok () := by
  obtain ⟨hok, hconfig, hreads, hwrites⟩ := run_plain
  obtain ⟨g, g', hstands, hselection, hroot, hg', hselection', hprepare⟩ :=
    prepare_addHotfix (t := plainTree) resolve_plain resolve_addHooks starts_plain hok
      tree_plain hconfig
  have hfiles : files hotfixSelection = g'.artifacts := by
    unfold files
    rw [hg']
    rfl
  rw [hfiles] at hreads hwrites
  have hmake : goProject.make (goSelection.toRaw.addHooks ["hotfix"]) "shop" = .ok g' :=
    (Generation.make_of_resolve resolve_addHooks "shop" .default).trans hg'
  have hprovider : g'.selection.provider = g.selection.provider := by
    rw [hselection, hselection']
    rfl
  have hkept := hstands.kept hstands.made hmake hprovider
    (hselection ▸ starts_plain.free resolve_goArgs)
  obtain ⟨cs, hchanged⟩ := hkept.exists_changed false fun f hf e he => by
    rcases hreads f hf with hread | hread
    · rw [he] at hread
      cases hread
    · rw [he] at hread
      cases hread
      rfl
  obtain ⟨hwritten, hsaved⟩ := hwrites cs (List.mem_sublists.2 (Artifact.changed_sublist hchanged))
  rw [← hroot] at hchanged hwritten hsaved
  rw [← hselection'] at hsaved
  exact AddArgs.result_of_written hprepare hchanged hwritten hsaved

def hotfixTree : FileTree := ((goArgs.withHooks ["hotfix"]).run noon emptyTree).tree

theorem tree_hotfix : ((goArgs.withHooks ["hotfix"]).run noon emptyTree).tree = hotfixTree := rfl

theorem resolve_again :
    Catalogue.builtin.resolve (hotfixSelection.toRaw.addHooks ["hotfix"]) = .ok hotfixSelection :=
  Catalogue.resolve_toRaw_addHooks resolve_hotfixArgs fun _ hv => hv

/-- The hook is there already. -/
theorem admits_again : goProject.Admits addHotfix noon hotfixTree ∧
    Catalogue.builtin.Enables hotfixTree goProject.root "hotfix" := by
  obtain ⟨hok, hconfig, -, -⟩ := staleTree.save_run_hotfix
  rw [tree_hotfix] at hconfig
  obtain ⟨g, g', hstands, hselection, hroot, -, -, hprepare⟩ :=
    prepare_addHotfix (t := hotfixTree) resolve_hotfixArgs resolve_again staleTree.starts_hotfix hok
      tree_hotfix hconfig
  have hhook : addHotfix.target.hook ∈ g.selection.hooks := by
    rw [hselection]
    exact List.mem_singleton_self _
  have hrun : (addHotfix.run noon hotfixTree).result = .ok () :=
    (hstands.run_of_mem hroot (load_config hconfig) (load_catalogue hotfixTree) hhook).1
  obtain ⟨hload, -⟩ := AddArgs.prepare_eq_ok_iff.1 hprepare
  rw [hroot] at hload
  exact ⟨admits_addHotfix resolve_hotfixArgs resolve_again staleTree.starts_hotfix hok tree_hotfix
    hconfig hrun, _, hotfixSelection, hload, Catalogue.resolve_toRaw resolve_hotfixArgs,
    List.mem_singleton_self _⟩

end goProject

/-- Adding the hook and generating the project with it come to the same, and adding it again does
nothing. -/
theorem Project.history_regenerates_goProject :
    goProject.Starts goArgs noon emptyTree ∧ (goArgs.run noon emptyTree).result = .ok () ∧
      ∃ t, goProject.Adds (goArgs.run noon emptyTree).tree [.hotfix] t ∧ goProject.Holds t ∧
        goProject.Starts (goArgs.withHooks ["hotfix"]) noon emptyTree ∧
        goProject.Same t goProject.hotfixTree ∧
        goProject.Admits addHotfix noon goProject.hotfixTree ∧
        (addHotfix.run noon goProject.hotfixTree).tree = goProject.hotfixTree := by
  obtain ⟨hok, hconfig, -, -⟩ := goProject.run_plain
  have hrun := goProject.result_addHotfix
  have hadmits := goProject.admits_addHotfix goProject.resolve_plain goProject.resolve_addHooks
    goProject.starts_plain hok rfl hconfig hrun
  have hadds : goProject.Adds (goArgs.run noon emptyTree).tree [.hotfix]
      (addHotfix.run noon goProject.plainTree).tree := .added .none hadmits rfl hrun
  obtain ⟨hholds, -, -, hinit⟩ := history_regenerates goProject.starts_plain hok hadds
  obtain ⟨-, hagain, -, -⟩ := history_regenerates staleTree.starts_hotfix
    staleTree.save_run_hotfix.1 .none
  obtain ⟨hadmits', henables⟩ := goProject.admits_again
  exact ⟨goProject.starts_plain, hok, _, hadds, hholds, staleTree.starts_hotfix,
    (hinit ["hotfix"] noon (fun v => Iff.rfl) staleTree.starts_hotfix).2, hadmits',
    ((hagain addHotfix noon hadmits').2.2 henables).2⟩

end PipeLoom
