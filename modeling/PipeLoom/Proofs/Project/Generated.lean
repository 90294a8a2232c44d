import PipeLoom.Command.Generation
import PipeLoom.Proofs.File.Landing
import PipeLoom.Proofs.Pipeline.Composable
import PipeLoom.Proofs.Provider.Document

/-!
# Where generated files stand

A generation writes workflows, whose names end in `.yml`, and one provider document, whose name ends
in `.yaml`. So files for one provider land at one place only if they have one path
(`Config.eq_of_landing_eq`), and the files of one generation have distinct paths
(`Generation.eq_of_path_eq`). The workflow of a hook is among them if and only if the hook is
selected (`Generation.exists_workflow_iff`).
-/

namespace PipeLoom

/-! ## Paths -/

/-- The paths of the files that generating may write for a provider. -/
def Config.generatedPaths (config : Config) (provider : String) : List Path :=
  [WorkflowKind.main, .hotfix, .rollback].map (fun k => config.workflowDir.child k.fileName) ++
    [config.providerDir.child (provider ++ ".yaml")]

theorem WorkflowKind.getLast?_segments_fileName (k : WorkflowKind) :
    (Path.segments ⟨k.fileName⟩).getLast? = some k.fileName := by
  cases k <;> decide +kernel

theorem WorkflowKind.not_suffix_fileName (k : WorkflowKind) :
    ¬".yaml".toList <:+ k.fileName.toList := by
  cases k <;> decide +kernel

theorem WorkflowKind.fileName_proper (k : WorkflowKind) : k.fileName ≠ "." ∧ k.fileName ≠ ".." := by
  cases k <;> decide +kernel

theorem proper_of_suffix {last : String} (h : ".yaml".toList <:+ last.toList) :
    last ≠ "." ∧ last ≠ ".." := by
  constructor
  · rintro rfl
    exact absurd h (by decide +kernel)
  · rintro rfl
    exact absurd h (by decide +kernel)

section Landing

variable {t : FileTree} (root dir : Path)

theorem getLast?_segments_child {name last : String}
    (h : (Path.segments ⟨name⟩).getLast? = some last) :
    (root.join (dir.child name)).segments.getLast? = some last := by
  have hsuffix : Path.segments ⟨name⟩ <:+ (root.join (dir.child name)).segments :=
    (Path.segments_suffix_join dir ⟨name⟩).trans (Path.segments_suffix_join root _)
  obtain ⟨ss, hss⟩ := hsuffix
  obtain ⟨rs, hrs⟩ := List.getLast?_eq_some_iff.1 h
  rw [← hss, hrs, ← List.append_assoc]
  exact List.getLast?_concat

theorem getLast?_landing_workflow (k : WorkflowKind) :
    (t.landing (root.join (dir.child k.fileName))).getLast? = some k.fileName :=
  FileTree.getLast?_landing (getLast?_segments_child root dir k.getLast?_segments_fileName)
    k.fileName_proper.1 k.fileName_proper.2

theorem exists_getLast?_segments_provider (provider : String) :
    ∃ last, (root.join (dir.child (provider ++ ".yaml"))).segments.getLast? = some last ∧
      ".yaml".toList <:+ last.toList := by
  obtain ⟨last, hlast, hsuffix⟩ :=
    @Path.exists_getLast?_segments provider ".yaml" (by decide +kernel) (by decide)
  exact ⟨last, getLast?_segments_child root dir hlast, hsuffix⟩

theorem exists_getLast?_landing_provider (provider : String) :
    ∃ last, (t.landing (root.join (dir.child (provider ++ ".yaml")))).getLast? = some last ∧
      ".yaml".toList <:+ last.toList := by
  obtain ⟨last, hlast, hsuffix⟩ := exists_getLast?_segments_provider root dir provider
  obtain ⟨h1, h2⟩ := proper_of_suffix hsuffix
  exact ⟨last, FileTree.getLast?_landing hlast h1 h2, hsuffix⟩

theorem landing_workflow_injective {k l : WorkflowKind}
    (h : t.landing (root.join (dir.child k.fileName)) =
      t.landing (root.join (dir.child l.fileName))) : k = l := by
  have hlast := congrArg List.getLast? h
  rw [getLast?_landing_workflow, getLast?_landing_workflow] at hlast
  exact WorkflowKind.fileName_injective (Option.some.inj hlast)

theorem landing_workflow_ne_provider (k : WorkflowKind) (dir' : Path) (provider : String) :
    t.landing (root.join (dir.child k.fileName)) ≠
      t.landing (root.join (dir'.child (provider ++ ".yaml"))) := by
  intro h
  obtain ⟨last, hlast, hsuffix⟩ := exists_getLast?_landing_provider (t := t) root dir' provider
  rw [← h, getLast?_landing_workflow] at hlast
  cases hlast
  exact k.not_suffix_fileName hsuffix

theorem child_fileName_injective {k l : WorkflowKind}
    (h : dir.child k.fileName = dir.child l.fileName) : k = l :=
  landing_workflow_injective (t := ⟨[], []⟩) dir dir (h ▸ rfl)

theorem child_fileName_ne_provider (k : WorkflowKind) (dir' : Path) (provider : String) :
    dir.child k.fileName ≠ dir'.child (provider ++ ".yaml") := fun h =>
  landing_workflow_ne_provider (t := ⟨[], []⟩) dir dir k dir' provider (h ▸ rfl)

end Landing

namespace Config

variable {config : Config} {provider : String} {p q : Path}

theorem mem_generatedPaths : p ∈ config.generatedPaths provider ↔
    (∃ k : WorkflowKind, p = config.workflowDir.child k.fileName) ∨
      p = config.providerDir.child (provider ++ ".yaml") := by
  unfold generatedPaths
  rw [List.mem_append, List.mem_singleton, List.mem_map]
  refine or_congr ⟨fun ⟨k, _, h⟩ => ⟨k, h.symm⟩, fun ⟨k, h⟩ => ⟨k, ?_, h.symm⟩⟩ Iff.rfl
  cases k <;> decide

/-- Paths of generated files that land at one place are one path. -/
theorem eq_of_landing_eq {t : FileTree} {root : Path} (hp : p ∈ config.generatedPaths provider)
    (hq : q ∈ config.generatedPaths provider)
    (h : t.landing (root.join p) = t.landing (root.join q)) : p = q := by
  rcases mem_generatedPaths.1 hp with ⟨k, rfl⟩ | rfl <;>
    rcases mem_generatedPaths.1 hq with ⟨l, rfl⟩ | rfl
  · rw [landing_workflow_injective root _ h]
  · exact absurd h (landing_workflow_ne_provider root _ k _ _)
  · exact absurd h.symm (landing_workflow_ne_provider root _ l _ _)
  · rfl

/-- Nothing is found at the path of a generated file where nothing stands. -/
theorem isThere_eq_false {t : FileTree} {root : Path} (hp : p ∈ config.generatedPaths provider)
    (h : t.get? (t.landing (root.join p)) = none) : t.isThere (root.join p) = false := by
  rcases mem_generatedPaths.1 hp with ⟨k, rfl⟩ | rfl
  · exact FileTree.isThere_eq_false (getLast?_segments_child root _ k.getLast?_segments_fileName)
      k.fileName_proper.1 k.fileName_proper.2 h
  · obtain ⟨last, hlast, hsuffix⟩ := exists_getLast?_segments_provider root config.providerDir
      provider
    obtain ⟨h1, h2⟩ := proper_of_suffix hsuffix
    exact FileTree.isThere_eq_false hlast h1 h2 h

end Config

/-! ## Generations -/

theorem ProviderConfig.provider_of_ofSelection {c : Catalogue} {s : Selection} {appName : String}
    {p : ProviderConfig} (h : ofSelection c s appName = .ok p) : p.provider = s.provider :=
  (of_ofSelection h).2.1

theorem Catalogue.fragments_of_compose {c : Catalogue} {s : Selection} {p : Pipeline}
    (h : c.compose s = .ok p) : p.fragments = s.fragments := by
  obtain ⟨-, -, rfl⟩ := compose_eq_ok_iff_found.1 h
  rfl

namespace Generation

variable {c : Catalogue} {raw raw' : RawSelection} {appName : String} {config : Config}
  {g g' : Generation} {f f' : Artifact}

theorem make_eq_ok_iff : make c raw appName config = .ok g ↔
    ∃ s provider p, c.resolve raw = .ok s ∧ ProviderConfig.ofSelection c s appName = .ok provider ∧
      c.compose s = .ok p ∧ ⟨s, artifactsOf config appName p provider, p.warnings⟩ = g := by
  unfold make
  simp only [Except.bind_eq_ok_iff, Except.mapError_eq_ok_iff]
  constructor
  · rintro ⟨s, hs, provider, hprovider, p, hp, h⟩
    cases h
    exact ⟨s, provider, p, hs, hprovider, hp, rfl⟩
  · rintro ⟨s, provider, p, hs, hprovider, hp, rfl⟩
    exact ⟨s, hs, provider, hprovider, p, hp, rfl⟩

/-- A selection that is not generated is at fault, not a file. -/
theorem ne_store_of_make {e : CommandError} (h : make c raw appName config = .error e)
    (activity : Activity) (se : StoreError) : e ≠ .store activity se := by
  have hfails : FailsWith (fun e => ∀ activity se, e ≠ CommandError.store activity se)
      (make c raw appName config) := by
    unfold make
    refine .bind (.mapError fun _ _ _ _ h => nomatch h) fun _ _ => ?_
    refine .bind (.mapError fun _ _ _ _ h => nomatch h) fun _ _ => ?_
    exact .bind (.mapError fun _ _ _ _ h => nomatch h) fun _ _ => .ok
  exact hfails e h activity se

theorem resolve_of_make (h : make c raw appName config = .ok g) :
    c.resolve raw = .ok g.selection := by
  obtain ⟨s, provider, p, hs, -, -, rfl⟩ := make_eq_ok_iff.1 h
  exact hs

/-- What is made depends on the raw selection only by what that resolves to. -/
theorem make_congr (h : c.resolve raw' = c.resolve raw) :
    make c raw' appName config = make c raw appName config := by
  unfold make
  rw [h]

theorem mem_artifactsOf {p : Pipeline} {provider : ProviderConfig} :
    f ∈ artifactsOf config appName p provider ↔
      (∃ k ∈ p.workflowKinds, f = ⟨config.workflowDir.child k.fileName,
        { EmitOptions.new appName with emergencyMode := config.emergencyMode }.render p k⟩) ∨
      f = ⟨provider.pathIn config.providerDir, provider.print⟩ := by
  unfold artifactsOf EmitOptions.emit
  rw [List.mem_append, List.mem_singleton, List.map_map, List.mem_map]
  exact or_congr ⟨fun ⟨k, hk, h⟩ => ⟨k, hk, h.symm⟩, fun ⟨k, hk, h⟩ => ⟨k, hk, h.symm⟩⟩ Iff.rfl

theorem path_mem_generatedPaths (h : make c raw appName config = .ok g) (hf : f ∈ g.artifacts) :
    f.path ∈ config.generatedPaths g.selection.provider := by
  obtain ⟨s, provider, p, -, hprovider, -, rfl⟩ := make_eq_ok_iff.1 h
  rw [Config.mem_generatedPaths]
  rcases mem_artifactsOf.1 hf with ⟨k, -, rfl⟩ | rfl
  · exact .inl ⟨k, rfl⟩
  · have hname := ProviderConfig.provider_of_ofSelection hprovider
    exact .inr (congrArg (fun name => config.providerDir.child (name ++ ".yaml")) hname)

/-- The files of a generation have distinct paths. -/
theorem eq_of_path_eq (h : make c raw appName config = .ok g) (hf : f ∈ g.artifacts)
    (hf' : f' ∈ g.artifacts) (hpath : f.path = f'.path) : f = f' := by
  obtain ⟨s, provider, p, -, -, -, rfl⟩ := make_eq_ok_iff.1 h
  rcases mem_artifactsOf.1 hf with ⟨k, -, rfl⟩ | rfl <;>
    rcases mem_artifactsOf.1 hf' with ⟨l, -, rfl⟩ | rfl
  · rw [child_fileName_injective _ hpath]
  · exact absurd hpath (child_fileName_ne_provider _ k _ _)
  · exact absurd hpath.symm (child_fileName_ne_provider _ l _ _)
  · rfl

theorem hasHook_of_compose {s : Selection} {p : Pipeline} (h : c.compose s = .ok p)
    (hook : String) : p.hasHook hook = true ↔ hook ∈ s.hooks := by
  unfold Pipeline.hasHook
  rw [Catalogue.fragments_of_compose h, List.contains_iff_mem, Catalogue.mem_fragments]
  exact Iff.rfl

theorem mem_workflowKinds {p : Pipeline} {k : WorkflowKind} : k ∈ p.workflowKinds ↔
    k = .main ∨ (k = .hotfix ∧ p.hasHook "hotfix" = true) ∨
      (k = .rollback ∧ p.hasHook "rollback" = true) := by
  unfold Pipeline.workflowKinds
  cases p.hasHook "hotfix" <;> cases p.hasHook "rollback" <;> cases k <;> decide

/-- The workflow of a hook is generated if and only if the hook is selected. -/
theorem exists_workflow_iff (h : make c raw appName config = .ok g) {k : WorkflowKind} :
    (∃ f ∈ g.artifacts, f.path = config.workflowDir.child k.fileName) ↔
      k = .main ∨ (k = .hotfix ∧ "hotfix" ∈ g.selection.hooks) ∨
        (k = .rollback ∧ "rollback" ∈ g.selection.hooks) := by
  obtain ⟨s, provider, p, -, -, hp, rfl⟩ := make_eq_ok_iff.1 h
  rw [← hasHook_of_compose hp, ← hasHook_of_compose hp, ← mem_workflowKinds]
  constructor
  · rintro ⟨f, hf, hpath⟩
    rcases mem_artifactsOf.1 hf with ⟨l, hl, rfl⟩ | rfl
    · rwa [← child_fileName_injective _ hpath]
    · exact absurd hpath.symm (child_fileName_ne_provider _ k _ _)
  · intro hk
    exact ⟨_, mem_artifactsOf.2 (.inl ⟨k, hk, rfl⟩), rfl⟩

/-- A generation with more hooks has files at the same paths, and others if need be. -/
theorem exists_path_eq (h : make c raw appName config = .ok g)
    (h' : make c raw' appName config = .ok g')
    (hprovider : g'.selection.provider = g.selection.provider)
    (hhooks : ∀ hook ∈ g.selection.hooks, hook ∈ g'.selection.hooks) (hf : f ∈ g.artifacts) :
    ∃ f' ∈ g'.artifacts, f'.path = f.path := by
  obtain ⟨s, provider, p, -, hs, hp, rfl⟩ := make_eq_ok_iff.1 h
  obtain ⟨s', provider', p', -, hs', hp', rfl⟩ := make_eq_ok_iff.1 h'
  rcases mem_artifactsOf.1 hf with ⟨k, hk, rfl⟩ | rfl
  · have hk' : k ∈ p'.workflowKinds := by
      rw [mem_workflowKinds, hasHook_of_compose hp, hasHook_of_compose hp] at hk
      rw [mem_workflowKinds, hasHook_of_compose hp', hasHook_of_compose hp']
      exact hk.imp_right (Or.imp (And.imp_right (hhooks _)) (And.imp_right (hhooks _)))
    exact ⟨_, mem_artifactsOf.2 (.inl ⟨k, hk', rfl⟩), rfl⟩
  · refine ⟨_, mem_artifactsOf.2 (.inr rfl), ?_⟩
    have hname : provider'.provider = provider.provider := by
      rw [ProviderConfig.provider_of_ofSelection hs, ProviderConfig.provider_of_ofSelection hs']
      exact hprovider
    exact congrArg (fun name => config.providerDir.child (name ++ ".yaml")) hname

end Generation

end PipeLoom
