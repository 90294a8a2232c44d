import PipeLoom.Proofs.File.Below
import PipeLoom.Proofs.Project.Generated

/-!
# The directories of generated files

The files of a generation are apart from one another, and its workflows lie in the directory for
workflows. The provider document is named for the provider, whose value nothing restricts, so it lies
in its directory only if that value, read as a path, leads there
(`Generation.artifacts_lie_in_iff`).
-/

namespace PipeLoom

namespace Path

/-- The path of a name in a directory, as it is written. -/
structure LiesIn (p dir : Path) (name : String) : Prop where
  start : p.isAbsolute = dir.isAbsolute
  names : p.names = dir.names ++ [name]
  proper : name ≠ ".."

/-- Read from a directory, the path is that of a name in it. -/
def LeadsInto (q dir : Path) : Prop :=
  if q.isAbsolute then ∃ name, q.LiesIn dir name else ∃ name, q.names = [name] ∧ name ≠ ".."

/-- The paths differ and never lead to one place, wherever they are followed from. -/
structure Apart (p q : Path) : Prop where
  same : p.same q = false
  landing : ∀ (t : FileTree) (root : Path), t.landing (root.join p) ≠ t.landing (root.join q)

variable {p q dir : Path} {name : String}

theorem Apart.of_landing
    (h : ∀ (t : FileTree) (root : Path), t.landing (root.join p) ≠ t.landing (root.join q)) :
    p.Apart q where
  same := Bool.eq_false_iff.2 fun hsame =>
    h ⟨[], []⟩ ⟨""⟩ (FileTree.landing_join_of_same hsame ⟨""⟩)
  landing := h

theorem liesIn_join_iff (hq : q.isAbsolute = false) :
    (dir.join q).LiesIn dir name ↔ q.names = [name] ∧ name ≠ ".." := by
  constructor
  · rintro ⟨-, hnames, hproper⟩
    rw [join_names hq] at hnames
    exact ⟨List.append_cancel_left hnames, hproper⟩
  · rintro ⟨hnames, hproper⟩
    exact ⟨join_isAbsolute hq, by rw [join_names hq, hnames], hproper⟩

theorem exists_liesIn_join_iff : (∃ name, (dir.join q).LiesIn dir name) ↔ q.LeadsInto dir := by
  unfold LeadsInto
  split
  · rename_i habs
    rw [join_of_isAbsolute habs]
  · rename_i habs
    simp only [liesIn_join_iff (Bool.eq_false_iff.2 habs)]

/-- A text without slashes is the name of a file in the directory. -/
theorem liesIn_child (hslash : '/' ∉ name.toList) (hne : name ≠ "")
    (hproper : name ≠ "." ∧ name ≠ "..") (dir : Path) : (dir.child name).LiesIn dir name := by
  have hrelative : isAbsolute ⟨name⟩ = false :=
    beq_eq_false_iff_ne.2 fun h => hslash (List.mem_of_head? h)
  have hnames : names ⟨name⟩ = [name] := by
    unfold names
    rw [segments_of_name hslash hne, List.filter_cons, if_pos (bne_iff_ne.2 hproper.1),
      List.filter_nil]
  exact (liesIn_join_iff hrelative).2 ⟨hnames, hproper.2⟩

/-- What lies in a directory lands right below it, wherever the directory is. -/
theorem LiesIn.landing (h : p.LiesIn dir name) (t : FileTree) (root : Path) :
    t.landing (root.join p) = t.landing (root.join dir) ++ [name] := by
  have hdot : name ≠ "." := by
    rintro rfl
    exact p.dot_notMem_names (h.names ▸ List.mem_append_right _ List.mem_cons_self)
  have hfrom (here : Place) :
      FileTree.landingFrom here p = FileTree.landingFrom here dir ++ [name] := by
    unfold FileTree.landingFrom
    rw [h.start, h.names, FileTree.walk_append, FileTree.walk_name hdot h.proper]
    rfl
  rw [FileTree.landing_join, FileTree.landing_join, hfrom]

end Path

theorem WorkflowKind.liesIn_child (k : WorkflowKind) (dir : Path) :
    (dir.child k.fileName).LiesIn dir k.fileName := by
  have hslash : '/' ∉ k.fileName.toList := by cases k <;> decide +kernel
  have hne : k.fileName ≠ "" := by cases k <;> decide +kernel
  exact Path.liesIn_child hslash hne k.fileName_proper dir

theorem Pipeline.nodup_workflowKinds (p : Pipeline) : p.workflowKinds.Nodup := by
  unfold workflowKinds
  cases p.hasHook "hotfix" <;> cases p.hasHook "rollback" <;> decide

theorem ProviderConfig.liesIn_pathIn {document : ProviderConfig}
    (h : '/' ∉ document.provider.toList) (dir : Path) :
    (document.pathIn dir).LiesIn dir document.fileName := by
  have htext : document.fileName.toList = document.provider.toList ++ ".yaml".toList :=
    String.toList_append
  have hslash : '/' ∉ document.fileName.toList := by
    rw [htext, List.mem_append]
    exact not_or.2 ⟨h, by decide⟩
  have hsuffix : ".yaml".toList <:+ document.fileName.toList := ⟨_, htext.symm⟩
  have hne : document.fileName ≠ "" := by
    intro hempty
    exact absurd (hempty ▸ hsuffix) (by decide)
  exact Path.liesIn_child hslash hne (proper_of_suffix hsuffix) dir

/-! ## Generations -/

/-- How workflows are emitted. -/
def Config.emitOptions (config : Config) (appName : String) : EmitOptions :=
  { EmitOptions.new appName with emergencyMode := config.emergencyMode }

/-- What a generation is made from, and its files: the workflows in the order in which they are
emitted, then the provider document. -/
structure Generation.MadeFrom (g : Generation) (c : Catalogue) (appName : String) (config : Config)
    (p : Pipeline) (document : ProviderConfig) : Prop where
  composed : c.compose g.selection = .ok p
  made : ProviderConfig.ofSelection c g.selection appName = .ok document
  provider : document.provider = g.selection.provider
  service : document.serviceType = g.selection.service
  artifacts : g.artifacts =
    ((config.emitOptions appName).emit p).map
        (fun f => ⟨config.workflowDir.child f.fileName, f.content⟩) ++
      [⟨document.pathIn config.providerDir, document.print⟩]

namespace Generation

variable {c : Catalogue} {raw : RawSelection} {appName : String} {config : Config} {g : Generation}

theorem exists_madeFrom (h : make c raw appName config = .ok g) :
    ∃ p document, g.MadeFrom c appName config p document := by
  obtain ⟨s, document, p, -, hdocument, hp, rfl⟩ := make_eq_ok_iff.1 h
  obtain ⟨-, hprovider, hservice, -, -⟩ := ProviderConfig.of_ofSelection hdocument
  exact ⟨p, document, hp, hdocument, hprovider, hservice, rfl⟩

theorem MadeFrom.apart {p : Pipeline} {document : ProviderConfig}
    (h : g.MadeFrom c appName config p document) :
    g.artifacts.Pairwise fun f f' => f.path.Apart f'.path := by
  rw [h.artifacts, EmitOptions.emit, List.map_map, List.pairwise_append, List.pairwise_map]
  refine ⟨p.nodup_workflowKinds.imp fun hne => ?_, List.pairwise_singleton _ _, ?_⟩
  · exact .of_landing fun t root hland => hne (landing_workflow_injective root _ hland)
  · intro f hf f' hf'
    obtain ⟨k, -, rfl⟩ := List.mem_map.1 hf
    rw [List.mem_singleton.1 hf']
    exact .of_landing fun t root => landing_workflow_ne_provider root _ k _ _

/-- The files of a generation are apart from one another. The workflows lie in their directory. The
provider document lies in its own if the provider's value has no slash in it, and else only if the
value leads there, read as a path; wherever it leads, the document lands. -/
theorem artifacts_lie_in_iff (h : make c raw appName config = .ok g) :
    ∃ p document, g.MadeFrom c appName config p document ∧
      g.artifacts.Pairwise (fun f f' => f.path.Apart f'.path) ∧
      (∀ f ∈ (config.emitOptions appName).emit p,
        (config.workflowDir.child f.fileName).LiesIn config.workflowDir f.fileName ∧
        ∀ (t : FileTree) (root : Path),
          t.landing (root.join (config.workflowDir.child f.fileName)) =
            t.landing (root.join config.workflowDir) ++ [f.fileName]) ∧
      ('/' ∉ g.selection.provider.toList →
        (document.pathIn config.providerDir).LiesIn config.providerDir document.fileName) ∧
      ((∃ name, (document.pathIn config.providerDir).LiesIn config.providerDir name) ↔
        Path.LeadsInto ⟨g.selection.provider ++ ".yaml"⟩ config.providerDir) ∧
      ∀ (t : FileTree) (root : Path), t.landing (root.join (document.pathIn config.providerDir)) =
        FileTree.landingFrom (t.landing (root.join config.providerDir))
          ⟨g.selection.provider ++ ".yaml"⟩ := by
  obtain ⟨p, document, hmade⟩ := exists_madeFrom h
  have hname : g.selection.provider ++ ".yaml" = document.fileName := by
    rw [← hmade.provider]
    rfl
  rw [hname]
  refine ⟨p, document, hmade, hmade.apart, fun f hf => ?_, fun hslash => ?_,
    Path.exists_liesIn_join_iff, fun t root => ?_⟩
  · obtain ⟨k, -, rfl⟩ := List.mem_map.1 hf
    have hlies := k.liesIn_child config.workflowDir
    exact ⟨hlies, hlies.landing⟩
  · exact ProviderConfig.liesIn_pathIn (hmade.provider ▸ hslash) _
  · rw [ProviderConfig.pathIn, Path.child, FileTree.landing_join, FileTree.landing_join,
      FileTree.landingFrom_join]

/-! ## A value that leads elsewhere -/

/-- A provider whose value goes up. -/
def wandering : Catalogue :=
  Catalogue.builtin.registerAll
    [(Fragment.new .provider "../outside" "Outside").addSetting "region" "here",
      (Fragment.new .service "box" "Box").addSetting "target" "box"]

def wanderingRaw : RawSelection :=
  .ofList [("language", .one "go"), ("package-manager", .one "gomod"),
    ("provider", .one "../outside"), ("service", .one "box")]

def wanderingSelection : Selection := ⟨"go", "gomod", none, "../outside", "box", []⟩

theorem exists_make_wandering : ∃ g, make wandering wanderingRaw "shop" .default = .ok g ∧
    g.selection = wanderingSelection := by
  have hresolve : wandering.resolve wanderingRaw = .ok wanderingSelection :=
    Catalogue.resolve_of_checks (by decide +kernel)
  obtain ⟨document, hdocument⟩ : ∃ document,
      ProviderConfig.ofSelection wandering wanderingSelection "shop" = .ok document :=
    Except.exists_ok_of_isOk (by decide +kernel)
  have hcompose := Catalogue.compose_of_verify (by decide +kernel) hresolve
  exact ⟨_, make_eq_ok_iff.2 ⟨_, document, _, hresolve, hdocument, hcompose, rfl⟩, rfl⟩

/-- The catalogue is sound and the files are made, but the document lands beside its directory. -/
theorem artifacts_lie_in_iff_wandering :
    wandering.verify = .ok () ∧ ∃ g, make wandering wanderingRaw "shop" .default = .ok g ∧
      ∃ f ∈ g.artifacts, f.path = ⟨"deploy/../outside.yaml"⟩ ∧
        (¬∃ name, f.path.LiesIn Config.default.providerDir name) ∧
        ∀ (t : FileTree) (root : Path),
          t.landing (root.join f.path) = t.landing root ++ ["outside.yaml"] := by
  obtain ⟨g, hg, hselection⟩ := exists_make_wandering
  obtain ⟨p, document, hmade, -, -, -, hlies, hlanding⟩ := artifacts_lie_in_iff hg
  rw [hselection] at hlies hlanding
  have hpath : document.pathIn Config.default.providerDir = ⟨"deploy/../outside.yaml"⟩ := by
    unfold ProviderConfig.pathIn ProviderConfig.fileName
    rw [hmade.provider, hselection]
    decide +kernel
  refine ⟨by decide +kernel, g, hg, ⟨document.pathIn Config.default.providerDir, document.print⟩,
    ?_, hpath, ?_, fun t root => ?_⟩
  · rw [hmade.artifacts]
    exact List.mem_append_right _ List.mem_cons_self
  · rw [hlies]
    rintro ⟨name, hname⟩
    have hnames : Path.names ⟨"../outside.yaml"⟩ = ["..", "outside.yaml"] := by decide +kernel
    cases hnames.symm.trans hname.1
  · have hdeploy : t.landing (root.join Config.default.providerDir) = t.landing root ++ ["deploy"] :=
      FileTree.landing_join root _
    have hup (here : Place) :
        FileTree.landingFrom here ⟨wanderingSelection.provider ++ ".yaml"⟩ =
          here.dropLast ++ ["outside.yaml"] := rfl
    rw [hlanding, hdeploy, hup, List.dropLast_concat]

end Generation

end PipeLoom
