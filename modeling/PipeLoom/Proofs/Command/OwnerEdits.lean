import PipeLoom.Proofs.Catalogue.Soundness
import PipeLoom.Proofs.File.Concealed
import PipeLoom.Proofs.Project.Regeneration
import PipeLoom.Proofs.Selection.Acceptance

/-!
# Edits of the owner

What `init` and `add` do, without `--force`, to files that were there before: `init` leaves them
alone and `add` overwrites only what the previous generation wrote and its owner did not edit. There
is one gap. A file that is concealed by a path to be written counts as missing and is overwritten.
-/

namespace PipeLoom

/-! ## What may be written -/

namespace Artifact

/-- A file that has to be written is missing or holds what the previous generation wrote. -/
theorem read_of_needsWriting {t : FileTree} {root : Path} {previous : List Artifact}
    {a : Artifact} (h : a.needsWriting t root previous false = .ok true) :
    t.read (a.target root) = .error .notFound ∨
      ∃ p ∈ previous, p.path.same a.path = true ∧ t.read (a.target root) = .ok p.content := by
  unfold needsWriting at h
  simp only at h
  split at h
  · cases h
  · split at h
    · rename_i hread
      exact .inl hread
    · cases h
    · rename_i existing hread
      split at h
      · cases h
      · split at h
        · rename_i hbefore
          rw [Bool.or_false, decide_eq_true_iff] at hbefore
          obtain ⟨p, hp, hcontent⟩ := Option.map_eq_some_iff.1 hbefore
          have hsame := List.find?_some hp
          exact .inr ⟨p, List.mem_of_find?_eq_some hp, hsame, hcontent ▸ hread⟩
        · cases h

end Artifact

theorem InitArgs.isThere_of_prepare {a : InitArgs} {t : FileTree} {root : Path} {g : Generation}
    (h : a.prepare t root = .ok g) (hforce : a.force = false) (hdry : a.dryRun = false) :
    t.isThere (SavedSelection.path root) = false := by
  unfold prepare at h
  obtain ⟨config, -, h⟩ := Except.bind_eq_ok_iff.1 h
  rw [hforce, hdry] at h
  cases hthere : t.isThere (SavedSelection.path root) with
  | false => rfl
  | true =>
    rw [hthere] at h
    cases h

/-- Without `--force` only paths at which nothing was found are written. -/
theorem InitArgs.isThere_of_mem_writes {a : InitArgs} (hforce : a.force = false) {now : Timestamp}
    {t : FileTree} {w : Path × String} (hw : w ∈ a.writes now t) : t.isThere w.1 = false := by
  unfold writes at hw
  split at hw
  · exact absurd hw List.not_mem_nil
  · rename_i g hprepare
    simp only at hw
    split at hw
    · exact absurd hw List.not_mem_nil
    · rename_i hfree
      rw [hforce, Bool.not_false, Bool.true_and, Bool.or_eq_true, not_or] at hfree
      obtain ⟨hdry, hany⟩ := hfree
      rcases List.mem_append.1 hw with hw | hw
      · rw [Bool.eq_false_iff]
        intro hthere
        exact hany (List.any_eq_true.2 ⟨w, hw, hthere⟩)
      · rw [List.mem_singleton.1 hw]
        exact isThere_of_prepare hprepare hforce (Bool.eq_false_iff.2 hdry)

namespace AddArgs

variable (a : AddArgs)

/-- Generating renders the content for the place from the saved selection. -/
def Renders (t : FileTree) (q : Place) (content : String) : Prop :=
  ∃ saved config c g, SavedSelection.load t (a.root t) = .ok saved ∧
    a.config.load t (a.root t) = .ok config ∧ loadCatalogue t (a.root t) config = .ok c ∧
    Generation.make c saved.selection saved.appName config = .ok g ∧
    ∃ p ∈ g.artifacts, t.landing (p.target (a.root t)) = q ∧ p.content = content

variable {a}

theorem renders_of_mem_previous {t : FileTree} {saved : SavedSelection} {g : Generation}
    {previous : List Artifact} (h : a.prepare t (a.root t) = .ok (saved, g, previous))
    {p : Artifact} (hp : p ∈ previous) :
    a.Renders t (t.landing (p.target (a.root t))) p.content := by
  unfold prepare at h
  obtain ⟨saved', hsaved, h⟩ := Except.bind_eq_ok_iff.1 h
  obtain ⟨config, hconfig, h⟩ := Except.bind_eq_ok_iff.1 h
  obtain ⟨c, hc, h⟩ := Except.bind_eq_ok_iff.1 h
  obtain ⟨g', -, h⟩ := Except.bind_eq_ok_iff.1 h
  cases h
  cases hold : Generation.make c saved.selection saved.appName config with
  | error e =>
    rw [hold] at hp
    exact absurd hp List.not_mem_nil
  | ok old =>
    rw [hold] at hp
    exact ⟨saved, config, c, old, Except.mapError_eq_ok_iff.1 hsaved, hconfig, hc, hold, p, hp,
      rfl, rfl⟩

/-- Without `--force` a path is written that is missing, that holds what the saved selection
renders, or that is the path of the saved selection. -/
theorem of_mem_writes (hforce : a.force = false) {now : Timestamp} {t : FileTree}
    {w : Path × String} (hw : w ∈ a.writes now t) :
    t.read w.1 = .error .notFound ∨
      (∃ content, t.read w.1 = .ok content ∧ a.Renders t (t.landing w.1) content) ∨
      w.1 = SavedSelection.path (a.root t) := by
  unfold writes at hw
  split at hw
  · exact absurd hw List.not_mem_nil
  · rename_i saved g previous hprepare
    split at hw
    · exact absurd hw List.not_mem_nil
    · split at hw
      · exact absurd hw List.not_mem_nil
      · exact absurd hw List.not_mem_nil
      · rename_i changed _ hchanged
        rcases List.mem_append.1 hw with hw | hw
        · obtain ⟨f, hf, rfl⟩ := List.mem_map.1 hw
          rw [hforce] at hchanged
          obtain ⟨-, hneeds⟩ := Artifact.mem_changed hchanged hf
          rcases Artifact.read_of_needsWriting hneeds with hread | ⟨p, hp, hsame, hread⟩
          · exact .inl hread
          · refine .inr (.inl ⟨p.content, hread, ?_⟩)
            have hrenders := renders_of_mem_previous hprepare hp
            have hland : t.landing (p.target (a.root t)) = t.landing (f.target (a.root t)) :=
              FileTree.landing_join_of_same hsame _
            rwa [hland] at hrenders
        · rw [List.mem_singleton.1 hw]
          exact .inr (.inr rfl)

end AddArgs

/-! ## A concealed workflow

The workflow directory is given by way of a directory that is not there.
-/

theorem Generation.make_of_resolve {c : Catalogue} {raw : RawSelection} {s : Selection}
    (h : c.resolve raw = .ok s) (appName : String) (config : Config) :
    make c raw appName config = (do
      let provider ← (ProviderConfig.ofSelection c s appName).mapError .provider
      let pipeline ← (c.compose s).mapError .uncomposable
      return ⟨s, artifactsOf config appName pipeline provider, pipeline.warnings⟩) := by
  unfold make
  rw [h]
  rfl

theorem InitArgs.prepare_eq_make {a : InitArgs} {t : FileTree} {root : Path} {config : Config}
    {c : Catalogue} (hconfig : a.config.load t root = .ok config)
    (hfree : t.isThere (SavedSelection.path root) = false)
    (hc : loadCatalogue t root config = .ok c) :
    a.prepare t root = Generation.make c a.selection.toRaw a.appName config := by
  unfold InitArgs.prepare
  rw [hconfig, hfree]
  show loadCatalogue t root config >>= _ = _
  rw [hc]
  rfl

/-- Without an overlay the catalogue is the built-in one. -/
theorem loadCatalogue_eq_builtin {config : Config} (h : config.catalogueDir = none) (t : FileTree)
    (root : Path) : loadCatalogue t root config = .ok .builtin := by
  unfold loadCatalogue
  rw [h]
  simp only
  rw [Catalogue.verify_builtin]
  rfl

def edited : String := "# edited by its owner\n"

def editedTree : FileTree :=
  ⟨[(["ci", "pipeline.yml"], .file edited), (["ci"], .directory),
    (["cigen.toml"], .file "workflow_dir = \"gone/../ci\"\n")], []⟩

def goArgs : InitArgs :=
  ⟨⟨some "go", some "gomod", none, some "gcp", some "cloudrun", []⟩, "shop", none, false, false,
    ⟨none, none⟩⟩

def goSelection : Selection := ⟨"go", "gomod", none, "gcp", "cloudrun", []⟩

theorem resolve_goArgs : Catalogue.builtin.resolve goArgs.selection.toRaw = .ok goSelection :=
  Catalogue.resolve_of_checks (by decide +kernel)

def goneConfig : Config := { Config.default with workflowDir := ⟨"gone/../ci"⟩ }

theorem prepare_goArgs : goArgs.prepare editedTree (goArgs.root editedTree) =
    Generation.make .builtin goArgs.selection.toRaw "shop" goneConfig := by
  have hload : Config.load editedTree (goArgs.root editedTree) = .ok goneConfig := by
    decide +kernel
  have hconfig : goArgs.config.load editedTree (goArgs.root editedTree) = .ok goneConfig := by
    unfold ConfigArgs.load
    rw [hload]
    rfl
  exact InitArgs.prepare_eq_make hconfig (by decide +kernel)
    (loadCatalogue_eq_builtin rfl editedTree (goArgs.root editedTree))

theorem run_goArgs : (goArgs.run default editedTree).tree.get? ["ci", "pipeline.yml"] ≠
    some (.file edited) := by
  rw [InitArgs.run_eq, prepare_goArgs, Generation.make_of_resolve resolve_goArgs]
  decide +kernel

/-! ## Both commands -/

/-- Without `--force`, a file that was there is changed only if a path to be written conceals it or,
by `add`, if it is the saved selection or held what that renders; and a concealed file is
overwritten. In a well-formed tree only paths with `..` conceal files. -/
theorem owner_edits_survive_unless_concealed (now : Timestamp) {t : FileTree} {q : Place}
    {content : String} (hq : t.get? q = some (.file content)) :
    (∀ a : InitArgs, a.force = false →
      ((a.run now t).tree.get? q ≠ some (.file content) → t.ConcealedBy (a.writes now t) q) ∧
      ((a.run now t).result = .ok () → t.ConcealedBy (a.writes now t) q →
        ∃ w ∈ a.writes now t, t.Conceals w.1 q ∧
          (a.run now t).tree.get? q = some (.file w.2))) ∧
    (∀ a : AddArgs, a.force = false → q ≠ t.landing (SavedSelection.path (a.root t)) →
      ((a.run now t).tree.get? q ≠ some (.file content) →
        a.Renders t q content ∨ t.ConcealedBy (a.writes now t) q) ∧
      ((a.run now t).result = .ok () → t.ConcealedBy (a.writes now t) q →
        ∃ w ∈ a.writes now t, t.landing w.1 = q ∧
          (a.run now t).tree.get? q = some (.file w.2))) ∧
    (t.WellFormed → ∀ p, t.Conceals p q → ".." ∈ p.segments) := by
  refine ⟨fun a hforce => ⟨fun hne => ?_, fun hok hconcealed => ?_⟩,
    fun a hforce hselection => ⟨fun hne => ?_, fun hok hconcealed => ?_⟩,
    fun ht p hp => FileTree.parent_mem_of_conceals ht hp hq⟩
  · obtain ⟨w, hw, hland, hreached⟩ := (a.run_wrote now t).exists_of_changed hq hne
    exact ⟨w, hw, FileTree.conceals_of_isThere (InitArgs.isThere_of_mem_writes hforce hw) hland
      hreached⟩
  · obtain ⟨w, hw, -, hland⟩ := hconcealed
    obtain ⟨v, hv, hlandv, hreached, hafter⟩ :=
      (a.run_wrote now t).exists_of_landing hok hq hw hland
    exact ⟨v, hv, FileTree.conceals_of_isThere (InitArgs.isThere_of_mem_writes hforce hv) hlandv
      hreached, hafter⟩
  · obtain ⟨w, hw, hland, -⟩ := (a.run_wrote now t).exists_of_changed hq hne
    rcases AddArgs.of_mem_writes hforce hw with hread | ⟨c, hread, hrenders⟩ | hpath
    · exact .inr ⟨w, hw, hread, hland⟩
    · have hc := FileTree.get?_landing_of_read hread
      rw [hland, hq] at hc
      cases hc
      exact .inl (hland ▸ hrenders)
    · exact absurd (hpath ▸ hland).symm hselection
  · obtain ⟨w, hw, -, hland⟩ := hconcealed
    obtain ⟨v, hv, hlandv, -, hafter⟩ := (a.run_wrote now t).exists_of_landing hok hq hw hland
    exact ⟨v, hv, hlandv, hafter⟩

theorem owner_edits_survive_unless_concealed_editedTree :
    (goArgs.run default editedTree).tree.get? ["ci", "pipeline.yml"] ≠ some (.file edited) ∧
      editedTree.ConcealedBy (goArgs.writes default editedTree) ["ci", "pipeline.yml"] := by
  have hq : editedTree.get? ["ci", "pipeline.yml"] = some (.file edited) := rfl
  obtain ⟨hinit, -⟩ := owner_edits_survive_unless_concealed default hq
  exact ⟨run_goArgs, (hinit goArgs rfl).1 run_goArgs⟩

end PipeLoom
