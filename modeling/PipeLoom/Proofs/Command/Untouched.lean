import PipeLoom.Command.Line
import PipeLoom.Proofs.Command.Enabled

/-!
# Runs that touch no file

A run changes the tree only once everything has been checked and writing begins. From then on it
ends well or with a file that cannot be written (`Command.tree_run`), which is why no other exit
code than 0 and 5 comes with a changed tree.
-/

namespace PipeLoom

/-- A file could not be written. -/
def CommandError.isUnwritten : CommandError → Bool
  | store .writing (.file _) | store .saving (.file _) => true
  | _ => false

theorem CommandError.exitCode_of_isUnwritten {e : CommandError} (h : e.isUnwritten = true) :
    e.exitCode = 5 := by
  unfold isUnwritten at h
  split at h
  · rfl
  · rfl
  · cases h

/-- The command shows something and has nothing to write. -/
def Command.onlyShows : Command → Bool
  | init a => a.dryRun
  | add a => a.dryRun
  | validate _ | classify _ | list _ => true

/-- The command fails and leaves the tree as it was. -/
def Outcome.Refuses (o : Outcome) (t : FileTree) (e : CommandError) : Prop :=
  o.result = .error e ∧ o.tree = t

section Run

variable {now : Timestamp} {t : FileTree}

/-! ## Init -/

theorem InitArgs.run_refuses {a : InitArgs} {e : CommandError}
    (h : a.prepare t (a.root t) = .error e) : (a.run now t).Refuses t e := by
  rw [run_eq, h]
  exact ⟨rfl, rfl⟩

theorem InitArgs.run_refuses_config {a : InitArgs} {e : ConfigError}
    (h : Config.load t (a.root t) = .error e) : (a.run now t).Refuses t (.config e) := by
  refine run_refuses ?_
  unfold prepare ConfigArgs.load
  rw [h]
  rfl

theorem InitArgs.tree_run (a : InitArgs) (now : Timestamp) (t : FileTree) :
    (a.run now t).tree = t ∨
      a.dryRun = false ∧ FailsWith (fun e => e.isUnwritten = true) (a.run now t).result := by
  rw [run_eq]
  split
  · exact .inl rfl
  · split
    · exact .inl rfl
    · rename_i hdry
      have hdry := Bool.eq_false_iff.2 hdry
      split
      · rename_i hwritten
        rcases Artifact.error_of_writeAll hwritten with ⟨fe, rfl⟩ | ⟨rfl, -⟩
        · exact .inr ⟨hdry, .error rfl⟩
        · exact .inl rfl
      · split
        · rename_i hsaved
          obtain ⟨fe, rfl⟩ := SavedSelection.error_of_save hsaved
          exact .inr ⟨hdry, .error rfl⟩
        · exact .inr ⟨hdry, .ok⟩

/-! ## Add -/

theorem AddArgs.run_refuses {a : AddArgs} {e : CommandError}
    (h : a.prepare t (a.root t) = .error e) : (a.run now t).Refuses t e := by
  have hroot : a.output.getD t.currentPath = a.root t := rfl
  unfold run
  simp only
  rw [hroot, h]
  exact ⟨rfl, rfl⟩

theorem AddArgs.run_refuses_selection {a : AddArgs} {e : StoreError}
    (h : SavedSelection.load t (a.root t) = .error e) :
    (a.run now t).Refuses t (.store .loading e) := by
  refine run_refuses ?_
  unfold prepare
  rw [h]
  rfl

theorem AddArgs.exists_refuses_config {a : AddArgs} {e : ConfigError}
    (h : Config.load t (a.root t) = .error e) :
    ∃ d, (d = .config e ∨ ∃ se, d = .store .loading se) ∧ (a.run now t).Refuses t d := by
  cases hsaved : SavedSelection.load t (a.root t) with
  | error se => exact ⟨_, .inr ⟨se, rfl⟩, run_refuses_selection hsaved⟩
  | ok saved =>
    refine ⟨_, .inl rfl, run_refuses ?_⟩
    unfold prepare ConfigArgs.load
    rw [hsaved, h]
    rfl

theorem AddArgs.tree_run (a : AddArgs) (now : Timestamp) (t : FileTree) :
    (a.run now t).tree = t ∨
      a.dryRun = false ∧ FailsWith (fun e => e.isUnwritten = true) (a.run now t).result := by
  unfold run
  dsimp only
  split
  · exact .inl rfl
  · split
    · exact .inl rfl
    · rename_i hdry
      have hdry := Bool.eq_false_iff.2 hdry
      split
      · exact .inl rfl
      · exact .inl rfl
      · split
        · rename_i hwritten
          -- what is written here is forced, so nothing that is there blocks it
          rcases Artifact.error_of_writeAll hwritten with ⟨fe, rfl⟩ | ⟨-, hforce, -⟩
          · exact .inr ⟨hdry, .error rfl⟩
          · cases hforce
        · split
          · rename_i hsaved
            obtain ⟨fe, rfl⟩ := SavedSelection.error_of_save hsaved
            exact .inr ⟨hdry, .error rfl⟩
          · exact .inr ⟨hdry, .ok⟩

/-! ## Every command -/

theorem ValidateArgs.tree_run (a : ValidateArgs) (t : FileTree) : (a.run t).tree = t := by
  unfold run
  split
  · rfl
  · split
    · rfl
    · split <;> rfl

theorem ClassifyArgs.tree_run (a : ClassifyArgs) (t : FileTree) : (a.run t).tree = t := by
  unfold run
  dsimp only
  split <;> rfl

theorem ListArgs.tree_run (a : ListArgs) (t : FileTree) : (a.run t).tree = t := by
  unfold run
  split <;> rfl

/-- A run that changes the tree had something to write, and fails only on a file that it cannot
write. -/
theorem Command.tree_run (c : Command) (now : Timestamp) (t : FileTree) :
    (c.run now t).tree = t ∨
      c.onlyShows = false ∧ FailsWith (fun e => e.isUnwritten = true) (c.run now t).result := by
  cases c with
  | init a => exact a.tree_run now t
  | add a => exact a.tree_run now t
  | validate a => exact .inl (a.tree_run t)
  | classify a => exact .inl (a.tree_run t)
  | list a => exact .inl (a.tree_run t)

end Run

namespace CommandLine

variable {args : List String} {env : Option String} {now : Timestamp} {t : FileTree} {c : Command}

theorem run_of_read (now : Timestamp) (t : FileTree) (h : read args env = .run c) :
    (run args env now t).exitCode = (c.run now t).exitCode ∧
      (run args env now t).tree = (c.run now t).tree := by
  unfold run
  rw [h]
  exact ⟨rfl, rfl⟩

theorem tree_of_not_run (h : ∀ c, read args env ≠ .run c) : (run args env now t).tree = t := by
  unfold run
  split
  · rfl
  · rfl
  · rfl
  · rename_i c hc
    exact absurd hc (h c)

theorem tree_of_exitCode (h0 : (run args env now t).exitCode ≠ 0)
    (h5 : (run args env now t).exitCode ≠ 5) : (run args env now t).tree = t := by
  by_cases hread : ∃ c, read args env = .run c
  · obtain ⟨c, hc⟩ := hread
    obtain ⟨hcode, htree⟩ := run_of_read now t hc
    rw [hcode] at h0 h5
    rw [htree]
    rcases c.tree_run now t with h | ⟨-, hfails⟩
    · exact h
    · unfold Outcome.exitCode at h0 h5
      split at h0
      · exact absurd rfl h0
      · rename_i e he
        rw [he] at h5
        exact absurd (CommandError.exitCode_of_isUnwritten (hfails e he)) h5
  · exact tree_of_not_run fun c hc => hread ⟨c, hc⟩

/-- A run with another exit code than 0 and 5 touches no file, nor does a command that only shows
something or fails for another reason than a file that cannot be written. So it is in particular
where something to be written is there already, and where the configuration or the saved selection
cannot be had. -/
theorem run_touches_nothing (args : List String) (env : Option String) (now : Timestamp)
    (t : FileTree) :
    ((run args env now t).exitCode ≠ 0 → (run args env now t).exitCode ≠ 5 →
      (run args env now t).tree = t) ∧
    (∀ c, read args env = .run c →
      (c.onlyShows = true → (run args env now t).tree = t) ∧
      ∀ e, (c.run now t).result = .error e → e.isUnwritten = false →
        (run args env now t).exitCode = e.exitCode ∧ (run args env now t).tree = t) ∧
    (∀ a : InitArgs, read args env = .run (.init a) → ∀ e, Config.load t (a.root t) = .error e →
      (a.run now t).Refuses t (.config e)) ∧
    ∀ a : AddArgs, read args env = .run (.add a) →
      (∀ e, SavedSelection.load t (a.root t) = .error e →
        (a.run now t).Refuses t (.store .loading e)) ∧
      ∀ e, Config.load t (a.root t) = .error e →
        ∃ d, (d = .config e ∨ ∃ se, d = .store .loading se) ∧ (a.run now t).Refuses t d := by
  refine ⟨tree_of_exitCode, fun c hc => ?_, fun a _ e => InitArgs.run_refuses_config,
    fun a _ => ⟨fun e => AddArgs.run_refuses_selection, fun e => AddArgs.exists_refuses_config⟩⟩
  obtain ⟨hcode, htree⟩ := run_of_read now t hc
  rw [hcode, htree]
  refine ⟨fun hshows => ?_, fun e he hwritten => ⟨?_, ?_⟩⟩
  · rcases c.tree_run now t with h | ⟨hnot, -⟩
    · exact h
    · rw [hshows] at hnot
      cases hnot
  · unfold Outcome.exitCode
    rw [he]
  · rcases c.tree_run now t with h | ⟨-, hfails⟩
    · exact h
    · rw [hfails e he] at hwritten
      cases hwritten

end CommandLine

/-! ## Nothing to add to, and a workflow in the way -/

/-- What is prepared where there is neither a configuration nor a saved selection. -/
theorem goProject.prepare_goArgs {t : FileTree}
    (hconfig : t.isThere (Config.path goProject.root) = false)
    (hsaved : t.isThere (SavedSelection.path goProject.root) = false) :
    goArgs.prepare t goProject.root = generation goSelection := by
  have hload : goArgs.config.load t goProject.root = .ok goProject.config := load_config hconfig
  rw [InitArgs.prepare_eq_make hload hsaved (load_catalogue t)]
  exact Generation.make_of_resolve resolve_goArgs "shop" .default

def goWords : List String :=
  ["init", "--language", "go", "--package-manager", "gomod", "--provider", "gcp", "--service",
    "cloudrun", "--app-name", "shop"]

/-- A workflow of the owner stands before anything is generated. -/
def ownedTree : FileTree :=
  ⟨[([".github", "workflows", "pipeline.yml"], .file edited),
    ([".github", "workflows"], .directory), ([".github"], .directory)], []⟩

theorem result_ownedTree : (goArgs.run noon ownedTree).result =
    .error (.store .writing (.alreadyExists ⟨"/.github/workflows/pipeline.yml"⟩)) := by
  have hroot : goArgs.root ownedTree = goProject.root := goProject.currentPath_eq rfl
  rw [InitArgs.run_eq, hroot, goProject.prepare_goArgs (by decide +kernel) (by decide +kernel)]
  decide +kernel

namespace CommandLine

/-- Nothing was generated that could be added to, and something stands where `init` would write. -/
theorem run_touches_nothing_of_add_init :
    ((run ["add", "hotfix"] none noon emptyTree).exitCode = 2 ∧
      (run ["add", "hotfix"] none noon emptyTree).tree = emptyTree) ∧
    (run goWords none noon ownedTree).exitCode = 5 ∧
      (run goWords none noon ownedTree).tree = ownedTree := by
  have hcode : (run ["add", "hotfix"] none noon emptyTree).exitCode = 2 := by decide +kernel
  have hread : read goWords none = .run (.init goArgs) := by decide +kernel
  obtain ⟨hadd, -⟩ := run_touches_nothing ["add", "hotfix"] none noon emptyTree
  obtain ⟨-, hinit, -⟩ := run_touches_nothing goWords none noon ownedTree
  refine ⟨⟨hcode, hadd (by rw [hcode]; decide) (by rw [hcode]; decide)⟩, ?_⟩
  exact (hinit (.init goArgs) hread).2 _ result_ownedTree rfl

end CommandLine

end PipeLoom
