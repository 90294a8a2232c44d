import PipeLoom.Command.Basic
import PipeLoom.Proofs.Pipeline.Composable

/-!
# Composition inside commands

Commands compose only with the catalogue that `loadCatalogue` gives, and that one is verified.
`compose_total` says what follows for every catalogue and for every command.
-/

namespace PipeLoom

variable {t : FileTree} {root : Path} {config : Config} {c : Catalogue} {raw : RawSelection}
  {appName : String}

/-- The error says that fragments cannot be composed. -/
def CommandError.isUncomposable : CommandError → Bool
  | uncomposable _ => true
  | _ => false

/-- Whatever makes the check fail, it is not composition. -/
abbrev Composes {α : Type} (x : Except CommandError α) : Prop :=
  FailsWith (fun e => e.isUncomposable = false) x

/-! ## Loading and generating -/

theorem Overlay.verify_of_loadOnto {dir : Path} {base : Catalogue}
    (h : Overlay.loadOnto t dir base = .ok c) : c.verify = .ok () := by
  obtain ⟨overlay, -, h⟩ := Except.bind_eq_ok_iff.1 h
  dsimp only at h
  split at h
  · rename_i hv
    cases h
    exact hv
  · cases h

theorem verify_of_loadCatalogue (h : loadCatalogue t root config = .ok c) : c.verify = .ok () := by
  unfold loadCatalogue at h
  split at h
  · exact Overlay.verify_of_loadOnto (Except.mapError_eq_ok_iff.1 h)
  · obtain ⟨u, hu, rfl⟩ := Except.map_eq_ok_iff.1 h
    exact Except.mapError_eq_ok_iff.1 hu

theorem composes_loadCatalogue : Composes (loadCatalogue t root config) := by
  unfold loadCatalogue
  split
  · exact .mapError fun _ _ => rfl
  · exact .map (.mapError fun _ _ => rfl)

theorem composes_make (hc : c.verify = .ok ()) :
    Composes (Generation.make c raw appName config) := by
  refine .bind (.mapError fun _ _ => rfl) fun s hs => ?_
  have hok := Catalogue.compose_of_verify hc (Except.mapError_eq_ok_iff.1 hs)
  refine .bind (.mapError fun _ _ => rfl) fun provider _ => ?_
  rw [hok]
  exact .ok

theorem composes_load {a : ConfigArgs} : Composes (a.load t root) :=
  .map (.mapError fun _ _ => rfl)

theorem composes_loadSaved :
    Composes ((SavedSelection.load t root).mapError (CommandError.store .loading)) :=
  .mapError fun _ _ => rfl

/-! ## Preparing a command -/

theorem InitArgs.composes_prepare {a : InitArgs} : Composes (a.prepare t root) := by
  refine .bind composes_load fun config _ => ?_
  dsimp only
  split
  · exact .error rfl
  · exact .bind composes_loadCatalogue fun c hc => composes_make (verify_of_loadCatalogue hc)

theorem AddArgs.composes_prepare {a : AddArgs} : Composes (a.prepare t root) := by
  refine .bind composes_loadSaved fun saved _ => ?_
  refine .bind composes_load fun config _ => ?_
  refine .bind composes_loadCatalogue fun c hc => ?_
  exact .bind (composes_make (verify_of_loadCatalogue hc)) fun g _ => .ok

theorem ValidateArgs.prepare_eq {a : ValidateArgs} :
    a.prepare t root =
      (if a.selection.isEmpty then
        ((SavedSelection.load t root).mapError (.store .loading)).map (·.selection)
      else .ok a.selection.toRaw) >>= fun raw =>
        a.config.load t root >>= fun config =>
          loadCatalogue t root config >>= fun c => .ok (raw, c) := by
  unfold prepare
  dsimp only
  split <;> rfl

theorem ValidateArgs.composes_prepare {a : ValidateArgs} : Composes (a.prepare t root) := by
  rw [prepare_eq]
  refine .bind ?_ fun raw _ => ?_
  · split
    · exact .map composes_loadSaved
    · exact .ok
  · exact .bind composes_load fun config _ => .bind composes_loadCatalogue fun c _ => .ok

theorem ValidateArgs.verify_of_prepare {a : ValidateArgs} (h : a.prepare t root = .ok (raw, c)) :
    c.verify = .ok () := by
  rw [prepare_eq] at h
  obtain ⟨r, -, h⟩ := Except.bind_eq_ok_iff.1 h
  obtain ⟨config, -, h⟩ := Except.bind_eq_ok_iff.1 h
  obtain ⟨d, hd, h⟩ := Except.bind_eq_ok_iff.1 h
  cases h
  exact verify_of_loadCatalogue hd

theorem ListArgs.composes_prepare {a : ListArgs} : Composes (a.prepare t) := by
  refine .bind ?_ fun axes _ => .bind composes_load fun config _ =>
    .bind composes_loadCatalogue fun c _ => .ok
  unfold axes?
  split
  · exact .ok
  · split
    · exact .ok
    · exact .error rfl

/-! ## Running a command -/

theorem InitArgs.composes_run {a : InitArgs} {now : Timestamp} : Composes (a.run now t).result := by
  unfold run runBy
  dsimp only
  split
  · rename_i e he
    exact .error (composes_prepare e he)
  · split
    · exact .ok
    · split
      · exact .error rfl
      · split
        · exact .error rfl
        · exact .ok

theorem AddArgs.composes_run {a : AddArgs} {now : Timestamp} : Composes (a.run now t).result := by
  unfold run
  dsimp only
  split
  · rename_i e he
    exact .error (composes_prepare e he)
  · split
    · exact .ok
    · split
      · exact .error rfl
      · exact .ok
      · split
        · exact .error rfl
        · split
          · exact .error rfl
          · exact .ok

theorem ValidateArgs.composes_run {a : ValidateArgs} : Composes (a.run t).result := by
  unfold run
  split
  · rename_i e he
    exact .error (composes_prepare e he)
  · rename_i raw c hprepare
    split
    · exact .error rfl
    · rename_i s hs
      rw [Catalogue.compose_of_verify (verify_of_prepare hprepare) hs]
      exact .ok

theorem ClassifyArgs.composes_run {a : ClassifyArgs} : Composes (a.run t).result := by
  unfold run
  dsimp only
  split
  · rename_i e he
    exact .error (composes_load e he)
  · exact .error rfl
  · exact .ok

theorem ListArgs.composes_run {a : ListArgs} : Composes (a.run t).result := by
  unfold run
  split
  · rename_i e he
    exact .error (composes_prepare e he)
  · exact .ok

theorem Command.composes_run {cmd : Command} {now : Timestamp} :
    Composes (cmd.run now t).result := by
  unfold run
  cases cmd with
  | init a => exact a.composes_run
  | add a => exact a.composes_run
  | validate a => exact a.composes_run
  | classify a => exact a.composes_run
  | list a => exact a.composes_run

/-- A selection from a verified catalogue is composed. From any other catalogue it is composed
unless a selected fragment is misplaced. Commands load verified catalogues only, and none of them
ends because a pipeline cannot be composed. -/
theorem compose_total :
    (∀ (c : Catalogue) raw s, c.verify = .ok () → c.resolve raw = .ok s → ∃ p, c.compose s = .ok p) ∧
      (∀ (c : Catalogue) raw s, c.resolve raw = .ok s →
        ((∃ e, c.compose s = .error e) ↔
          ∃ r ∈ s.fragments, ∃ f, c.find? r = some f ∧ f.Misplaced)) ∧
      (∀ t root config c raw s, loadCatalogue t root config = .ok c → c.resolve raw = .ok s →
        ∃ p, c.compose s = .ok p) ∧
      ∀ (cmd : Command) now t e, (cmd.run now t).result ≠ .error (.uncomposable e) := by
  refine ⟨fun c raw s hc hs => ?_, fun c raw s hs => ?_, fun t root config c raw s hc hs => ?_,
    fun cmd now t e he => ?_⟩
  · exact ⟨_, Catalogue.compose_of_verify hc hs⟩
  · rw [Catalogue.compose_fails_iff hs]
    simp only [Catalogue.mem_selected]
    constructor
    · rintro ⟨f, ⟨r, hr, hf⟩, hm⟩
      exact ⟨r, hr, f, hf, hm⟩
    · rintro ⟨r, hr, f, hf, hm⟩
      exact ⟨f, ⟨r, hr, hf⟩, hm⟩
  · exact ⟨_, Catalogue.compose_of_verify (verify_of_loadCatalogue hc) hs⟩
  · cases cmd.composes_run _ he

theorem compose_total_sample :
    Catalogue.builtin.verify = .ok () ∧
      Catalogue.builtin.resolve Catalogue.sampleRaw = .ok Catalogue.sample ∧
      ∃ p, Catalogue.builtin.compose Catalogue.sample = .ok p :=
  ⟨Catalogue.verify_builtin, Catalogue.resolve_sampleRaw,
    compose_total.1 _ _ _ Catalogue.verify_builtin Catalogue.resolve_sampleRaw⟩

end PipeLoom
