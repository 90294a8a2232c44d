import PipeLoom.Command.Basic
import PipeLoom.Proofs.Project.Writing

/-!
# What commands write

`init` and `add` set out to write some files, and then the saved selection (`InitArgs.writes`,
`AddArgs.writes`). A run writes these in order, all of them if it succeeds, and changes no other
file (`InitArgs.run_wrote`, `AddArgs.run_wrote`).
-/

namespace PipeLoom

open FileTree (WroteUpTo Wrote)

theorem SavedSelection.save_wrote (t : FileTree) (root : Path) (s : SavedSelection) :
    WroteUpTo t [(path root, s.print)] (s.save t root) := by
  have h := t.writeWithParents_wrote (path root) s.print
  unfold save saveBy
  split
  · rename_i heq
    rw [heq] at h
    exact .all h.wrote ()
  · rename_i heq
    rw [heq] at h
    exact h.fail _

/-! ## Outcomes -/

/-- A command that set out to write `ws` wrote it all if it succeeded, else some of the first. -/
def Outcome.Wrote (o : Outcome) (t : FileTree) (ws : List (Path × String)) : Prop :=
  WroteUpTo t ws (o.result, o.tree)

/-- Both commands save the selection after the files. -/
theorem Outcome.wrote_then_save {o : Outcome} {t : FileTree} {ws : List (Path × String)}
    {r : Except StoreError (List Path) × FileTree} {root : Path} {s : SavedSelection}
    (h : WroteUpTo t ws r)
    (hwriting : ∀ e t1, r = (.error e, t1) → ∃ output, o = .fail output (.store .writing e) t1)
    (hsaving : ∀ paths t1 e t2, r = (.ok paths, t1) → s.save t1 root = (.error e, t2) →
      ∃ output, o = .fail output (.store .saving e) t2)
    (hdone : ∀ paths t1 t2, r = (.ok paths, t1) → s.save t1 root = (.ok (), t2) →
      ∃ output, o = .ok output t2) :
    o.Wrote t (ws ++ [(SavedSelection.path root, s.print)]) := by
  obtain ⟨r, t1⟩ := r
  cases r with
  | error e =>
    obtain ⟨output, ho⟩ := hwriting e t1 rfl
    rw [ho]
    exact (h.fail _).failBefore _
  | ok paths =>
    have hsave := SavedSelection.save_wrote t1 root s
    rcases hr : s.save t1 root with ⟨e | ⟨⟩, t2⟩
    · rw [hr] at hsave
      obtain ⟨output, ho⟩ := hsaving paths t1 e t2 rfl hr
      rw [ho]
      exact h.andThen (hsave.fail _)
    · rw [hr] at hsave
      obtain ⟨output, ho⟩ := hdone paths t1 t2 rfl hr
      rw [ho]
      exact h.andThen (.all hsave.wrote ())

namespace Outcome.Wrote

variable {o : Outcome} {t : FileTree} {ws : List (Path × String)} {q : Place} {content : String}

/-- A file that changed was written. -/
theorem exists_of_changed (h : o.Wrote t ws) (hq : t.get? q = some (.file content))
    (hne : o.tree.get? q ≠ some (.file content)) :
    ∃ w ∈ ws, t.landing w.1 = q ∧ ∀ e, t.target w.1 = .error e → e = .notFound := by
  obtain ⟨done, hdone, hwrote, -⟩ := h
  have hafter := hwrote.file hq
  cases hlast : t.lastAt done q with
  | none =>
    rw [hlast] at hafter
    exact absurd hafter hne
  | some c =>
    obtain ⟨w, hw, hland, -⟩ := FileTree.mem_of_lastAt hlast
    exact ⟨w, hdone.subset hw, hland, fun e he => hwrote.reached hw he⟩

/-- A run that succeeds has written every file that it set out to write. -/
theorem exists_of_landing (h : o.Wrote t ws) (hok : o.result = .ok ())
    (hq : t.get? q = some (.file content)) {w : Path × String} (hw : w ∈ ws)
    (hland : t.landing w.1 = q) :
    ∃ v ∈ ws, t.landing v.1 = q ∧ (∀ e, t.target v.1 = .error e → e = .notFound) ∧
      o.tree.get? q = some (.file v.2) := by
  obtain ⟨done, -, hwrote, hall⟩ := h
  rw [hall () hok] at hwrote
  have hafter := hwrote.file hq
  cases hlast : t.lastAt ws q with
  | none => exact absurd (hland ▸ hlast) (FileTree.lastAt_ne_none hw)
  | some c =>
    rw [hlast] at hafter
    obtain ⟨v, hv, hlandv, hc⟩ := FileTree.mem_of_lastAt hlast
    exact ⟨v, hv, hlandv, fun e he => hwrote.reached hv he, hc ▸ hafter⟩

end Outcome.Wrote

/-! ## Init -/

namespace InitArgs

variable (a : InitArgs)

def root (t : FileTree) : Path := a.output.getD t.currentPath

/-- What a run sets out to write, once its checks have passed. -/
def writes (now : Timestamp) (t : FileTree) : List (Path × String) :=
  match a.prepare t (a.root t) with
  | .error _ => []
  | .ok g =>
    let files := Artifact.writes (a.root t) g.artifacts
    let saved := SavedSelection.new a.appName g.selection.toRaw now
    if a.dryRun || (!a.force && files.any fun w => t.isThere w.1) then []
    else files ++ [(SavedSelection.path (a.root t), saved.print)]

theorem runBy_eq (write : FileTree.Writing) (now : Timestamp) (t : FileTree) :
    a.runBy write now t =
      match a.prepare t (a.root t) with
      | .error e => .fail "" e t
      | .ok g =>
        if a.dryRun then .ok (textLines (warningLines g.warnings) ++ dryRunText g.artifacts) t
        else
          match Artifact.writeAllBy write t (a.root t) g.artifacts a.force with
          | (.error e, t1) => .fail (textLines (warningLines g.warnings)) (.store .writing e) t1
          | (.ok written, t1) =>
            match (SavedSelection.new a.appName g.selection.toRaw now).saveBy write t1 (a.root t)
              with
            | (.error e, t2) => .fail (textLines (warningLines g.warnings)) (.store .saving e) t2
            | (.ok (), t2) => .ok (textLines (warningLines g.warnings) ++
                textLines (a.report (a.root t) g.selection written)) t2 := by
  exact rfl

theorem run_eq (now : Timestamp) (t : FileTree) :
    a.run now t =
      match a.prepare t (a.root t) with
      | .error e => .fail "" e t
      | .ok g =>
        if a.dryRun then .ok (textLines (warningLines g.warnings) ++ dryRunText g.artifacts) t
        else
          match Artifact.writeAll t (a.root t) g.artifacts a.force with
          | (.error e, t1) => .fail (textLines (warningLines g.warnings)) (.store .writing e) t1
          | (.ok written, t1) =>
            match SavedSelection.save t1 (a.root t) (.new a.appName g.selection.toRaw now) with
            | (.error e, t2) => .fail (textLines (warningLines g.warnings)) (.store .saving e) t2
            | (.ok (), t2) => .ok (textLines (warningLines g.warnings) ++
                textLines (a.report (a.root t) g.selection written)) t2 := by
  exact rfl

theorem run_wrote (now : Timestamp) (t : FileTree) : (a.run now t).Wrote t (a.writes now t) := by
  rw [run_eq]
  unfold writes
  cases a.prepare t (a.root t) with
  | error e => exact .nothing t [] e
  | ok g =>
    simp only
    cases a.dryRun with
    | true => exact .all (.refl t) ()
    | false =>
      rw [if_neg Bool.false_ne_true, Bool.false_or]
      by_cases hblocked :
          (!a.force && (Artifact.writes (a.root t) g.artifacts).any fun w => t.isThere w.1) = true
      · rw [if_pos hblocked]
        rw [Bool.and_eq_true, Bool.not_eq_true'] at hblocked
        obtain ⟨hforce, hany⟩ := hblocked
        obtain ⟨e, he⟩ := Artifact.writeAll_blocked hany
        rw [hforce, he]
        exact .nothing t [] _
      · rw [if_neg hblocked]
        have hwrote : WroteUpTo t (Artifact.writes (a.root t) g.artifacts)
            (Artifact.writeAll t (a.root t) g.artifacts a.force) := by
          apply Artifact.writeAll_wrote
          by_cases hforce : a.force = true
          · exact .inl hforce
          · refine .inr fun f hf => ?_
            rw [Bool.eq_false_iff]
            intro hthere
            have hany : ((Artifact.writes (a.root t) g.artifacts).any
                fun w => t.isThere w.1) = true :=
              List.any_eq_true.2 ⟨_, List.mem_map_of_mem hf, hthere⟩
            exact hblocked (by rw [Bool.eq_false_iff.2 hforce, hany]; rfl)
        refine Outcome.wrote_then_save hwrote (fun e t1 hr => ?_) (fun paths t1 e t2 hr hs => ?_)
          fun paths t1 t2 hr hs => ?_
        · rw [hr]
          exact ⟨_, rfl⟩
        · simp only [hr, hs]
          exact ⟨_, rfl⟩
        · simp only [hr, hs]
          exact ⟨_, rfl⟩

end InitArgs

/-! ## Add -/

namespace AddArgs

variable (a : AddArgs)

def root (t : FileTree) : Path := a.output.getD t.currentPath

/-- What a run sets out to write, once its checks have passed. -/
def writes (now : Timestamp) (t : FileTree) : List (Path × String) :=
  match a.prepare t (a.root t) with
  | .error _ => []
  | .ok (saved, g, previous) =>
    if a.dryRun then []
    else
      match Artifact.changed t (a.root t) previous a.force g.artifacts with
      | .error _ | .ok [] => []
      | .ok changed => Artifact.writes (a.root t) changed ++
          [(SavedSelection.path (a.root t), (saved.update g.selection.toRaw now).print)]

theorem run_wrote (now : Timestamp) (t : FileTree) : (a.run now t).Wrote t (a.writes now t) := by
  have hroot : a.output.getD t.currentPath = a.root t := rfl
  unfold run writes
  simp only
  rw [hroot]
  rcases a.prepare t (a.root t) with e | ⟨saved, g, previous⟩
  · exact .nothing t [] e
  · simp only
    cases a.dryRun with
    | true => exact .all (.refl t) ()
    | false =>
      rw [if_neg Bool.false_ne_true, if_neg Bool.false_ne_true]
      rcases Artifact.changed t (a.root t) previous a.force g.artifacts with e | _ | ⟨c, cs⟩
      · exact .nothing t [] _
      · exact .all (.refl t) ()
      · have hwrote : WroteUpTo t (Artifact.writes (a.root t) (c :: cs))
            (Artifact.writeAll t (a.root t) (c :: cs) true) := Artifact.writeAll_wrote (.inl rfl)
        simp only
        refine Outcome.wrote_then_save hwrote (fun e t1 hr => ?_) (fun paths t1 e t2 hr hs => ?_)
          fun paths t1 t2 hr hs => ?_
        · rw [hr]
          exact ⟨_, rfl⟩
        · simp only [hr, hs]
          exact ⟨_, rfl⟩
        · simp only [hr, hs]
          exact ⟨_, rfl⟩

end AddArgs

end PipeLoom
