import PipeLoom.Proofs.File.Landing

/-!
# What writing does and leaves alone

`Wrote t ws t'`: from `t` to `t'` the contents `ws` were written, one after the other, and no other
file was made or changed. Every operation that changes a tree does so in this sense, also when it
fails.
-/

namespace PipeLoom.FileTree

variable {t t' : FileTree}

/-- The content that is written last at a place. -/
def lastAt (t : FileTree) (ws : List (Path × String)) (q : Place) : Option String :=
  (ws.filter fun w => t.landing w.1 == q).getLast?.map (·.2)

structure Wrote (t : FileTree) (ws : List (Path × String)) (t' : FileTree) : Prop where
  current : t'.current = t.current
  directory {q : Place} : t.get? q = some .directory → t'.get? q = some .directory
  file {q : Place} {c : String} : t.get? q = some (.file c) →
    t'.get? q = some (.file ((t.lastAt ws q).getD c))
  created {q : Place} {c : String} : t.get? q = none → t'.get? q = some (.file c) →
    t.lastAt ws q = some c
  /-- What is written last at a path can be read there. -/
  delivered {w : Path × String} : w ∈ ws →
    ∃ c, t.lastAt ws (t.landing w.1) = some c ∧ t'.read w.1 = .ok c
  /-- A path that was written could be followed, but for what was missing. -/
  reached {w : Path × String} {e : FileError} : w ∈ ws → t.target w.1 = .error e → e = .notFound

/-- The content written last at a place was written by one of the writes. -/
theorem mem_of_lastAt {t : FileTree} {ws : List (Path × String)} {q : Place} {c : String}
    (h : t.lastAt ws q = some c) : ∃ w ∈ ws, t.landing w.1 = q ∧ w.2 = c := by
  obtain ⟨w, hw, hc⟩ := Option.map_eq_some_iff.1 h
  obtain ⟨hmem, hland⟩ := List.mem_filter.1 (List.mem_of_getLast? hw)
  exact ⟨w, hmem, eq_of_beq hland, hc⟩

theorem lastAt_ne_none {t : FileTree} {ws : List (Path × String)} {w : Path × String}
    (hw : w ∈ ws) : t.lastAt ws (t.landing w.1) ≠ none := by
  intro h
  have hnil := List.getLast?_eq_none_iff.1 (Option.map_eq_none_iff.1 h)
  exact absurd (beq_self_eq_true _) (List.filter_eq_nil_iff.1 hnil w hw)

/-- Of two runs of writes the second counts, where it wrote. -/
theorem lastAt_append (t : FileTree) (ws vs : List (Path × String)) (q : Place) :
    t.lastAt (ws ++ vs) q = (t.lastAt vs q).or (t.lastAt ws q) := by
  unfold lastAt
  rw [List.filter_append, List.getLast?_append, Option.map_or]

theorem lastAt_single (t : FileTree) (p : Path) (c : String) (q : Place) :
    t.lastAt [(p, c)] q = if t.landing p = q then some c else none := by
  unfold lastAt
  by_cases h : t.landing p = q
  · rw [if_pos h, List.filter_cons, if_pos (beq_iff_eq.2 h)]
    rfl
  · rw [if_neg h, List.filter_cons, if_neg fun heq => h (eq_of_beq heq)]
    rfl

/-! ## Errors that stay -/

section Follow

variable {here : Place} {name : String} (h1 : name ≠ ".") (h2 : name ≠ "..")
include h1 h2

theorem follow_long (hlen : maxName < name.utf8ByteSize) (r : List String) :
    t.follow here (name :: r) = .error .nameTooLong := by
  rcases hn : t.get? (here ++ [name]) with _ | e
  · cases r <;> simp [follow, hlen, hn]
  · cases e <;> cases r <;> simp [follow, hlen, hn]

variable (hlen : ¬maxName < name.utf8ByteSize)
include hlen

theorem follow_directory (hn : t.get? (here ++ [name]) = some .directory) (r : List String) :
    t.follow here (name :: r) = t.follow (here ++ [name]) r := by
  simp [follow, hlen, hn]

theorem follow_file {c : String} (hn : t.get? (here ++ [name]) = some (.file c)) :
    t.follow here [name] = .ok (.entry (here ++ [name]) (.file c)) := by
  simp [follow, hlen, hn]

theorem follow_through_file {c : String} (hn : t.get? (here ++ [name]) = some (.file c))
    (s : String) (r : List String) : t.follow here (name :: s :: r) = .error .notADirectory := by
  simp [follow, hlen, hn]

end Follow

/-- A file that is put where a path leads stands there. -/
theorem follow_put_file {here : Place} {ss : List String} {g : Target}
    (h : t.follow here ss = .ok g) (hg : ∀ p, g ≠ .entry p .directory) (c : String) :
    (t.put g.place (.file c)).follow here ss = .ok (.entry g.place (.file c)) := by
  have hplace : g.place ≠ [] ∧ t.get? g.place ≠ some .directory := by
    have hstands := (follow_ok h).2
    rcases g with ⟨p, old | _⟩ | p
    · have hfile : t.get? p = some (.file old) := hstands
      refine ⟨?_, by simp [Target.place, hfile]⟩
      rintro rfl
      cases hfile
    · exact absurd rfl (hg p)
    · exact ⟨hstands.1, by simp [Target.place, hstands.2]⟩
  fun_induction follow t here ss with
  | case1 here =>
    cases h
    exact absurd rfl (hg here)
  | case2 here r ih => exact ih h
  | case3 here r ih => exact ih h
  | case4 => cases h
  | case5 here name h1 h2 hlen r hd ih =>
    have hne : here ++ [name] ≠ g.place := fun heq => hplace.2 (heq ▸ hd)
    rw [follow_directory h1 h2 hlen (by rw [get?_put_of_ne hne]; exact hd)]
    exact ih h
  | case6 here name h1 h2 hlen content hc =>
    cases h
    exact follow_file h1 h2 hlen (get?_put_self hplace.1 _)
  | case7 => cases h
  | case8 here name h1 h2 hlen hn =>
    cases h
    exact follow_file h1 h2 hlen (get?_put_self hplace.1 _)
  | case9 => cases h

/-- The path is one that can be followed. -/
def Followable (p : Path) : Prop := p.text.toList.contains '\x00' = false ∧ p.text.isEmpty = false

theorem follow_of_target {p : Path} {g : Target} (h : t.target p = .ok g) :
    Followable p ∧ t.follow (t.start p) p.segments = .ok g := by
  unfold target at h
  split at h
  · cases h
  · rename_i hbad
    split at h
    · cases h
    · rename_i hempty
      refine ⟨⟨Bool.eq_false_iff.2 hbad, Bool.eq_false_iff.2 hempty⟩, ?_⟩
      show t.follow (if p.isAbsolute then [] else t.current) p.segments = .ok g
      split at h
      · rename_i hf
        rw [hf]
        split at h
        · cases h
        · exact h
      · exact h

theorem read_of_follow {p : Path} {q : Place} {c : String} (hp : Followable p)
    (hslash : p.endsInSlash = false)
    (h : t.follow (t.start p) p.segments = .ok (.entry q (.file c))) : t.read p = .ok c := by
  have htarget : t.target p = .ok (.entry q (.file c)) := by
    have hf : t.follow (if p.isAbsolute then [] else t.current) p.segments =
        .ok (.entry q (.file c)) := h
    unfold target
    rw [if_neg (Bool.eq_false_iff.1 hp.1), if_neg (Bool.eq_false_iff.1 hp.2), hf]
    simp only
    rw [hslash]
    rfl
  unfold read
  rw [htarget]

theorem endsInSlash_of_target {p : Path} {q : Place} {c : String}
    (h : t.target p = .ok (.entry q (.file c))) : p.endsInSlash = false := by
  unfold target at h
  split at h
  · cases h
  · split at h
    · cases h
    · split at h
      · split at h
        · cases h
        · rename_i hslash
          exact Bool.eq_false_iff.2 hslash
      · rename_i hnone
        exact absurd h (hnone q c)

theorem target_of_read {p : Path} {c : String} (h : t.read p = .ok c) :
    ∃ q, t.target p = .ok (.entry q (.file c)) := by
  unfold read at h
  split at h
  · rename_i q content hp
    cases h
    exact ⟨q, hp⟩
  · cases h
  · cases h
  · cases h

theorem read_put_file {p : Path} {g : Target} (h : t.target p = .ok g)
    (hg : ∀ q, g ≠ .entry q .directory) (hslash : p.endsInSlash = false) (c : String) :
    (t.put g.place (.file c)).read p = .ok c := by
  obtain ⟨hp, hfollow⟩ := follow_of_target h
  exact read_of_follow hp hslash (follow_put_file hfollow hg c)

namespace Wrote

variable {ws : List (Path × String)} (h : Wrote t ws t')
include h

theorem start_eq (p : Path) : t'.start p = t.start p := by
  unfold start
  rw [h.current]

theorem landing_eq (p : Path) : t'.landing p = t.landing p := by
  unfold landing
  rw [h.start_eq]

theorem lastAt_eq (vs : List (Path × String)) (q : Place) : t'.lastAt vs q = t.lastAt vs q := by
  unfold lastAt
  simp only [h.landing_eq]

theorem follow_to_file {here : Place} {ss : List String} {p : Place} {c : String}
    (hf : t.follow here ss = .ok (.entry p (.file c))) :
    ∃ c', t'.follow here ss = .ok (.entry p (.file c')) := by
  fun_induction follow t here ss with
  | case1 => cases hf
  | case2 here r ih => exact ih hf
  | case3 here r ih => exact ih hf
  | case4 => cases hf
  | case5 here name h1 h2 hlen r hd ih =>
    rw [follow_directory h1 h2 hlen (h.directory hd)]
    exact ih hf
  | case6 here name h1 h2 hlen content hc =>
    cases hf
    exact ⟨_, follow_file h1 h2 hlen (h.file hc)⟩
  | case7 => cases hf
  | case8 => cases hf
  | case9 => cases hf

/-- A file that could be read still can, and holds what was written last, if anything was. -/
theorem read_of_read {p : Path} {c : String} (hp : t.read p = .ok c) :
    t'.read p = .ok ((t.lastAt ws (t.landing p)).getD c) := by
  obtain ⟨q, htarget⟩ := target_of_read hp
  obtain ⟨hfollowable, hfollow⟩ := follow_of_target htarget
  obtain ⟨c', hfollow'⟩ := h.follow_to_file hfollow
  rw [← h.start_eq] at hfollow'
  have hread := read_of_follow hfollowable (endsInSlash_of_target htarget) hfollow'
  have hafter := h.file (get?_landing_of_read hp)
  rw [← h.landing_eq, get?_landing_of_read hread] at hafter
  cases hafter
  rw [hread, h.landing_eq]

theorem follow_error {here : Place} {ss : List String} {e : FileError}
    (hf : t.follow here ss = .error e) (he : e ≠ .notFound) : t'.follow here ss = .error e := by
  fun_induction follow t here ss with
  | case1 => cases hf
  | case2 here r ih => exact ih hf
  | case3 here r ih => exact ih hf
  | case4 here name r h1 h2 hlen =>
    rw [follow_long h1 h2 hlen]
    exact hf
  | case5 here name h1 h2 hlen r hd ih =>
    rw [follow_directory h1 h2 hlen (h.directory hd)]
    exact ih hf
  | case6 => cases hf
  | case7 here name h1 h2 hlen s r content hc =>
    rw [follow_through_file h1 h2 hlen (h.file hc)]
    exact hf
  | case8 => cases hf
  | case9 =>
    cases hf
    exact absurd rfl he

theorem target_error {p : Path} {e : FileError} (hp : t.target p = .error e) (he : e ≠ .notFound) :
    t'.target p = .error e := by
  unfold target at hp ⊢
  rw [h.current]
  split at hp
  · rename_i hbad
    rw [if_pos hbad]
    exact hp
  · rename_i hbad
    rw [if_neg hbad]
    split at hp
    · cases hp
      exact absurd rfl he
    · rename_i hempty
      rw [if_neg hempty]
      split at hp
      · rename_i place content hf
        obtain ⟨c', hf'⟩ := h.follow_to_file hf
        split at hp
        · rename_i hslash
          rw [hf']
          simp only
          rw [if_pos hslash]
          exact hp
        · cases hp
      · rw [h.follow_error hp he]

end Wrote

/-! ## Writing in order -/

namespace Wrote

theorem refl (t : FileTree) : Wrote t [] t where
  current := rfl
  directory hq := hq
  file hq := hq
  created hq hq' := by
    rw [hq] at hq'
    cases hq'
  delivered hw := absurd hw List.not_mem_nil
  reached hw := absurd hw List.not_mem_nil

theorem trans {t'' : FileTree} {ws vs : List (Path × String)} (h : Wrote t ws t')
    (h' : Wrote t' vs t'') : Wrote t (ws ++ vs) t'' where
  current := h'.current.trans h.current
  directory hq := h'.directory (h.directory hq)
  file {q c} hq := by
    rw [h'.file (h.file hq), h.lastAt_eq, lastAt_append]
    cases t.lastAt vs q <;> rfl
  created {q c} hq hq' := by
    rw [lastAt_append]
    rcases hq1 : t'.get? q with _ | c1 | _
    · rw [← h.lastAt_eq, h'.created hq1 hq']
      rfl
    · have hafter := h'.file hq1
      rw [hq'] at hafter
      cases hafter
      rw [h.created hq hq1, h.lastAt_eq]
      cases t.lastAt vs q <;> rfl
    · rw [h'.directory hq1] at hq'
      cases hq'
  delivered {w} hw := by
    simp only [lastAt_append]
    rcases List.mem_append.1 hw with hw | hw
    · obtain ⟨c, hlast, hread⟩ := h.delivered hw
      have hread' := h'.read_of_read hread
      rw [h.landing_eq, h.lastAt_eq] at hread'
      rw [hlast]
      cases hlater : t.lastAt vs (t.landing w.1) with
      | none => exact ⟨c, rfl, by rw [hread', hlater]; rfl⟩
      | some c' => exact ⟨c', rfl, by rw [hread', hlater]; rfl⟩
    · obtain ⟨c, hlast, hread⟩ := h'.delivered hw
      rw [h.landing_eq, h.lastAt_eq] at hlast
      exact ⟨c, by rw [hlast]; rfl, hread⟩
  reached {w e} hw he := by
    by_cases hne : e = .notFound
    · exact hne
    · rcases List.mem_append.1 hw with hw | hw
      · exact h.reached hw he
      · exact h'.reached hw (h.target_error he hne)

end Wrote

theorem wrote_put_directory {p : Place} (hp : t.get? p = none) :
    Wrote t [] (t.put p .directory) where
  current := rfl
  directory {q} hq := by
    rw [get?_put_of_ne]
    · exact hq
    · rintro rfl
      rw [hp] at hq
      cases hq
  file {q c} hq := by
    rw [get?_put_of_ne]
    · exact hq
    · rintro rfl
      rw [hp] at hq
      cases hq
  created {q c} hq hq' := by
    by_cases h : q = p
    · subst h
      have hne : q ≠ [] := fun h => by simp [h, get?_nil] at hp
      rw [get?_put_self hne] at hq'
      cases hq'
    · rw [get?_put_of_ne h, hq] at hq'
      cases hq'
  delivered hw := absurd hw List.not_mem_nil
  reached hw := absurd hw List.not_mem_nil

theorem wrote_put_file {p : Path} {g : Target} (hg : t.target p = .ok g)
    (hdir : t.get? g.place ≠ some .directory) {c : String}
    (hread : (t.put g.place (.file c)).read p = .ok c) :
    Wrote t [(p, c)] (t.put g.place (.file c)) where
  current := rfl
  directory {q} hq := by
    rw [get?_put_of_ne]
    · exact hq
    · rintro rfl
      exact hdir hq
  file {q c'} hq := by
    rw [lastAt_single, ← (target_ok hg).1]
    by_cases h : g.place = q
    · subst h
      have hne : g.place ≠ [] := fun h => hdir (h ▸ get?_nil)
      rw [get?_put_self hne, if_pos rfl]
      rfl
    · rw [get?_put_of_ne (Ne.symm h), if_neg h]
      exact hq
  created {q c'} hq hq' := by
    rw [lastAt_single, ← (target_ok hg).1]
    by_cases h : g.place = q
    · subst h
      have hne : g.place ≠ [] := fun h => hdir (h ▸ get?_nil)
      rw [get?_put_self hne] at hq'
      cases hq'
      exact if_pos rfl
    · rw [get?_put_of_ne (Ne.symm h), hq] at hq'
      cases hq'
  delivered {w} hw := by
    rw [List.mem_singleton.1 hw, lastAt_single, if_pos rfl]
    exact ⟨c, rfl, hread⟩
  reached {w e} hw he := by
    rw [List.mem_singleton.1 hw, hg] at he
    cases he

theorem makeDirectory_wrote {p : Path} (h : t.makeDirectory p = .ok t') : Wrote t [] t' := by
  unfold makeDirectory at h
  split at h
  · cases h
  · rename_i place hp
    cases h
    exact wrote_put_directory (target_ok hp).2.2
  · cases h

theorem makeDirectoriesFrom_wrote (n : Nat) (t : FileTree) (p : Path) :
    Wrote t [] (makeDirectoriesFrom n t p).2 := by
  induction n generalizing t p with
  | zero => exact .refl t
  | succ n ih =>
    unfold makeDirectoriesFrom
    split
    · exact .refl t
    · split
      · rename_i hp
        exact makeDirectory_wrote hp
      · split
        · exact .refl t
        · rename_i parent _
          have habove := ih t parent
          split
          · rename_i heq
            rw [heq] at habove
            exact habove
          · rename_i heq
            rw [heq] at habove
            split
            · rename_i hp
              exact habove.trans (makeDirectory_wrote hp)
            · exact habove
      · exact .refl t

theorem write_wrote {p : Path} {c : String} (h : t.write p c = .ok t') : Wrote t [(p, c)] t' := by
  unfold write at h
  split at h
  · rename_i place old hp
    cases h
    have hfile : t.get? place = some (.file old) := (target_ok hp).2
    refine wrote_put_file hp (by simp [Target.place, hfile]) ?_
    exact read_put_file hp (by simp) (endsInSlash_of_target hp) c
  · cases h
  · rename_i place hp
    split at h
    · cases h
    · rename_i hslash
      cases h
      have hnone : t.get? place = none := (target_ok hp).2.2
      refine wrote_put_file hp (by simp [Target.place, hnone]) ?_
      exact read_put_file hp (by simp) (Bool.eq_false_iff.2 hslash) c
  · cases h

/-! ## Files -/

/-- The content of the file at a place, if one stands there. -/
def file? (t : FileTree) (q : Place) : Option String :=
  match t.get? q with
  | some (.file c) => some c
  | _ => none

theorem file?_eq_some_iff {q : Place} {c : String} :
    t.file? q = some c ↔ t.get? q = some (.file c) := by
  unfold file?
  rcases t.get? q with _ | c' | _ <;> simp

/-- After writing, the files are those that were there, but for what was written last. -/
theorem Wrote.file?_eq {ws : List (Path × String)} (h : Wrote t ws t') (q : Place) :
    t'.file? q = (t.lastAt ws q).or (t.file? q) := by
  cases hlast : t.lastAt ws q with
  | some c =>
    obtain ⟨w, hw, hland, -⟩ := mem_of_lastAt hlast
    obtain ⟨c', hlast', hread⟩ := h.delivered hw
    have hafter := get?_landing_of_read hread
    rw [hland, hlast] at hlast'
    cases hlast'
    rw [h.landing_eq, hland] at hafter
    exact file?_eq_some_iff.2 hafter
  | none =>
    rcases hq : t.get? q with _ | c | _
    · have hfile : t.file? q = none := by simp [file?, hq]
      rw [hfile, Option.or_none, Option.eq_none_iff_forall_ne_some]
      intro c hc
      rw [h.created hq (file?_eq_some_iff.1 hc)] at hlast
      cases hlast
    · have hafter := h.file hq
      rw [hlast] at hafter
      rw [file?_eq_some_iff.2 hq]
      exact file?_eq_some_iff.2 hafter
    · unfold file?
      rw [hq, h.directory hq]
      rfl

theorem lastAt_eq_none {t : FileTree} {ws : List (Path × String)} {q : Place}
    (h : ∀ w ∈ ws, t.landing w.1 ≠ q) : t.lastAt ws q = none := by
  rw [Option.eq_none_iff_forall_ne_some]
  intro c hc
  obtain ⟨w, hw, hland, -⟩ := mem_of_lastAt hc
  exact h w hw hland

section Wrote

variable {ws : List (Path × String)} (h : Wrote t ws t')
include h

/-- What was written can be read, unless something else was written to the same place. -/
theorem Wrote.read_of_mem {w : Path × String} (hw : w ∈ ws)
    (honly : ∀ v ∈ ws, t.landing v.1 = t.landing w.1 → v.2 = w.2) : t'.read w.1 = .ok w.2 := by
  obtain ⟨c, hlast, hread⟩ := h.delivered hw
  obtain ⟨v, hv, hland, rfl⟩ := mem_of_lastAt hlast
  rw [hread, honly v hv hland]

theorem Wrote.read_of_untouched {p : Path} {c : String} (hp : t.read p = .ok c)
    (hnone : ∀ w ∈ ws, t.landing w.1 ≠ t.landing p) : t'.read p = .ok c := by
  rw [h.read_of_read hp, lastAt_eq_none hnone]
  rfl

theorem Wrote.file?_of_untouched {q : Place} (hnone : ∀ w ∈ ws, t.landing w.1 ≠ q) :
    t'.file? q = t.file? q := by
  rw [h.file?_eq, lastAt_eq_none hnone]
  rfl

end Wrote

/-! ## Runs of writes -/

/-- The contents that a run set out to write and has written when it ends with `r`: all of them if
it succeeds, else some of the first. -/
def WroteUpTo {ε α : Type} (t : FileTree) (ws : List (Path × String)) (r : Except ε α × FileTree) :
    Prop :=
  ∃ done, done <+: ws ∧ Wrote t done r.2 ∧ ∀ a, r.1 = .ok a → done = ws

namespace WroteUpTo

variable {ε ε' α β : Type} {ws vs : List (Path × String)}

theorem nothing (t : FileTree) (ws : List (Path × String)) (e : ε) :
    WroteUpTo t ws ((.error e : Except ε α), t) :=
  ⟨[], List.nil_prefix, .refl t, fun _ h => nomatch h⟩

theorem all (h : Wrote t ws t') (a : α) : WroteUpTo t ws ((.ok a : Except ε α), t') :=
  ⟨ws, List.prefix_rfl, h, fun _ _ => rfl⟩

theorem fail {e : ε} (h : WroteUpTo t ws ((.error e : Except ε α), t')) (e' : ε') :
    WroteUpTo t ws ((.error e' : Except ε' β), t') := by
  obtain ⟨done, hdone, hwrote, -⟩ := h
  exact ⟨done, hdone, hwrote, fun _ h => nomatch h⟩

theorem failBefore {e : ε} (h : WroteUpTo t ws ((.error e : Except ε α), t'))
    (vs : List (Path × String)) : WroteUpTo t (ws ++ vs) ((.error e : Except ε α), t') := by
  obtain ⟨done, hdone, hwrote, -⟩ := h
  exact ⟨done, hdone.trans (List.prefix_append ws vs), hwrote, fun _ h => nomatch h⟩

theorem wrote {a : α} (h : WroteUpTo t ws ((.ok a : Except ε α), t')) : Wrote t ws t' := by
  obtain ⟨done, -, hwrote, hall⟩ := h
  rwa [hall a rfl] at hwrote

theorem andThen {a : α} {r : Except ε' β × FileTree}
    (h : WroteUpTo t ws ((.ok a : Except ε α), t')) (h' : WroteUpTo t' vs r) :
    WroteUpTo t (ws ++ vs) r := by
  obtain ⟨done, hdone, hwrote, hall⟩ := h'
  refine ⟨ws ++ done, (List.prefix_append_right_inj ws).2 hdone, h.wrote.trans hwrote, ?_⟩
  intro b hb
  rw [hall b hb]

end WroteUpTo

theorem makeDirectories_wrote (t : FileTree) (p : Path) : Wrote t [] (t.makeDirectories p).2 :=
  makeDirectoriesFrom_wrote _ t p

theorem write_after_wrote {t1 : FileTree} (h : Wrote t [] t1) (made : Except FileError Unit)
    (p : Path) (c : String) :
    WroteUpTo t [(p, c)] (match made with
      | .error e => (.error e, t1)
      | .ok () =>
        match t1.write p c with
        | .ok t => (.ok (), t)
        | .error e => (.error e, t1)) := by
  have hmade : WroteUpTo t [] ((.ok () : Except FileError Unit), t1) := .all h ()
  cases made with
  | error e => exact ⟨[], List.nil_prefix, h, fun _ h => nomatch h⟩
  | ok _ =>
    simp only
    split
    · rename_i hw
      exact hmade.andThen (.all (write_wrote hw) ())
    · rename_i e _
      exact hmade.andThen (.nothing t1 [(p, c)] e)

theorem writeWithParents_wrote (t : FileTree) (p : Path) (c : String) :
    WroteUpTo t [(p, c)] (t.writeWithParents p c) := by
  unfold writeWithParents
  cases p.parent? with
  | none => exact write_after_wrote (.refl t) (.ok ()) p c
  | some parent =>
    exact write_after_wrote (t.makeDirectories_wrote parent) (t.makeDirectories parent).1 p c

/-! ## Devices that fail -/

/-- What any file system promises of writing a file. If it succeeds, the content is written. If it
fails, either nothing but directories was made or the file holds whatever was left in it, a part of
the content for instance. Contents are texts, so that nothing is cut inside a character. Nothing is
left where the path does not lead to a file or the directories above it cannot be made. -/
structure Faithful (write : Writing) : Prop where
  written {t t' : FileTree} {p : Path} {c : String} :
    write t p c = (.ok (), t') → Wrote t [(p, c)] t'
  failed {t t' : FileTree} {p : Path} {c : String} {e : FileError} :
    write t p c = (.error e, t') → Wrote t [] t' ∨ ∃ left, Wrote t [(p, left)] t'
  unreachable {t : FileTree} {p : Path} {c : String} {e : FileError} :
    (t.writeWithParents p c).1 = .error e →
      ∃ e', (write t p c).1 = .error e' ∧ Wrote t [] (write t p c).2

theorem wrote_of_writeWithParents_error {p : Path} {c : String} {e : FileError}
    (h : t.writeWithParents p c = (.error e, t')) : Wrote t [] t' := by
  unfold writeWithParents at h
  split at h
  rename_i made t1 hmade
  have hwrote : Wrote t [] t1 := by
    split at hmade
    · rename_i parent _
      have hparents := t.makeDirectories_wrote parent
      rw [hmade] at hparents
      exact hparents
    · cases hmade
      exact .refl t
  split at h
  · cases h
    exact hwrote
  · split at h
    · cases h
    · cases h
      exact hwrote

/-- A device that never fails. -/
theorem faithful_writeWithParents : Faithful writeWithParents where
  written {t t' p c} h := by
    have hwrote := t.writeWithParents_wrote p c
    rw [h] at hwrote
    exact hwrote.wrote
  failed h := .inl (wrote_of_writeWithParents_error h)
  unreachable {t p c e} h := ⟨e, h, wrote_of_writeWithParents_error (Prod.ext h rfl)⟩

theorem write_error {p : Path} {c : String} {e : FileError} (h : t.write p c = .error e)
    (c' : String) : t.write p c' = .error e := by
  unfold write at h ⊢
  split at h
  · cases h
  · exact h
  · split at h
    · rename_i hslash
      rw [if_pos hslash]
      exact h
    · cases h
  · exact h

/-- Whether a file can be reached does not depend on the content. -/
theorem writeWithParents_error {p : Path} {c : String} {e : FileError}
    (h : (t.writeWithParents p c).1 = .error e) (c' : String) :
    (t.writeWithParents p c').1 = .error e := by
  unfold writeWithParents at h ⊢
  simp only at h ⊢
  split at h
  · exact h
  · split at h
    · cases h
    · rename_i hw
      rw [write_error hw c']
      exact h

/-- Writes to a device that is broken at one place: a file there is left with the given content. -/
def writeBrokenAt (q : Place) (left : String) : Writing := fun t p c =>
  if t.landing p = q then
    match t.writeWithParents p left with
    | (.ok (), t') => (.error (.other "Input/output error (os error 5)"), t')
    | (.error e, t') => (.error e, t')
  else t.writeWithParents p c

theorem faithful_writeBrokenAt (q : Place) (left : String) : Faithful (writeBrokenAt q left) where
  written {t t' p c} h := by
    unfold writeBrokenAt at h
    split at h
    · split at h <;> cases h
    · exact faithful_writeWithParents.written h
  failed {t t' p c e} h := by
    unfold writeBrokenAt at h
    split at h
    · split at h
      · rename_i hw
        cases h
        exact .inr ⟨left, faithful_writeWithParents.written hw⟩
      · rename_i hw
        cases h
        exact faithful_writeWithParents.failed hw
    · exact faithful_writeWithParents.failed h
  unreachable {t p c e} h := by
    unfold writeBrokenAt
    split
    · have hleft := writeWithParents_error h left
      split
      · rename_i hw
        rw [hw] at hleft
        cases hleft
      · rename_i hw
        exact ⟨_, rfl, wrote_of_writeWithParents_error hw⟩
    · exact faithful_writeWithParents.unreachable h

/-- All contents are written, in order. -/
inductive Completes (write : Writing) : FileTree → List (Path × String) → FileTree → Prop
  | nil {t : FileTree} : Completes write t [] t
  | cons {t t1 t' : FileTree} {w : Path × String} {ws : List (Path × String)} :
      write t w.1 w.2 = (.ok (), t1) → Completes write t1 ws t' → Completes write t (w :: ws) t'

/-- Writing in order comes to a file that cannot be written: with the contents `done` written the
tree is `between`, then `w` fails with `e`, which leaves `t'`. -/
structure StopsAt (write : Writing) (t : FileTree) (done : List (Path × String))
    (between : FileTree) (w : Path × String) (e : FileError) (t' : FileTree) : Prop where
  completes : Completes write t done between
  fails : write between w.1 w.2 = (.error e, t')

section Faithful

variable {write : Writing} (hwrite : Faithful write) {ws done : List (Path × String)}
  {between : FileTree} {w : Path × String} {e : FileError}
include hwrite

theorem Completes.wrote (h : Completes write t ws t') : Wrote t ws t' := by
  induction h with
  | nil => exact .refl _
  | cons hw _ ih => exact (hwrite.written hw).trans ih

/-- Beside what was written before there is at most what is left of the file that failed, and
nothing of a file that cannot be reached. -/
theorem StopsAt.exists_left (h : StopsAt write t done between w e t') :
    ∃ left, (left = [] ∨ ∃ rest, left = [(w.1, rest)]) ∧ Wrote t (done ++ left) t' ∧
      ((between.writeWithParents w.1 w.2).1 ≠ .ok () → left = []) := by
  have hdone := h.completes.wrote hwrite
  rcases hreach : (between.writeWithParents w.1 w.2).1 with e' | ⟨⟩
  · obtain ⟨-, -, hnothing⟩ := hwrite.unreachable hreach
    rw [h.fails] at hnothing
    exact ⟨[], .inl rfl, hdone.trans hnothing, fun _ => rfl⟩
  · rcases hwrite.failed h.fails with hnothing | ⟨rest, hleft⟩
    · exact ⟨[], .inl rfl, hdone.trans hnothing, fun _ => rfl⟩
    · exact ⟨_, .inr ⟨rest, rfl⟩, hdone.trans hleft, fun hne => absurd rfl hne⟩

/-- Where the first file cannot be reached, no other is written either. -/
theorem StopsAt.eq_nil (h : StopsAt write t done between w e t') {v : Path × String}
    {e' : FileError} (hfirst : (done ++ [w]).head? = some v)
    (hv : (t.writeWithParents v.1 v.2).1 = .error e') : done = [] ∧ between = t ∧ w = v := by
  cases h.completes with
  | nil => exact ⟨rfl, rfl, Option.some.inj hfirst⟩
  | cons hu _ =>
    cases hfirst
    obtain ⟨_, herror, -⟩ := hwrite.unreachable hv
    rw [hu] at herror
    cases herror

end Faithful

end PipeLoom.FileTree
