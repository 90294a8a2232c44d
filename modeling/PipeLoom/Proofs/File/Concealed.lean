import PipeLoom.Proofs.File.Landing

/-!
# Concealed files

A path can conceal a file: the path is reported missing, but the file stands where the path lands,
which is where writing to the path leads once the missing directories are made. Only a path that
goes up by `..` conceals a file (`parent_mem_of_conceals`): it leaves a directory that is missing.
-/

namespace PipeLoom.FileTree

variable {t : FileTree}

/-- The path is reported missing and lands at `q`. -/
def Conceals (t : FileTree) (p : Path) (q : Place) : Prop :=
  t.read p = .error .notFound ∧ t.landing p = q

theorem read_eq_notFound_iff {p : Path} :
    t.read p = .error .notFound ↔
      t.isThere p = false ∧ ∀ e, t.target p = .error e → e = .notFound := by
  unfold read isThere entryAt?
  constructor
  · intro h
    split at h
    · cases h
    · cases h
    · rename_i hp
      simp [hp]
    · rename_i hp
      cases h
      simp [hp]
  · rintro ⟨hthere, he⟩
    split
    · rename_i hp
      simp [hp] at hthere
    · rename_i hp
      simp [hp] at hthere
    · rfl
    · rename_i hp
      rw [he _ hp]

/-- A path to be written conceals the place. -/
def ConcealedBy (t : FileTree) (ws : List (Path × String)) (q : Place) : Prop :=
  ∃ w ∈ ws, t.Conceals w.1 q

theorem conceals_of_isThere {t : FileTree} {p : Path} {q : Place}
    (hthere : t.isThere p = false) (hland : t.landing p = q)
    (hreached : ∀ e, t.target p = .error e → e = .notFound) : t.Conceals p q :=
  ⟨read_eq_notFound_iff.2 ⟨hthere, hreached⟩, hland⟩

/-- Every entry stands in a directory, and so does whoever looks around. -/
structure WellFormed (t : FileTree) : Prop where
  current : t.get? t.current = some .directory
  above {p : Place} {name : String} {e : Entry} : t.get? (p ++ [name]) = some e →
    t.get? p = some .directory

theorem WellFormed.exists_of_append (ht : t.WellFormed) {p ns : Place} {e : Entry}
    (h : t.get? (p ++ ns) = some e) : ∃ e', t.get? p = some e' := by
  induction ns generalizing p with
  | nil => exact ⟨e, by rwa [List.append_nil] at h⟩
  | cons n ns ih =>
    rw [List.append_cons] at h
    obtain ⟨e', he⟩ := ih h
    exact ⟨.directory, ht.above he⟩

theorem walk_of_parent_notMem {ss : List String} (h : ".." ∉ ss) (here : Place) :
    walk here ss = here ++ ss.filter (· != ".") := by
  fun_induction walk here ss with
  | case1 here => simp
  | case2 here r ih => exact ih fun hr => h (List.mem_cons_of_mem _ hr)
  | case3 here r ih => exact absurd List.mem_cons_self h
  | case4 here name r h1 h2 ih =>
    rw [List.filter_cons, if_pos (bne_iff_ne.2 h1), ih fun hr => h (List.mem_cons_of_mem _ hr),
      List.append_assoc]
    rfl

theorem follow_of_parent_notMem (ht : t.WellFormed) {here : Place} {ss : List String} {c : String}
    (h : ".." ∉ ss) (hc : t.get? (walk here ss) = some (.file c)) :
    t.follow here ss ≠ .error .notFound ∧ ∀ p, t.follow here ss ≠ .ok (.vacant p) := by
  fun_induction follow t here ss with
  | case1 => simp
  | case2 here r ih => exact ih (fun hr => h (List.mem_cons_of_mem _ hr)) hc
  | case3 here r ih => exact absurd List.mem_cons_self h
  | case4 => simp
  | case5 here name h1 h2 hlen r hd ih =>
    rw [walk_name h1 h2] at hc
    exact ih (fun hr => h (List.mem_cons_of_mem _ hr)) hc
  | case6 => simp
  | case7 => simp
  | case8 here name h1 h2 hlen hn =>
    rw [walk_name h1 h2, walk, hn] at hc
    cases hc
  | case9 here name h1 h2 hlen s r hn =>
    -- what stands below a name stands below an entry
    rw [walk_name h1 h2, walk_of_parent_notMem fun hr => h (List.mem_cons_of_mem _ hr)] at hc
    obtain ⟨e, he⟩ := ht.exists_of_append hc
    rw [hn] at he
    cases he

theorem target_vacant {p : Path} {q : Place} (h : t.target p = .ok (.vacant q)) :
    t.follow (t.start p) p.segments = .ok (.vacant q) := by
  unfold target at h
  split at h
  · cases h
  · split at h
    · cases h
    · split at h
      · split at h <;> cases h
      · exact h

theorem target_notFound {p : Path} (h : t.target p = .error .notFound) :
    p.text = "" ∨ t.follow (t.start p) p.segments = .error .notFound := by
  unfold target at h
  split at h
  · cases h
  · split at h
    · rename_i hempty
      exact .inl (by simpa using hempty)
    · split at h
      · split at h <;> cases h
      · exact .inr h

theorem landing_of_isEmpty {p : Path} (h : p.text = "") : t.landing p = t.current := by
  unfold landing start Path.isAbsolute Path.segments
  rw [h]
  rfl

/-- Only a path that goes up by `..` conceals a file. -/
theorem parent_mem_of_conceals (ht : t.WellFormed) {p : Path} {q : Place} {c : String}
    (h : t.Conceals p q) (hq : t.get? q = some (.file c)) : ".." ∈ p.segments := by
  obtain ⟨hread, rfl⟩ := h
  by_cases hp : ".." ∈ p.segments
  · exact hp
  · exfalso
    obtain ⟨herror, hvacant⟩ := follow_of_parent_notMem ht hp hq
    unfold read at hread
    split at hread
    · cases hread
    · cases hread
    · rename_i place htarget
      exact hvacant place (target_vacant htarget)
    · rename_i e htarget
      cases hread
      rcases target_notFound htarget with hempty | hfollow
      · rw [landing_of_isEmpty hempty, ht.current] at hq
        cases hq
      · exact herror hfollow

example : FileTree.Conceals ⟨[(["ci", "main.yml"], .file "")], []⟩ ⟨"/new/../ci/main.yml"⟩
    ["ci", "main.yml"] := ⟨rfl, rfl⟩

end PipeLoom.FileTree
