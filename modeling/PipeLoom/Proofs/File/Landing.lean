import PipeLoom.File.Tree
import PipeLoom.Proofs.File.Segments

/-!
# Where paths land

The landing of a path is the place it spells, whatever stands on the way. A path that can be
followed leads to its landing (`target_ok`), and the same path below a root lands at the same place
(`landing_join_of_same`).
-/

namespace PipeLoom.FileTree

variable {t : FileTree}

/-! ## Entries -/

theorem lookup_filter_ne {es : List (Place × Entry)} {p q : Place} (h : q ≠ p) :
    (es.filter (·.1 != p)).lookup q = es.lookup q := by
  induction es with
  | nil => rfl
  | cons e es ih =>
    obtain ⟨k, e⟩ := e
    rw [List.filter_cons]
    by_cases hk : k = p
    · rw [if_neg (by simp [hk]), ih, List.lookup_cons, beq_false_of_ne (hk ▸ h)]
    · rw [if_pos (bne_iff_ne.2 hk), List.lookup_cons, List.lookup_cons, ih]

theorem get?_put_of_ne {p q : Place} (h : q ≠ p) (e : Entry) : (t.put p e).get? q = t.get? q := by
  unfold get? put
  rw [List.lookup_cons, beq_false_of_ne h, lookup_filter_ne h]

theorem get?_put_self {p : Place} (h : p ≠ []) (e : Entry) : (t.put p e).get? p = some e := by
  unfold get? put
  rw [if_neg h, List.lookup_cons, beq_self_eq_true]

theorem get?_nil : t.get? [] = some .directory := rfl

/-! ## Landings -/

/-- The place that names spell from another one. -/
def walk : Place → List String → Place
  | here, [] => here
  | here, "." :: r => walk here r
  | here, ".." :: r => walk here.dropLast r
  | here, name :: r => walk (here ++ [name]) r

theorem walk_name {name : String} (h1 : name ≠ ".") (h2 : name ≠ "..") (here : Place)
    (r : List String) : walk here (name :: r) = walk (here ++ [name]) r := by
  rw [walk]
  · exact h1
  · exact h2

/-- Where a path starts. -/
def start (t : FileTree) (p : Path) : Place := if p.isAbsolute then [] else t.current

def landing (t : FileTree) (p : Path) : Place := walk (t.start p) p.segments

namespace Target

def place : Target → Place
  | entry p _ | vacant p => p

/-- What the target says is so in the tree. -/
def Stands (t : FileTree) : Target → Prop
  | entry p (.file content) => t.get? p = some (.file content)
  | entry _ .directory => True
  | vacant p => p ≠ [] ∧ t.get? p = none

end Target

theorem follow_ok {here : Place} {ss : List String} {g : Target} (h : t.follow here ss = .ok g) :
    g.place = walk here ss ∧ g.Stands t := by
  fun_induction follow t here ss with
  | case1 here =>
    cases h
    exact ⟨rfl, trivial⟩
  | case2 here r ih => exact ih h
  | case3 here r ih => exact ih h
  | case4 => cases h
  | case5 here name h1 h2 hlen r hd ih =>
    rw [walk_name h1 h2]
    exact ih h
  | case6 here name h1 h2 hlen content hf =>
    cases h
    rw [walk_name h1 h2]
    exact ⟨rfl, hf⟩
  | case7 => cases h
  | case8 here name h1 h2 hlen hn =>
    cases h
    rw [walk_name h1 h2]
    exact ⟨rfl, by simp, hn⟩
  | case9 => cases h

theorem target_ok {p : Path} {g : Target} (h : t.target p = .ok g) :
    g.place = t.landing p ∧ g.Stands t := by
  unfold target at h
  split at h
  · cases h
  · split at h
    · cases h
    · split at h
      · rename_i place content hf
        split at h
        · cases h
        · cases h
          exact follow_ok hf
      · exact follow_ok h

theorem get?_landing_of_read {p : Path} {c : String} (h : t.read p = .ok c) :
    t.get? (t.landing p) = some (.file c) := by
  unfold read at h
  split at h
  · rename_i place content hp
    cases h
    obtain ⟨hplace, hstands⟩ := target_ok hp
    rw [← hplace]
    exact hstands
  · cases h
  · cases h
  · cases h

/-! ## Last names -/

theorem walk_append (here : Place) (ss rs : List String) :
    walk here (ss ++ rs) = walk (walk here ss) rs := by
  fun_induction walk here ss with
  | case1 here => rfl
  | case2 here r ih => exact ih
  | case3 here r ih => exact ih
  | case4 here name r h1 h2 ih =>
    rw [List.cons_append, walk_name h1 h2]
    exact ih

/-- A path that ends in a name lands at that name. -/
theorem getLast?_landing {p : Path} {name : String} (h : p.segments.getLast? = some name)
    (h1 : name ≠ ".") (h2 : name ≠ "..") : (t.landing p).getLast? = some name := by
  obtain ⟨ss, hss⟩ := List.getLast?_eq_some_iff.1 h
  unfold landing
  rw [hss, walk_append, walk_name h1 h2, walk]
  exact List.getLast?_concat

/-- Names that end in a proper one lead to a directory only if it stands there. -/
theorem get?_of_follow_directory {here q : Place} {ss : List String} {name : String}
    (h : t.follow here ss = .ok (.entry q .directory)) (hlast : ss.getLast? = some name)
    (h1 : name ≠ ".") (h2 : name ≠ "..") : t.get? q = some .directory := by
  fun_induction follow t here ss with
  | case1 => cases hlast
  | case2 here r ih =>
    cases r with
    | nil => exact absurd (Option.some.inj hlast).symm h1
    | cons _ _ => exact ih h hlast
  | case3 here r ih =>
    cases r with
    | nil => exact absurd (Option.some.inj hlast).symm h2
    | cons _ _ => exact ih h hlast
  | case4 => cases h
  | case5 here n _ _ _ r hd ih =>
    cases r with
    | nil =>
      cases h
      exact hd
    | cons _ _ => exact ih h hlast
  | case6 => cases h
  | case7 => cases h
  | case8 => cases h
  | case9 => cases h

/-- Nothing is found where nothing stands. -/
theorem isThere_eq_false {p : Path} {name : String} (hlast : p.segments.getLast? = some name)
    (h1 : name ≠ ".") (h2 : name ≠ "..") (hp : t.get? (t.landing p) = none) :
    t.isThere p = false := by
  unfold isThere entryAt?
  split
  · rename_i q e htarget
    obtain ⟨hplace, hstands⟩ := target_ok htarget
    rw [← hplace] at hp
    cases e with
    | file c =>
      have hfile : t.get? q = some (.file c) := hstands
      rw [show t.get? q = none from hp] at hfile
      cases hfile
    | directory =>
      unfold target at htarget
      split at htarget
      · cases htarget
      · split at htarget
        · cases htarget
        · split at htarget
          · split at htarget <;> cases htarget
          · have hdir := get?_of_follow_directory htarget hlast h1 h2
            rw [show t.get? q = none from hp] at hdir
            cases hdir
  · rfl

/-! ## Same paths -/

theorem walk_filter (here : Place) (ss : List String) :
    walk here ss = walk here (ss.filter (· != ".")) := by
  fun_induction walk here ss with
  | case1 here => rfl
  | case2 here r ih => exact ih
  | case3 here r ih =>
    rw [List.filter_cons, if_pos (by decide), walk]
    exact ih
  | case4 here name r h1 h2 ih =>
    rw [List.filter_cons, if_pos (bne_iff_ne.2 h1), walk_name h1 h2]
    exact ih

/-- Where a path leads from a place. -/
def landingFrom (here : Place) (p : Path) : Place :=
  walk (if p.isAbsolute then [] else here) p.names

theorem landing_eq_from (p : Path) : t.landing p = landingFrom t.current p := walk_filter _ _

/-- A joined path leads where its second part leads from the end of the first. -/
theorem landingFrom_join (here : Place) (p q : Path) :
    landingFrom here (p.join q) = landingFrom (landingFrom here p) q := by
  unfold landingFrom
  by_cases hq : q.isAbsolute = true
  · rw [Path.join_of_isAbsolute hq, if_pos hq, if_pos hq]
  · have hq' := Bool.eq_false_iff.2 hq
    rw [Path.join_isAbsolute hq', Path.join_names hq', walk_append, if_neg hq]

theorem landing_join (p q : Path) : t.landing (p.join q) = landingFrom (t.landing p) q := by
  rw [landing_eq_from, landing_eq_from, landingFrom_join]

theorem landingFrom_of_same {p q : Path} (h : p.same q = true) (here : Place) :
    landingFrom here p = landingFrom here q := by
  unfold landingFrom
  rw [Path.isAbsolute_of_same h, Path.names_of_same h]

/-- The same path below a root lands at the same place. -/
theorem landing_join_of_same {p q : Path} (h : p.same q = true) (root : Path) :
    t.landing (root.join p) = t.landing (root.join q) := by
  rw [landing_join, landing_join, landingFrom_of_same h]

end PipeLoom.FileTree
