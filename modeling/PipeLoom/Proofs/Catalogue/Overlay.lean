import Mathlib.Data.List.Perm.Basic
import PipeLoom.Catalogue.Overlay
import PipeLoom.Proofs.Catalogue.Registration
import PipeLoom.Proofs.Except
import PipeLoom.Proofs.File.Below

/-!
# Loading overlays

The fragment files of a directory have one order (`Listing`). Loading them onto a catalogue succeeds
when all of them are read and the catalogue with their fragments registered in that order is sound,
and gives that catalogue (`loadOnto_eq_registerAll`).
-/

namespace PipeLoom.Overlay

variable {t : FileTree} {dir : Path} {place : Place} {fs gs : List (Place × String)}

/-- The name ends in an extension of fragment files and does not start with it. -/
def IsFragmentName (name : String) : Prop :=
  ∃ stem, stem ≠ "" ∧ (name = stem ++ ".yaml" ∨ name = stem ++ ".yml")

/-- The fragment files below a place, each with its names from there on and its text, in the order
of their names, first to last. -/
structure Listing (t : FileTree) (place : Place) (fs : List (Place × String)) : Prop where
  mem : ∀ names content, (names, content) ∈ fs ↔
    t.get? (place ++ names) = some (.file content) ∧
      ∃ name, names.getLast? = some name ∧ IsFragmentName name
  ordered : fs.Pairwise fun f g => List.Lex (· < ·) f.1 g.1

/-! ## The order of places -/

section Order

variable {p q r : Place}

theorem placeLe_iff : placeLe p q = true ↔ p = q ∨ List.Lex (· < ·) p q := by
  fun_induction placeLe p q with
  | case1 q => cases q <;> simp
  | case2 => simp
  | case3 a p b q ih =>
    rw [List.cons_lex_cons_iff, List.cons.injEq, Bool.or_eq_true, Bool.and_eq_true, ih,
      decide_eq_true_eq, beq_iff_eq, and_or_left]
    exact or_left_comm

theorem placeLe_trans (hpq : placeLe p q = true) (hqr : placeLe q r = true) :
    placeLe p r = true := by
  rw [placeLe_iff] at *
  rcases hpq with rfl | hpq
  · exact hqr
  · rcases hqr with rfl | hqr
    · exact .inr hpq
    · exact .inr (List.lex_trans String.lt_trans hpq hqr)

theorem placeLe_total (p q : Place) : (placeLe p q || placeLe q p) = true := by
  fun_induction placeLe p q with
  | case1 q => rfl
  | case2 => rfl
  | case3 a p b q ih =>
    rw [placeLe]
    by_cases hab : a < b
    · simp [hab]
    · by_cases hba : b < a
      · simp [hba]
      · obtain rfl : a = b := String.le_antisymm (String.not_lt.1 hba) (String.not_lt.1 hab)
        simpa using ih

theorem not_lex_symm (h : List.Lex (· < ·) p q) : ¬List.Lex (· < ·) q p :=
  List.lex_asymm String.lt_asymm h

end Order

/-- A directory has one listing. -/
theorem Listing.eq (hfs : Listing t place fs) (hgs : Listing t place gs) : fs = gs := by
  have hnodup : ∀ {hs}, Listing t place hs → hs.Nodup := by
    intro hs h
    refine h.ordered.imp fun hlex heq => ?_
    rw [heq] at hlex
    exact not_lex_symm hlex hlex
  have hperm : fs.Perm gs := (List.perm_ext_iff_of_nodup (hnodup hfs) (hnodup hgs)).2
    fun f => (hfs.mem f.1 f.2).trans (hgs.mem f.1 f.2).symm
  exact hperm.eq_of_pairwise (fun _ _ _ _ h h' => absurd h' (not_lex_symm h)) hfs.ordered
    hgs.ordered

/-! ## Files -/

/-- The fragment files as they are found. -/
def found (t : FileTree) (dir : Path) : List (Place × String) :=
  (t.filesBelow dir).filter fun f => isFragmentFile ⟨f.1.getLast?.getD ""⟩

def sorted (t : FileTree) (dir : Path) : List (Place × String) :=
  (found t dir).mergeSort fun f g => placeLe f.1 g.1

theorem isFragmentFile_iff {name : String} (hslash : '/' ∉ name.toList) :
    isFragmentFile ⟨name⟩ = true ↔ IsFragmentName name := by
  have hextension : ∀ e : String, (Path.extension? ⟨name⟩ == some e) = true ↔
      Path.extension? ⟨name⟩ = some e := fun e => beq_iff_eq
  unfold isFragmentFile IsFragmentName
  simp only [List.any_cons, List.any_nil, Bool.or_false, Bool.or_eq_true, hextension]
  rw [Path.extension?_eq_some_iff hslash (by decide) (by decide),
    Path.extension?_eq_some_iff hslash (by decide) (by decide), ← exists_or]
  simp only [and_or_left, String.append_assoc]
  rfl

theorem isFragmentFile_getLast?_iff {names : List String} (h : ∀ name ∈ names, '/' ∉ name.toList) :
    isFragmentFile ⟨names.getLast?.getD ""⟩ = true ↔
      ∃ name, names.getLast? = some name ∧ IsFragmentName name := by
  cases hlast : names.getLast? with
  | none => simp [show isFragmentFile ⟨""⟩ = false from rfl]
  | some name =>
    rw [Option.getD_some, isFragmentFile_iff (h name (List.mem_of_getLast? hlast))]
    simp

theorem listing_of_perm (ht : t.Proper) (hdir : t.target dir = .ok (.entry place .directory))
    (hperm : fs.Perm (found t dir)) (hordered : fs.Pairwise fun f g => List.Lex (· < ·) f.1 g.1) :
    Listing t place fs := by
  refine ⟨fun names content => ?_, hordered⟩
  unfold found at hperm
  rw [hperm.mem_iff, List.mem_filter, FileTree.mem_filesBelow hdir ht]
  refine and_congr_right fun hfile => isFragmentFile_getLast?_iff fun name hname => ?_
  exact ht.slash_notMem hfile (List.mem_append_right _ hname)

theorem listing_sorted (ht : t.Proper) (hdir : t.target dir = .ok (.entry place .directory)) :
    Listing t place (sorted t dir) := by
  have hperm : (sorted t dir).Perm (found t dir) := List.mergeSort_perm _ _
  have hle : (sorted t dir).Pairwise fun f g => placeLe f.1 g.1 = true :=
    @List.pairwise_mergeSort (Place × String) (fun f g => placeLe f.1 g.1)
      (fun _ _ _ => placeLe_trans) (fun f g => placeLe_total f.1 g.1) _
  have hne : (sorted t dir).Pairwise fun f g => f.1 ≠ g.1 :=
    (hperm.pairwise_iff fun h => h.symm).2 ((FileTree.nodup_filesBelow hdir ht).filter _)
  exact listing_of_perm ht hdir hperm
    ((hle.and hne).imp fun h => (placeLe_iff.1 h.1).resolve_left h.2)

/-! ## Loading -/

theorem ofText_eq_ok_iff {path : Path} {content : String} {gs : List Fragment} :
    ofText path content = .ok gs ↔ Fragment.readAll? content = some gs := by
  unfold ofText
  cases Fragment.readAll? content <;> simp

theorem load_eq_ok_iff (hdir : t.isDirectory dir = true) {c : Catalogue} :
    load t dir = .ok c ↔ ∃ fss,
      List.Forall₂ (fun f gs => Fragment.readAll? f.2 = some gs) (sorted t dir) fss ∧
        Catalogue.empty.registerAll fss.flatten = c := by
  have hfiles : files t dir = (sorted t dir).map fun f => (f.1.foldl Path.child dir, f.2) := rfl
  unfold load
  rw [hdir, hfiles, List.mapM_map, if_neg (by decide), Except.bind_eq_ok_iff]
  simp only [Except.mapM_eq_ok_iff, Function.comp_apply, ofText_eq_ok_iff]
  refine exists_congr fun fss => and_congr_right fun _ => ?_
  exact ⟨Except.ok.inj, congrArg _⟩

theorem loadOnto_eq_ok_iff {base c : Catalogue} :
    loadOnto t dir base = .ok c ↔
      ∃ o, load t dir = .ok o ∧ base.merge o = c ∧ c.verify = .ok () := by
  unfold loadOnto
  rw [Except.bind_eq_ok_iff]
  refine exists_congr fun o => and_congr_right fun _ => ?_
  constructor
  · intro h
    simp only at h
    split at h
    · rename_i hverify
      cases h
      exact ⟨rfl, hverify⟩
    · cases h
  · rintro ⟨rfl, hverify⟩
    simp only [hverify]

/-- Loading the fragment files of a directory onto a catalogue succeeds if and only if each of them
is read and the catalogue is sound with their fragments registered on it, file by file in the order
of their names; and it gives that catalogue. This is because merging a catalogue that fragments are
collected in comes to registering the fragments: each value keeps its position or follows in the order
in which it is first seen, and stands for the fragment registered last. -/
theorem loadOnto_eq_registerAll (ht : t.Proper)
    (hdir : t.target dir = .ok (.entry place .directory)) :
    (∃ fs, Listing t place fs) ∧
    (∀ fs, Listing t place fs → ∀ base c, loadOnto t dir base = .ok c ↔
      ∃ gss, List.Forall₂ (fun f gs => Fragment.readAll? f.2 = some gs) fs gss ∧
        base.registerAll gss.flatten = c ∧ c.verify = .ok ()) ∧
    ∀ (base : Catalogue) gs, base.merge (Catalogue.empty.registerAll gs) = base.registerAll gs ∧
      ∀ a, (base.registerAll gs).order a = (base.order a ++ Fragment.valuesOn a gs).eraseDups ∧
        ∀ v, (base.registerAll gs).get? a v =
          (Fragment.latest? gs ⟨a, v⟩).or (base.get? a v) := by
  have hmerge : ∀ (base : Catalogue) gs,
      base.merge (Catalogue.empty.registerAll gs) = base.registerAll gs := fun base gs => by
    rw [Catalogue.merge_registerAll]
    exact congrArg (Catalogue.registerAll · gs) Catalogue.merge_empty
  refine ⟨⟨_, listing_sorted ht hdir⟩, fun fs hfs base c => ?_, fun base gs => ⟨hmerge base gs,
    fun a => ⟨Catalogue.order_registerAll, fun v => Catalogue.get?_registerAll⟩⟩⟩
  obtain rfl := hfs.eq (listing_sorted ht hdir)
  rw [loadOnto_eq_ok_iff]
  simp only [load_eq_ok_iff (FileTree.isDirectory_of_target hdir)]
  constructor
  · rintro ⟨_, ⟨gss, hread, rfl⟩, hc, hverify⟩
    exact ⟨gss, hread, (hmerge base _).symm.trans hc, hverify⟩
  · rintro ⟨gss, hread, hc, hverify⟩
    exact ⟨_, ⟨gss, hread, rfl⟩, (hmerge base _).trans hc, hverify⟩

/-- Two fragment files, of which the one in the inner directory comes first, and a note. -/
def auditTree : FileTree where
  entries := [(["ov"], .directory),
    (["ov", "b.yml"], .file "axis: hooks\nvalue: audit\nname: Audit"),
    (["ov", "README.md"], .file "notes"), (["ov", "a"], .directory),
    (["ov", "a", "hooks.yaml"],
      .file "fragments:\n- axis: hooks\n  value: audit\n  name: Draft")]
  current := []

def auditBase : Catalogue :=
  Catalogue.empty.registerAll [.new .hooks "hotfix" "Hotfix", .new .hooks "rollback" "Rollback"]

/-- The later file tells what the hook is, which follows those that are there. -/
theorem loadOnto_eq_registerAll_auditTree :
    auditTree.Proper ∧ auditTree.target ⟨"/ov"⟩ = .ok (.entry ["ov"] .directory) ∧
      ∃ c, loadOnto auditTree ⟨"/ov"⟩ auditBase = .ok c ∧
        c.values .hooks = [.new .hooks "hotfix" "Hotfix", .new .hooks "rollback" "Rollback",
          .new .hooks "audit" "Audit"] := by
  have ht : auditTree.Proper := ⟨by decide, by decide⟩
  have hdir : auditTree.target ⟨"/ov"⟩ = .ok (.entry ["ov"] .directory) := by rfl
  have hlisting := @listing_of_perm auditTree ⟨"/ov"⟩ ["ov"]
    (found auditTree ⟨"/ov"⟩).reverse ht hdir (List.reverse_perm _) (by decide +kernel)
  obtain ⟨-, hload, -⟩ := loadOnto_eq_registerAll ht hdir
  have hread : List.Forall₂ (fun f gs => Fragment.readAll? f.2 = some gs)
      (found auditTree ⟨"/ov"⟩).reverse
      [[.new .hooks "audit" "Draft"], [.new .hooks "audit" "Audit"]] :=
    .cons (by decide +kernel) (.cons (by decide +kernel) .nil)
  exact ⟨ht, hdir, _, (hload _ hlisting _ _).2 ⟨_, hread, rfl, by decide +kernel⟩,
    by decide +kernel⟩

end PipeLoom.Overlay
