import PipeLoom.Project.Artifact
import PipeLoom.Proofs.Except
import PipeLoom.Proofs.File.Writes

/-!
# Writing generated files

Files are named by their paths, and paths that land at one place name one file. Writing refuses to
replace what is there unless forced, and else writes in order, up to the first file that cannot be
written (`writeAllBy_cases`); whatever happens, only the files that are named change
(`writeAllBy_outcome`).
-/

namespace PipeLoom.Artifact

open FileTree (Completes StopsAt Wrote WroteUpTo faithful_writeWithParents
  wrote_of_writeWithParents_error)

/-- What writing the files sets out to write. -/
def writes (root : Path) (as : List Artifact) : List (Path × String) :=
  as.map fun a => (a.target root, a.content)

variable {write : FileTree.Writing} {t t' : FileTree} {root : Path} {as : List Artifact}
  {force : Bool} {a : Artifact} {q : Place}

/-! ## File by file -/

theorem writeEachBy_cons (write : FileTree.Writing) (t : FileTree) (root : Path) (a : Artifact)
    (as : List Artifact) :
    writeEachBy write t root (a :: as) =
      match write t (a.target root) a.content with
      | (.ok (), t) => writeEachBy write t root as
      | (.error e, t) => (.error (.file e), t) := by
  exact rfl

theorem completes_of_writeEachBy (h : writeEachBy write t root as = (.ok (), t')) :
    Completes write t (writes root as) t' := by
  induction as generalizing t with
  | nil =>
    cases h
    exact .nil
  | cons a as ih =>
    rw [writeEachBy_cons] at h
    split at h
    · rename_i hw
      exact .cons hw (ih h)
    · cases h

/-- The first file that cannot be written ends it all. -/
theorem stopsAt_of_writeEachBy {e : StoreError} (h : writeEachBy write t root as = (.error e, t')) :
    ∃ done a between fe, e = .file fe ∧ done ++ [a] <+: as ∧
      StopsAt write t (writes root done) between (a.target root, a.content) fe t' := by
  induction as generalizing t with
  | nil => cases h
  | cons b as ih =>
    rw [writeEachBy_cons] at h
    split at h
    · rename_i hw
      obtain ⟨done, a, between, fe, he, hbegins, hstops⟩ := ih h
      exact ⟨b :: done, a, between, fe, he, List.prefix_cons_inj b |>.2 hbegins,
        .cons hw hstops.completes, hstops.fails⟩
    · rename_i hw
      cases h
      exact ⟨[], b, t, _, rfl, List.prefix_append [b] as, .nil, hw⟩

/-! ## All files -/

/-- Unless forced, what stands at a path is left alone, and so is all else. -/
theorem writeAllBy_refused {p : Path} (h : (as.map (target root)).find? t.isThere = some p) :
    writeAllBy write t root as false = (.error (.alreadyExists p), t) := by
  unfold writeAllBy
  simp only [Bool.false_eq_true, if_false, h]

theorem writeAllBy_unrefused (h : force = true ∨ ∀ a ∈ as, t.isThere (a.target root) = false) :
    writeAllBy write t root as force =
      ((writeEachBy write t root as).1.map fun _ => as.map (target root),
        (writeEachBy write t root as).2) := by
  have hfree : (if force then none else (as.map (target root)).find? t.isThere) = none := by
    rcases h with rfl | h
    · rfl
    · have hnone : (as.map (target root)).find? t.isThere = none := by
        rw [List.find?_eq_none]
        intro p hp
        obtain ⟨a, ha, rfl⟩ := List.mem_map.1 hp
        simp [h a ha]
      rw [hnone, ite_self]
  unfold writeAllBy
  simp only [hfree]
  rcases writeEachBy write t root as with ⟨e | ⟨⟩, t1⟩ <;> rfl

/-- Writing is refused, which leaves everything as it is, or else it comes to the end of the list or
stops at one of the files. -/
theorem writeAllBy_cases {r : Except StoreError (List Path)}
    (h : writeAllBy write t root as force = (r, t')) :
    (force = false ∧ t' = t ∧ ∃ p, (as.map (target root)).find? t.isThere = some p ∧
      r = .error (.alreadyExists p)) ∨
    (force = true ∨ ∀ a ∈ as, t.isThere (a.target root) = false) ∧
      (r = .ok (as.map (target root)) ∧ Completes write t (writes root as) t' ∨
        ∃ done a between e, r = .error (.file e) ∧ done ++ [a] <+: as ∧
          StopsAt write t (writes root done) between (a.target root, a.content) e t') := by
  have hunrefused (hfree : force = true ∨ ∀ a ∈ as, t.isThere (a.target root) = false) :
      r = .ok (as.map (target root)) ∧ Completes write t (writes root as) t' ∨
        ∃ done a between e, r = .error (.file e) ∧ done ++ [a] <+: as ∧
          StopsAt write t (writes root done) between (a.target root, a.content) e t' := by
    rw [writeAllBy_unrefused hfree] at h
    rcases heach : writeEachBy write t root as with ⟨e | ⟨⟩, t1⟩
    · obtain ⟨done, a, between, fe, rfl, hbegins, hstops⟩ := stopsAt_of_writeEachBy heach
      rw [heach] at h
      cases h
      exact .inr ⟨done, a, between, fe, rfl, hbegins, hstops⟩
    · rw [heach] at h
      cases h
      exact .inl ⟨rfl, completes_of_writeEachBy heach⟩
  cases force with
  | true => exact .inr ⟨.inl rfl, hunrefused (.inl rfl)⟩
  | false =>
    cases hfind : (as.map (target root)).find? t.isThere with
    | some p =>
      rw [writeAllBy_refused hfind] at h
      cases h
      exact .inl ⟨rfl, rfl, p, rfl, rfl⟩
    | none =>
      have hfree : ∀ a ∈ as, t.isThere (a.target root) = false := fun a ha =>
        Bool.eq_false_iff.2 (List.find?_eq_none.1 hfind _ (List.mem_map_of_mem ha))
      exact .inr ⟨.inr hfree, hunrefused (.inr hfree)⟩

theorem writeAll_wrote (h : force = true ∨ ∀ a ∈ as, t.isThere (a.target root) = false) :
    WroteUpTo t (writes root as) (writeAll t root as force) := by
  rcases heq : writeAll t root as force with ⟨r, t'⟩
  rcases writeAllBy_cases heq with ⟨hforce, -, p, hp, -⟩ | ⟨-, hends⟩
  · rcases h with rfl | h
    · cases hforce
    · obtain ⟨a, ha, rfl⟩ := List.mem_map.1 (List.mem_of_find?_eq_some hp)
      have hthere := List.find?_some hp
      rw [h a ha] at hthere
      cases hthere
  · rcases hends with ⟨-, hall⟩ | ⟨done, a, between, e, rfl, hbegins, hstops⟩
    · exact ⟨_, List.prefix_rfl, hall.wrote faithful_writeWithParents, fun _ _ => rfl⟩
    · have hwrote := (hstops.completes.wrote faithful_writeWithParents).trans
        (wrote_of_writeWithParents_error hstops.fails)
      rw [List.append_nil] at hwrote
      exact ⟨_, ((List.prefix_append done [a]).trans hbegins).map _, hwrote, fun _ h => nomatch h⟩

theorem writeAll_blocked (h : ((writes root as).any fun w => t.isThere w.1) = true) :
    ∃ e, writeAll t root as false = (.error e, t) := by
  obtain ⟨w, hw, hthere⟩ := List.any_eq_true.1 h
  obtain ⟨a, ha, rfl⟩ := List.mem_map.1 hw
  rcases heq : writeAll t root as false with ⟨r, t'⟩
  rcases writeAllBy_cases heq with ⟨-, rfl, p, -, rfl⟩ | ⟨hfree, -⟩
  · exact ⟨_, rfl⟩
  · have hthere' := hfree.resolve_left Bool.false_ne_true a ha
    rw [show t.isThere (a.target root) = true from hthere] at hthere'
    cases hthere'

/-- Writing fails on a file, or because something stands at a path. -/
theorem error_of_writeAll {e : StoreError} (h : writeAll t root as force = (.error e, t')) :
    (∃ fe, e = .file fe) ∨
      t' = t ∧ force = false ∧ ∃ a ∈ as, e = .alreadyExists (a.target root) ∧
        t.isThere (a.target root) = true := by
  rcases writeAllBy_cases h with ⟨hforce, ht, p, hfind, hr⟩ | ⟨-, ⟨hr, -⟩ | ⟨_, _, _, fe, hr, -⟩⟩
  · cases hr
    obtain ⟨a, ha, rfl⟩ := List.mem_map.1 (List.mem_of_find?_eq_some hfind)
    exact .inr ⟨ht, hforce, a, ha, rfl, List.find?_some hfind⟩
  · cases hr
  · exact .inl ⟨fe, Except.error.inj hr⟩

theorem wrote_of_writeAll {paths : List Path} (h : writeAll t root as force = (.ok paths, t')) :
    Wrote t (writes root as) t' := by
  rcases writeAllBy_cases h with ⟨-, -, p, -, hr⟩ | ⟨-, ⟨-, hall⟩ | ⟨_, _, _, _, hr, -⟩⟩
  · cases hr
  · exact hall.wrote faithful_writeWithParents
  · cases hr

/-! ## What stands where -/

/-- The last file of the list whose path lands at a place. -/
def last? (t : FileTree) (root : Path) (as : List Artifact) (q : Place) : Option Artifact :=
  (as.filter fun a => t.landing (a.target root) == q).getLast?

theorem lastAt_writes : t.lastAt (writes root as) q = (last? t root as q).map (·.content) := by
  unfold FileTree.lastAt writes last?
  rw [List.filter_map, List.getLast?_map, Option.map_map]
  rfl

/-- Writing leaves alone what is not named. -/
theorem file?_of_wrote_writes (h : Wrote t (writes root as) t')
    (hq : ∀ a ∈ as, t.landing (a.target root) ≠ q) : t'.file? q = t.file? q := by
  refine h.file?_of_untouched fun w hw => ?_
  obtain ⟨a, ha, rfl⟩ := List.mem_map.1 hw
  exact hq a ha

/-- What was written last for a place stands there. -/
theorem exists_read_of_wrote_writes (h : Wrote t (writes root as) t') (ha : a ∈ as) :
    ∃ b, last? t root as (t.landing (a.target root)) = some b ∧
      t'.read (a.target root) = .ok b.content := by
  obtain ⟨c, hlast, hread⟩ := h.delivered (List.mem_map_of_mem ha)
  rw [lastAt_writes] at hlast
  obtain ⟨b, hb, rfl⟩ := Option.map_eq_some_iff.1 hlast
  exact ⟨b, hb, hread⟩

/-- What is written of a list when writing ends: `done` are its first files and `failed` is the next
one, if writing stopped there and its path leads to a file, which may hold anything. -/
structure WroteFirst (write : FileTree.Writing) (t : FileTree) (root : Path)
    (as done failed : List Artifact) (t' : FileTree) : Prop where
  begins : done ++ failed <+: as
  one : failed.length ≤ 1
  stops : ∀ a ∈ failed, ∃ between e,
    StopsAt write t (writes root done) between (a.target root, a.content) e t' ∧
      (between.writeWithParents (a.target root) a.content).1 = .ok ()
  files : ∀ q, (∀ a ∈ failed, t.landing (a.target root) ≠ q) →
    t'.file? q = ((last? t root done q).map (·.content)).or (t.file? q)
  directories : ∀ q, t.get? q = some .directory → t'.get? q = some .directory

theorem last?_eq_none (h : ∀ a ∈ as, t.landing (a.target root) ≠ q) : last? t root as q = none := by
  unfold last?
  rw [List.getLast?_eq_none_iff, List.filter_eq_nil_iff]
  exact fun a ha heq => h a ha (eq_of_beq heq)

theorem WroteFirst.file?_of_unnamed {done failed : List Artifact}
    (h : WroteFirst write t root as done failed t')
    (hq : ∀ a ∈ as, t.landing (a.target root) ≠ q) : t'.file? q = t.file? q := by
  rw [h.files q fun a ha => hq a (h.begins.subset (List.mem_append_right done ha)),
    last?_eq_none fun a ha => hq a (h.begins.subset (List.mem_append_left failed ha))]
  rfl

/-- Files that were all written. -/
theorem wroteFirst_of_wrote {done : List Artifact} (hdone : done <+: as)
    (h : Wrote t (writes root done) t') : WroteFirst write t root as done [] t' where
  begins := by rwa [List.append_nil]
  one := Nat.zero_le 1
  stops _ ha := absurd ha List.not_mem_nil
  files q _ := by rw [← lastAt_writes, h.file?_eq]
  directories _ := h.directory

theorem exists_wroteFirst (hwrite : FileTree.Faithful write) {r : Except StoreError (List Path)}
    (h : writeAllBy write t root as force = (r, t')) :
    ∃ done failed, WroteFirst write t root as done failed t' := by
  rcases writeAllBy_cases h with
    ⟨-, rfl, -⟩ | ⟨-, ⟨-, hall⟩ | ⟨done, a, between, e, -, hbegins, hstops⟩⟩
  · exact ⟨[], [], wroteFirst_of_wrote List.nil_prefix (.refl _)⟩
  · exact ⟨as, [], wroteFirst_of_wrote List.prefix_rfl (hall.wrote hwrite)⟩
  · obtain ⟨left, rfl | ⟨rest, rfl⟩, hwrote, hreach⟩ := hstops.exists_left hwrite
    · rw [List.append_nil] at hwrote
      exact ⟨done, [], wroteFirst_of_wrote ((List.prefix_append done [a]).trans hbegins) hwrote⟩
    · refine ⟨done, [a], hbegins, Nat.le_refl 1, fun b hb => ?_, fun q hq => ?_,
        fun q => hwrote.directory⟩
      · obtain rfl := List.mem_singleton.1 hb
        refine ⟨between, e, hstops, ?_⟩
        by_contra hne
        cases hreach hne
      · have hne : t.landing (a.target root) ≠ q := hq a List.mem_cons_self
        rw [hwrote.file?_eq, FileTree.lastAt_append, FileTree.lastAt_single, if_neg hne,
          lastAt_writes]
        rfl

/-- Unless forced, if anything stands at one of the paths, the first such path is reported and
nothing happens. Otherwise writing ends with a file that cannot be written, or it gives all paths in
order and each file holds what the last of those whose paths lead there has to hold. Whatever
happens, and in whatever way files are written, only files that are named are made or changed:
those before the one that fails are written, and that one may be left in part. -/
theorem writeAllBy_outcome (hwrite : FileTree.Faithful write) (t : FileTree) (root : Path)
    (as : List Artifact) (force : Bool) :
    ∃ r t', writeAllBy write t root as force = (r, t') ∧
      (force = false → ∀ p, (as.map (target root)).find? t.isThere = some p →
        r = .error (.alreadyExists p) ∧ t' = t) ∧
      ((force = true ∨ ∀ a ∈ as, t.isThere (a.target root) = false) →
        (∃ e, r = .error (.file e)) ∨
          r = .ok (as.map (target root)) ∧
            ∀ a ∈ as, ∃ b, last? t root as (t.landing (a.target root)) = some b ∧
              t'.read (a.target root) = .ok b.content) ∧
      (∀ q, (∀ a ∈ as, t.landing (a.target root) ≠ q) → t'.file? q = t.file? q) ∧
      ∃ done failed, WroteFirst write t root as done failed t' := by
  rcases heq : writeAllBy write t root as force with ⟨r, t'⟩
  obtain ⟨done, failed, hfirst⟩ := exists_wroteFirst hwrite heq
  refine ⟨r, t', rfl, ?_, fun hfree => ?_, fun q hq => hfirst.file?_of_unnamed hq, done, failed,
    hfirst⟩
  · rintro rfl p hp
    rw [writeAllBy_refused hp] at heq
    cases heq
    exact ⟨rfl, rfl⟩
  · rcases writeAllBy_cases heq with ⟨rfl, -, p, hp, -⟩ | ⟨-, ⟨hr, hall⟩ | ⟨_, _, _, e, hr, -⟩⟩
    · obtain ⟨a, ha, rfl⟩ := List.mem_map.1 (List.mem_of_find?_eq_some hp)
      have hthere := List.find?_some hp
      rw [hfree.resolve_left Bool.false_ne_true a ha] at hthere
      cases hthere
    · exact .inr ⟨hr, fun a ha => exists_read_of_wrote_writes (hall.wrote hwrite) ha⟩
    · exact .inl ⟨e, hr⟩

/-- Two paths for one file, and one path that comes twice. -/
def repeated : List Artifact :=
  [⟨⟨"ci/main.yml"⟩, "1"⟩, ⟨⟨"new/gcp.yaml"⟩, "2"⟩, ⟨⟨"new/../ci/main.yml"⟩, "3"⟩,
    ⟨⟨"new/gcp.yaml"⟩, "4"⟩]

def standing : FileTree := ⟨[(["ci"], .directory), (["ci", "main.yml"], .file "old")], []⟩

/-- A file stands where a directory is needed, once the first file is written. -/
def inTheWay : List Artifact := [⟨⟨"new"⟩, "1"⟩, ⟨⟨"new/gcp.yaml"⟩, "2"⟩]

/-- The second file goes to a place where the device is broken. -/
def unfinished : List Artifact :=
  [⟨⟨"new/main.yml"⟩, "1"⟩, ⟨⟨"gcp.yaml"⟩, "provider"⟩, ⟨⟨"rollback.yml"⟩, "3"⟩]

theorem writeAllBy_outcome_repeated :
    writeAll standing ⟨"/"⟩ repeated false = (.error (.alreadyExists ⟨"/ci/main.yml"⟩), standing) ∧
      (writeAll standing ⟨"/"⟩ repeated true).2.read ⟨"/ci/main.yml"⟩ = .ok "3" ∧
      (writeAll standing ⟨"/"⟩ inTheWay false).1 = .error (.file .alreadyExists) ∧
      (writeAll standing ⟨"/"⟩ inTheWay false).2.file? ["ci", "main.yml"] = some "old" ∧
      let device := FileTree.writeBrokenAt ["gcp.yaml"] "prov"
      (writeAllBy device standing ⟨"/"⟩ unfinished false).2.file? ["gcp.yaml"] = some "prov" ∧
      (writeAllBy device standing ⟨"/"⟩ unfinished false).2.file? ["ci", "main.yml"] =
        some "old" := by
  refine ⟨?_, ?_, by decide +kernel, ?_, by decide +kernel, ?_⟩
  · obtain ⟨r, t', heq, hrefused, -⟩ :=
      writeAllBy_outcome faithful_writeWithParents standing ⟨"/"⟩ repeated false
    obtain ⟨rfl, rfl⟩ := hrefused rfl ⟨"/ci/main.yml"⟩ (by decide +kernel)
    exact heq
  · obtain ⟨r, t', heq, -, hwritten, -⟩ :=
      writeAllBy_outcome faithful_writeWithParents standing ⟨"/"⟩ repeated true
    have hok : ∀ e, (writeAll standing ⟨"/"⟩ repeated true).1 ≠ .error e := by
      have h : (writeAll standing ⟨"/"⟩ repeated true).1 =
          .ok (repeated.map (target ⟨"/"⟩)) := by decide +kernel
      rw [h]
      exact fun _ => nofun
    unfold writeAll at hok ⊢
    rw [heq] at hok ⊢
    obtain ⟨e, he⟩ | ⟨-, hread⟩ := hwritten (.inl rfl)
    · exact absurd he (hok _)
    · obtain ⟨b, hb, hread⟩ := hread ⟨⟨"ci/main.yml"⟩, "1"⟩ List.mem_cons_self
      have hlast : last? standing ⟨"/"⟩ repeated ["ci", "main.yml"] =
          some ⟨⟨"new/../ci/main.yml"⟩, "3"⟩ := by decide +kernel
      rw [show standing.landing (target ⟨"/"⟩ ⟨⟨"ci/main.yml"⟩, "1"⟩) = ["ci", "main.yml"] by
        decide +kernel, hlast] at hb
      cases hb
      exact hread
  · obtain ⟨r, t', heq, -, -, hframe, -⟩ :=
      writeAllBy_outcome faithful_writeWithParents standing ⟨"/"⟩ inTheWay false
    unfold writeAll
    rw [heq, hframe _ (by decide +kernel)]
    decide +kernel
  · obtain ⟨r, t', heq, -, -, hframe, -⟩ :=
      writeAllBy_outcome (FileTree.faithful_writeBrokenAt ["gcp.yaml"] "prov") standing ⟨"/"⟩
        unfinished false
    rw [heq, hframe _ (by decide +kernel)]
    decide +kernel

/-- The last file of a path need not be the one whose content stands there, since another path may
lead to the same place. -/
theorem not_last_of_path :
    ¬∀ (t t' : FileTree) (root : Path) (as : List Artifact) (force : Bool) (paths : List Path),
      writeAll t root as force = (.ok paths, t') →
        ∀ a ∈ as, ∃ b, (as.filter fun b => b.path.same a.path).getLast? = some b ∧
          t'.read (a.target root) = .ok b.content := by
  intro h
  have hresult : (writeAll standing ⟨"/"⟩ repeated true).1 =
      .ok (repeated.map (target ⟨"/"⟩)) := by decide +kernel
  have hholds : (writeAll standing ⟨"/"⟩ repeated true).2.read (target ⟨"/"⟩ repeated[0]) =
      .ok "3" := by decide +kernel
  have hlast : (repeated.filter fun b => b.path.same repeated[0].path).getLast? =
      some repeated[0] := by decide +kernel
  rcases hwritten : writeAll standing ⟨"/"⟩ repeated true with ⟨r, t'⟩
  rw [hwritten] at hresult hholds
  obtain rfl : r = _ := hresult
  obtain ⟨b, hb, hread⟩ := h _ _ _ _ _ _ hwritten repeated[0] List.mem_cons_self
  rw [hlast] at hb
  cases hb
  rw [hholds] at hread
  revert hread
  decide

end PipeLoom.Artifact
