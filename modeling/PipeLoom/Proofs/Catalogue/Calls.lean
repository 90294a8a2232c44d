import Mathlib.Data.Finset.Card
import PipeLoom.Proofs.Catalogue.Registration

/-!
# Catalogues put together by calls

`Calls` are sequences of registrations and merges, with a log of what they register. A catalogue
that is put together by calls is what its log says (`Records`): values stand as they were first
registered, fragments as they were registered last, and no call moves a value
(`records_of_calls`).
-/

namespace PipeLoom.Catalogue

open Fragment (valuesOn latest?)

/-- Registering fragments and merging catalogues leads from one catalogue to another. The log lists
what is registered, in order. A merge stands for all that was registered to put together what is
merged, which may be just the fragments that it holds (`calls_list`). -/
inductive Calls : Catalogue → List Fragment → Catalogue → Prop
  | nil (c : Catalogue) : Calls c [] c
  | register {c d : Catalogue} {log : List Fragment} (h : Calls c log d) (f : Fragment) :
      Calls c (log ++ [f]) (d.register f)
  | merge {c d o : Catalogue} {log overlay : List Fragment} (h : Calls c log d)
      (ho : Calls ∅ overlay o) : Calls c (log ++ overlay) (d.merge o)

/-- The catalogue is what the log of registrations says. -/
structure Records (c : Catalogue) (log : List Fragment) : Prop where
  nodup : ∀ a, (c.order a).Nodup
  mem_order : ∀ a v, v ∈ c.order a ↔ ∃ f ∈ log, f.ref = ⟨a, v⟩
  /-- What was registered first stands first. -/
  first : ∀ a, (c.order a).Pairwise fun v w =>
    log.findIdx (·.ref == ⟨a, v⟩) < log.findIdx (·.ref == ⟨a, w⟩)
  own_axis : ∀ a, ∀ f ∈ c.values a, f.axis = a
  /-- Nothing was registered under the name after what is found there. -/
  latest : ∀ a v f, c.get? a v = some f ↔ f.ref = ⟨a, v⟩ ∧
    ∃ before after, log = before ++ f :: after ∧ ∀ g ∈ after, g.ref ≠ ⟨a, v⟩
  missing : ∀ a v, c.get? a v = none ↔ ∀ f ∈ log, f.ref ≠ ⟨a, v⟩
  position : ∀ a v i, c.position? a v = some i ↔ (c.order a)[i]? = some v
  by_axis : c.list.Pairwise fun f g => f.axis.rank ≤ g.axis.rank
  on_axis : ∀ a, c.list.filter (·.axis = a) = c.values a
  size : c.size = (log.map (·.ref)).toFinset.card

variable {c d o : Catalogue} {a : Axis} {v : String} {i : Nat} {f : Fragment} {r : FragmentRef}
  {log fs gs : List Fragment}

/-! ## Positions -/

theorem position?_eq_some_iff : c.position? a v = some i ↔ (c.order a)[i]? = some v := by
  unfold position? order
  rw [List.findIdx?_eq_some_iff_getElem, List.getElem?_map, Option.map_eq_some_iff]
  constructor
  · rintro ⟨hi, hv, -⟩
    exact ⟨_, List.getElem?_eq_getElem hi, by simpa using hv⟩
  · rintro ⟨f, hf, rfl⟩
    obtain ⟨hi, rfl⟩ := List.getElem?_eq_some_iff.1 hf
    refine ⟨hi, by simp, fun j hj hvalue => ?_⟩
    -- no fragment stands at two places
    have hnodup : (c.values a).Nodup := List.Nodup.of_map _ (c.nodup a)
    have heq := eq_of_value_eq (List.getElem_mem (Nat.lt_trans hj hi)) (List.getElem_mem hi)
      (by simpa using hvalue)
    exact Nat.ne_of_lt hj (hnodup.getElem_inj_iff.1 heq)

theorem order_prefix_registerAll : c.order a <+: (c.registerAll fs).order a := by
  rw [order_registerAll, List.eraseDups_append, eraseDups_of_nodup nodup_order]
  exact List.prefix_append _ _

theorem position?_registerAll (h : c.position? a v = some i) :
    (c.registerAll fs).position? a v = some i := by
  rw [position?_eq_some_iff] at h ⊢
  have hprefix : c.order a <+: (c.registerAll fs).order a := order_prefix_registerAll
  obtain ⟨vs, hvs⟩ := hprefix
  rw [← hvs]
  exact List.getElem?_append_left (List.getElem?_eq_some_iff.1 h).1 ▸ h

/-! ## All fragments -/

theorem pairwise_rank_list : c.list.Pairwise fun f g => f.axis.rank ≤ g.axis.rank := by
  have hall : Axis.all.Pairwise fun a b => a.rank ≤ b.rank := by decide
  unfold list
  refine List.pairwise_flatMap.2 ⟨fun a _ => ?_, hall.imp fun {a b} hab f hf g hg => ?_⟩
  · refine List.pairwise_of_forall_mem_list fun f hf g hg => ?_
    rw [c.axis_eq a f hf, c.axis_eq a g hg]
  · rwa [c.axis_eq a f hf, c.axis_eq b g hg]

theorem size_eq : c.size = c.list.length := by
  unfold size list
  rw [List.length_flatMap, List.sum_eq_foldr, List.foldr_map]

theorem nodup_list : c.list.Nodup := by
  unfold list
  refine List.nodup_flatMap.2 ⟨fun a _ => List.Nodup.of_map _ (c.nodup a), ?_⟩
  refine List.Pairwise.imp (R := (· ≠ ·)) (fun {a b} hab f hf hg => hab ?_) (by decide)
  rw [← c.axis_eq a f hf, c.axis_eq b f hg]

theorem mem_map_ref_list : r ∈ c.list.map (·.ref) ↔ r.value ∈ c.order r.axis := by
  unfold order
  rw [List.mem_map, List.mem_map]
  constructor
  · rintro ⟨f, hf, rfl⟩
    exact ⟨f, mem_values_of_mem_list hf, rfl⟩
  · rintro ⟨f, hf, hv⟩
    refine ⟨f, mem_list.2 ⟨_, hf⟩, ?_⟩
    rw [Fragment.ref, c.axis_eq _ f hf, hv]

theorem nodup_map_ref_list : (c.list.map (·.ref)).Nodup :=
  nodup_list.map_on fun _ hf _ hg => eq_of_mem_list hf hg

/-! ## One registration after another -/

theorem registerAll_append : c.registerAll (fs ++ gs) = (c.registerAll fs).registerAll gs :=
  List.foldl_append

theorem mem_valuesOn : v ∈ valuesOn a fs ↔ ∃ f ∈ fs, f.ref = ⟨a, v⟩ := by
  unfold valuesOn Fragment.ref
  simp only [List.mem_map, List.mem_filter, decide_eq_true_eq, FragmentRef.mk.injEq, and_assoc]

theorem mem_order_registerAll :
    v ∈ ((∅ : Catalogue).registerAll log).order a ↔ ∃ f ∈ log, f.ref = ⟨a, v⟩ := by
  rw [order_registerAll, List.mem_eraseDups, ← mem_valuesOn]
  rfl

/-- A name keeps its place in the log. -/
theorem findIdx_concat (h : ∃ f ∈ log, f.ref = r) :
    (log ++ [f]).findIdx (·.ref == r) = log.findIdx (·.ref == r) := by
  rw [List.findIdx_append, if_pos (List.findIdx_lt_length.2 (by simpa using h))]

/-- The values of an axis come in the order of their first registration. -/
theorem first_registerAll :
    (((∅ : Catalogue).registerAll log).order a).Pairwise fun v w =>
      log.findIdx (·.ref == ⟨a, v⟩) < log.findIdx (·.ref == ⟨a, w⟩) := by
  induction log using List.reverseRecOn with
  | nil => exact .nil
  | append_singleton log f ih =>
    have hkept : (((∅ : Catalogue).registerAll log).order a).Pairwise fun v w =>
        (log ++ [f]).findIdx (·.ref == ⟨a, v⟩) < (log ++ [f]).findIdx (·.ref == ⟨a, w⟩) := by
      refine ih.imp_of_mem fun hv hw h => ?_
      rwa [findIdx_concat (mem_order_registerAll.1 hv), findIdx_concat (mem_order_registerAll.1 hw)]
    rw [registerAll_append]
    show (((∅ : Catalogue).registerAll log).register f |>.order a).Pairwise _
    rw [order_register]
    split
    · rename_i hnew
      obtain ⟨rfl, hnew⟩ := hnew
      refine List.pairwise_append.2 ⟨hkept, List.pairwise_singleton _ _, fun v hv w hw => ?_⟩
      rw [List.mem_singleton.1 hw, findIdx_concat (mem_order_registerAll.1 hv)]
      -- what is new was registered after all that is in the log
      have hv := mem_order_registerAll.1 hv
      have hnone : ¬log.findIdx (·.ref == ⟨f.axis, f.value⟩) < log.length := by
        rw [List.findIdx_lt_length]
        simpa using fun g hg href => hnew (mem_order_registerAll.2 ⟨g, hg, href⟩)
      have hlt : log.findIdx (·.ref == ⟨f.axis, v⟩) < log.length :=
        List.findIdx_lt_length.2 (by simpa using hv)
      rw [List.findIdx_append, if_neg hnone]
      omega
    · exact hkept

theorem latest?_eq_some_iff : latest? log r = some f ↔ f.ref = r ∧
    ∃ before after, log = before ++ f :: after ∧ ∀ g ∈ after, g.ref ≠ r := by
  unfold latest?
  rw [List.find?_eq_some_iff_append]
  simp only [beq_iff_eq, Bool.not_eq_true', beq_eq_false_iff_ne]
  refine and_congr_right fun _ => ?_
  constructor
  · rintro ⟨after, before, hlog, hafter⟩
    refine ⟨before.reverse, after.reverse, ?_, fun g hg => hafter g (List.mem_reverse.1 hg)⟩
    rw [← List.reverse_reverse log, hlog]
    simp
  · rintro ⟨before, after, rfl, hafter⟩
    exact ⟨after.reverse, before.reverse, by simp, fun g hg => hafter g (List.mem_reverse.1 hg)⟩

theorem latest?_eq_none_iff : latest? log r = none ↔ ∀ f ∈ log, f.ref ≠ r := by
  unfold latest?
  simp [List.find?_eq_none]

theorem get?_registerAll_empty :
    ((∅ : Catalogue).registerAll log).get? a v = latest? log ⟨a, v⟩ :=
  get?_registerAll.trans Option.or_none

/-- The names that are found are those that were registered. -/
theorem size_registerAll :
    ((∅ : Catalogue).registerAll log).size = (log.map (·.ref)).toFinset.card := by
  have hsame : (((∅ : Catalogue).registerAll log).list.map (·.ref)).toFinset =
      (log.map (·.ref)).toFinset := by
    ext r
    rw [List.mem_toFinset, List.mem_toFinset, mem_map_ref_list, mem_order_registerAll, List.mem_map]
  rw [size_eq, ← hsame, List.toFinset_card_of_nodup nodup_map_ref_list, List.length_map]

/-! ## Calls -/

theorem Calls.eq_registerAll (h : Calls c log d) : d = c.registerAll log := by
  induction h with
  | nil c => rfl
  | register h f ih => rw [registerAll_append, ← ih]; rfl
  | merge h ho ih iho => rw [registerAll_append, ← ih, iho, merge_registerAll, merge_empty]

theorem calls_registerAll (c : Catalogue) (fs : List Fragment) : Calls c fs (c.registerAll fs) := by
  induction fs using List.reverseRecOn with
  | nil => exact .nil c
  | append_singleton fs f ih =>
    rw [registerAll_append]
    exact ih.register f

/-- Every catalogue is put together by registering its fragments. -/
theorem calls_list (c : Catalogue) : Calls ∅ c.list c := by
  have hc : (∅ : Catalogue).registerAll c.list = c := by
    refine ext_of_lookup (fun a => ?_) fun a v => ?_
    · rw [order_registerAll, valuesOn_list]
      exact eraseDups_of_nodup nodup_order
    · rw [get?_registerAll, latest?_list]
      exact Option.or_none
  have h := calls_registerAll ∅ c.list
  rwa [hc] at h

theorem records_registerAll : ((∅ : Catalogue).registerAll log).Records log where
  nodup _ := nodup_order
  mem_order _ _ := mem_order_registerAll
  first _ := first_registerAll
  own_axis := axis_eq _
  latest a v f := by rw [get?_registerAll_empty, latest?_eq_some_iff]
  missing a v := by rw [get?_registerAll_empty, latest?_eq_none_iff]
  position _ _ _ := position?_eq_some_iff
  by_axis := pairwise_rank_list
  on_axis _ := filter_list
  size := size_registerAll

/-- A catalogue that is put together from nothing is what its log says, and the fragments that it
holds are a log of it as well. Whatever is registered or merged later, no value moves. -/
theorem records_of_calls (h : Calls ∅ log c) :
    c.Records log ∧ Calls ∅ c.list c ∧
      ∀ more d, Calls c more d → ∀ a v i, c.position? a v = some i → d.position? a v = some i := by
  refine ⟨?_, calls_list c, fun more d hmore a v i hi => ?_⟩
  · rw [h.eq_registerAll]
    exact records_registerAll
  · rw [hmore.eq_registerAll]
    exact position?_registerAll hi

/-- A new hook, and another one to stand in for a hook of the same name. -/
def patches : List Fragment :=
  [.new .hooks "hotfix" "Hotfix", .new .hooks "rollback" "Roll back"]

def unpatched : Catalogue :=
  ((∅ : Catalogue).register (.new .language "go" "Go")).register (.new .hooks "rollback" "Rollback")

/-- The patches are merged, and the language is registered once more. -/
def patched : Catalogue :=
  (unpatched.merge (registerAll ∅ patches)).register (.new .language "go" "Golang")

/-- The language and the hook are registered twice each. -/
def patchedLog : List Fragment :=
  [.new .language "go" "Go", .new .hooks "rollback" "Rollback"] ++ patches ++
    [.new .language "go" "Golang"]

theorem records_of_calls_patched :
    Calls ∅ patchedLog patched ∧
      patched.get? .hooks "rollback" = some (.new .hooks "rollback" "Roll back") ∧
      patched.get? .hooks "canary" = none ∧ patched.position? .hooks "hotfix" = some 1 ∧
      unpatched.position? .hooks "rollback" = some 0 ∧
      patched.position? .hooks "rollback" = some 0 ∧ patched.size = 3 := by
  have hbefore : Calls ∅ [.new .language "go" "Go", .new .hooks "rollback" "Rollback"] unpatched :=
    ((Calls.nil ∅).register _).register _
  have hpatch : Calls unpatched (patches ++ [.new .language "go" "Golang"]) patched :=
    ((Calls.nil unpatched).merge (calls_registerAll ∅ patches)).register _
  have hcalls : Calls ∅ patchedLog patched :=
    (hbefore.merge (calls_registerAll ∅ patches)).register _
  obtain ⟨hbefore, -, hstays⟩ := records_of_calls hbefore
  obtain ⟨hrecords, -, -⟩ := records_of_calls hcalls
  have hposition : unpatched.position? .hooks "rollback" = some 0 :=
    (hbefore.position _ _ _).2 (by decide)
  refine ⟨hcalls, ?_, ?_, ?_, hposition, hstays _ _ hpatch _ _ _ hposition, ?_⟩
  · refine (hrecords.latest _ _ _).2
      ⟨rfl, patchedLog.take 3, [.new .language "go" "Golang"], rfl, ?_⟩
    decide
  · refine (hrecords.missing _ _).2 ?_
    decide
  · refine (hrecords.position _ _ _).2 ?_
    decide
  · rw [hrecords.size]
    decide

end PipeLoom.Catalogue
