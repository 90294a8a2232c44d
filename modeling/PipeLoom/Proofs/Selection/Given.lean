import PipeLoom.Proofs.Text.Blank
import PipeLoom.Selection.Raw

/-!
# What the entries of a raw selection give

An entry gives the choices among its values to the axis that its key means, and it gives them at one
place among what other entries give (`RawSelection.exists_given_insert`). Hooks that are added are
given behind those under the key `hooks`, and what other keys give stays
(`RawSelection.mem_given_addHooks`).
-/

namespace PipeLoom

namespace Dict

variable {α : Type}

/-- The place of an entry does not depend on its value. -/
theorem exists_entries_insert (d : Dict α) (k : String) :
    ∃ before after, (∀ v, (d.insert k v).entries = before ++ (k, v) :: after) ∧
      (k ∉ d.keys → d.entries = before ++ after) := by
  show ∃ before after, (∀ v, insertEntry k v d.entries = before ++ (k, v) :: after) ∧
    (k ∉ d.entries.map (·.1) → d.entries = before ++ after)
  induction d.entries with
  | nil => exact ⟨[], [], fun _ => rfl, fun _ => rfl⟩
  | cons e es ih =>
    obtain ⟨before, after, hinsert, hfree⟩ := ih
    by_cases hlt : k < e.1
    · exact ⟨[], e :: es, fun v => by rw [insertEntry, if_pos hlt]; rfl, fun _ => rfl⟩
    · by_cases hgt : e.1 < k
      · refine ⟨e :: before, after, fun v => ?_, fun hk => ?_⟩
        · rw [insertEntry, if_neg hlt, if_pos hgt, hinsert]
          rfl
        · rw [hfree fun h => hk (List.mem_cons_of_mem _ h)]
          rfl
      · refine ⟨[], es, fun v => by rw [insertEntry, if_neg hlt, if_neg hgt]; rfl, fun hk => ?_⟩
        have heq : k = e.1 := String.le_antisymm (String.not_lt.1 hgt) (String.not_lt.1 hlt)
        exact absurd (heq ▸ List.mem_cons_self) hk

/-- To set what is there already changes nothing. -/
theorem insert_of_get? {d : Dict α} {k : String} {v : α} (h : d.get? k = some v) :
    d.insert k v = d := by
  obtain ⟨es, hes⟩ := d
  have hsame : insertEntry k v es = es := by
    change es.lookup k = some v at h
    induction es with
    | nil => cases h
    | cons e es ih =>
      obtain ⟨hfirst, hes⟩ := List.pairwise_cons.1 hes
      rw [lookup_cons_eq] at h
      by_cases hk : k = e.1
      · rw [if_pos hk] at h
        cases h
        rw [hk, insertEntry, if_neg (String.lt_irrefl _), if_neg (String.lt_irrefl _)]
      · rw [if_neg hk] at h
        obtain ⟨before, after, rfl, -⟩ := List.lookup_eq_some_iff.1 h
        have hlt : e.1 < k := hfirst (k, v) (List.mem_append_right _ List.mem_cons_self)
        have hnot : ¬k < e.1 := fun hgt => String.lt_irrefl _ (String.lt_trans hlt hgt)
        rw [insertEntry, if_neg hnot, if_pos hlt, ih hes h]
  show Dict.mk _ _ = Dict.mk _ _
  simp only [hsame]

end Dict

namespace RawSelection

variable {raw : RawSelection} {a : Axis} {v : String} {hooks : List String}

/-! ## Choices -/

/-- A value that counts as it is written. -/
structure IsChoice (v : String) : Prop where
  trimmed : Text.trim v = v
  isValue : isNoValue v = false

/-- What counts of the values under a key. -/
def choices (vs : List String) : List String := (vs.map Text.trim).filter fun v => !isNoValue v

theorem choices_eq_self {vs : List String} (h : ∀ v ∈ vs, IsChoice v) : choices vs = vs := by
  unfold choices
  rw [List.map_congr_left (g := id) fun v hv => (h v hv).trimmed, List.map_id,
    List.filter_eq_self.2 fun v hv => by rw [(h v hv).isValue]; rfl]

theorem choices_append (vs ws : List String) : choices (vs ++ ws) = choices vs ++ choices ws := by
  unfold choices
  rw [List.map_append, List.filter_append]

theorem mem_choices_congr {vs ws : List String} (h : ∀ v, v ∈ vs ↔ v ∈ ws) :
    v ∈ choices vs ↔ v ∈ choices ws := by
  unfold choices
  simp only [List.mem_filter, List.mem_map, h]

theorem isChoice_of_mem_choices {vs : List String} (h : v ∈ choices vs) : IsChoice v := by
  obtain ⟨hv, hvalue⟩ := List.mem_filter.1 h
  obtain ⟨w, -, rfl⟩ := List.mem_map.1 hv
  exact ⟨Text.trim_trim w, by simpa using hvalue⟩

theorem isChoice_of_mem_given (h : v ∈ raw.given a) : IsChoice v := by
  obtain ⟨e, -, hv⟩ := List.mem_flatMap.1 h
  split at hv
  · exact isChoice_of_mem_choices hv
  · cases hv

/-! ## Entries -/

/-- The values under the name of an axis. -/
def listed (raw : RawSelection) (a : Axis) : List String :=
  ((raw.get? a.name).map RawValue.toList).getD []

/-- What an entry gives stands between what is given before it and behind it. -/
theorem exists_given_insert (raw : RawSelection) (k : String) :
    ∃ before after : Axis → List String,
      (∀ x a, RawSelection.given (raw.insert k x) a =
        before a ++ (if Axis.ofText? k = some a then choices x.toList else []) ++ after a) ∧
      (k ∉ raw.keys → ∀ a, raw.given a = before a ++ after a) := by
  obtain ⟨before, after, hinsert, hfree⟩ := raw.exists_entries_insert k
  let fed (a : Axis) (e : String × RawValue) : List String :=
    if Axis.ofText? e.1 = some a then choices e.2.toList else []
  refine ⟨fun a => before.flatMap (fed a), fun a => after.flatMap (fed a), fun x a => ?_,
    fun hk a => ?_⟩
  · show (raw.insert k x).entries.flatMap (fed a) = _
    rw [hinsert, List.flatMap_append, List.flatMap_cons, List.append_assoc]
  · show raw.entries.flatMap (fed a) = _
    rw [hfree hk, List.flatMap_append]

/-! ## Adding hooks -/

/-- Hooks are added right behind the choices under the key `hooks`, if it is there. -/
theorem exists_given_addHooks (raw : RawSelection) (hooks : List String) :
    ∃ before after : Axis → List String, ∀ a,
      raw.given a =
        before a ++ (if .hooks = a then choices (raw.listed .hooks) else []) ++ after a ∧
      (raw.addHooks hooks).given a = before a ++
        (if .hooks = a then choices (raw.listed .hooks) ++ choices hooks else []) ++ after a := by
  obtain ⟨before, after, hinsert, hfree⟩ := exists_given_insert raw Axis.hooks.name
  simp only [Axis.ofText?_name, Option.some_inj] at hinsert
  refine ⟨before, after, fun a => ⟨?_, ?_⟩⟩
  · unfold listed
    cases hget : raw.get? Axis.hooks.name with
    | none =>
      rw [hfree (Dict.get?_eq_none_iff.1 hget), Option.map_none, Option.getD_none]
      simp [choices]
    | some x =>
      have hgiven := hinsert x a
      rwa [Dict.insert_of_get? hget] at hgiven
  · rw [← choices_append]
    exact hinsert (.many (raw.listed .hooks ++ hooks)) a

theorem given_addHooks_of_ne (h : a ≠ .hooks) : (raw.addHooks hooks).given a = raw.given a := by
  obtain ⟨before, after, hgiven⟩ := exists_given_addHooks raw hooks
  rw [(hgiven a).1, (hgiven a).2, if_neg h.symm, if_neg h.symm]

theorem mem_given_addHooks :
    v ∈ (raw.addHooks hooks).given .hooks ↔ v ∈ raw.given .hooks ∨ v ∈ choices hooks := by
  obtain ⟨before, after, hgiven⟩ := exists_given_addHooks raw hooks
  rw [(hgiven .hooks).1, (hgiven .hooks).2, if_pos rfl, if_pos rfl]
  simp only [List.mem_append]
  tauto

end RawSelection

end PipeLoom
