import PipeLoom.Proofs.Selection.Acceptance
import PipeLoom.Proofs.Selection.Given

/-!
# Resolving again

Resolution looks only at what is given (`resolve_congr`), and a selection written down as a raw one
gives what it holds. So a resolved selection resolves again to itself (`resolve_toRaw`).
-/

namespace PipeLoom

/-- The value under a key, found among all entries. -/
theorem Dict.flatMap_entries {α β : Type} (d : Dict α) (k : String) (f : α → List β) :
    (d.entries.flatMap fun e => if e.1 = k then f e.2 else []) =
      ((d.get? k).map f).getD [] := by
  obtain ⟨es, hes⟩ := d
  show es.flatMap _ = ((es.lookup k).map f).getD []
  induction es with
  | nil => rfl
  | cons e es ih =>
    obtain ⟨hfirst, hes⟩ := List.pairwise_cons.1 hes
    rw [List.flatMap_cons, lookup_cons_eq]
    by_cases hk : e.1 = k
    · have hrest : (es.flatMap fun e => if e.1 = k then f e.2 else []) = [] := by
        rw [List.flatMap_eq_nil_iff]
        intro x hx
        rw [if_neg fun h => String.lt_irrefl _ (h.symm ▸ hk ▸ hfirst x hx)]
      rw [if_pos hk, if_pos hk.symm, hrest, List.append_nil]
      rfl
    · rw [if_neg hk, if_neg (Ne.symm hk), List.nil_append]
      exact ih hes

theorem Axis.name_injective : Function.Injective Axis.name := by
  intro a b h
  have hb := ofName?_name b
  rw [← h, ofName?_name] at hb
  exact Option.some.inj hb

namespace RawSelection

variable {raw : RawSelection} {a b : Axis} {v : String}

/-! ## Keys that are names -/

/-- Every key is the name of an axis. -/
def Canonical (raw : RawSelection) : Prop := ∀ key ∈ raw.keys, ∃ a : Axis, key = a.name

theorem canonical_empty : Canonical ∅ := fun _ h => nomatch h

theorem Canonical.insert (h : raw.Canonical) (a : Axis) (value : RawValue) :
    Canonical (Dict.insert raw a.name value) := fun _ hkey =>
  (Dict.mem_keys_insert_iff.1 hkey).elim (h _) fun hkey => ⟨a, hkey⟩

theorem Canonical.setOptional (h : raw.Canonical) (a : Axis) (value : Option String) :
    (raw.setOptional a.name value).Canonical := by
  cases value with
  | none => exact h
  | some v => exact h.insert a _

theorem Canonical.addHooks (h : raw.Canonical) (hooks : List String) :
    (raw.addHooks hooks).Canonical := h.insert .hooks _

theorem Canonical.unknownKeys (h : raw.Canonical) : raw.unknownKeys = [] := by
  rw [unknownKeys_eq_nil_iff]
  intro key hkey
  obtain ⟨a, rfl⟩ := h key hkey
  exact ⟨a, Axis.ofText?_name a⟩

theorem Canonical.given (h : raw.Canonical) (a : Axis) : raw.given a = choices (raw.listed a) := by
  have hnamed : raw.given a =
      raw.entries.flatMap fun e => if e.1 = a.name then choices e.2.toList else [] := by
    unfold RawSelection.given
    refine List.flatMap_congr fun e he => ?_
    obtain ⟨b, hb⟩ := h e.1 (List.mem_map_of_mem he)
    have hiff : Axis.ofText? e.1 = some a ↔ e.1 = a.name := by
      rw [hb, Axis.ofText?_name, Option.some_inj]
      exact Axis.name_injective.eq_iff.symm
    simp only [hiff]
    rfl
  rw [hnamed, Dict.flatMap_entries raw a.name fun value => choices value.toList]
  unfold listed
  cases raw.get? a.name <;> rfl

theorem listed_insert (value : RawValue) :
    RawSelection.listed (Dict.insert raw b.name value) a =
      if a = b then value.toList else raw.listed a := by
  unfold listed
  rw [Dict.get?_insert]
  by_cases h : a = b
  · rw [if_pos (congrArg Axis.name h), if_pos h]
    rfl
  · rw [if_neg fun hname => h (Axis.name_injective hname), if_neg h]

theorem listed_setOptional (h : raw.listed b = []) (value : Option String) :
    (raw.setOptional b.name value).listed a = if a = b then value.toList else raw.listed a := by
  cases value with
  | none =>
    by_cases ha : a = b
    · rw [if_pos ha, ha]
      exact h
    · rw [if_neg ha]
      rfl
  | some v => exact listed_insert (.one v)

theorem listed_addHooks (hooks : List String) :
    (raw.addHooks hooks).listed a =
      if a = .hooks then raw.listed .hooks ++ hooks else raw.listed a :=
  listed_insert (.many _)

/-! ## Values set one by one -/

/-- Each axis is set once. -/
theorem listed_foldl {as : List Axis} (has : as.Nodup) {raw : RawSelection}
    (h : raw.Canonical ∧ ∀ a ∈ as, raw.listed a = []) (get : Axis → Option String) :
    let r := as.foldl (fun raw a => raw.setOptional a.name (get a)) raw
    r.Canonical ∧ ∀ a, r.listed a = if a ∈ as then (get a).toList else raw.listed a := by
  induction as generalizing raw with
  | nil => exact ⟨h.1, fun a => (if_neg List.not_mem_nil).symm⟩
  | cons b as ih =>
    obtain ⟨hb, has⟩ := List.nodup_cons.1 has
    obtain ⟨hcanonical, hfree⟩ := h
    have hset := fun a => listed_setOptional (a := a) (hfree b List.mem_cons_self) (get b)
    have hfree' : ∀ a ∈ as, (raw.setOptional b.name (get b)).listed a = [] := by
      intro a ha
      have hab : a ≠ b := fun hab => hb (hab ▸ ha)
      rw [hset, if_neg hab]
      exact hfree a (List.mem_cons_of_mem _ ha)
    obtain ⟨hcanonical', hlisted⟩ := ih has ⟨hcanonical.setOptional b _, hfree'⟩
    refine ⟨hcanonical', fun a => ?_⟩
    rw [List.foldl_cons, hlisted, hset]
    by_cases hab : a = b
    · subst hab
      rw [if_neg hb, if_pos rfl, if_pos List.mem_cons_self]
    · simp only [List.mem_cons, hab, false_or, if_false]

/-- The values that are set one by one, each under the name of its axis. -/
theorem listed_foldl_all (get : Axis → Option String) :
    let r := Axis.all.foldl (fun raw a => raw.setOptional a.name (get a)) (∅ : RawSelection)
    r.Canonical ∧ ∀ a, r.listed a = (get a).toList := by
  have hall : Axis.all.Nodup := by decide
  obtain ⟨hcanonical, hlisted⟩ := listed_foldl hall ⟨canonical_empty, fun _ _ => rfl⟩ get
  simp only [Axis.mem_all, if_true] at hlisted
  exact ⟨hcanonical, hlisted⟩

end RawSelection

/-! ## Raw forms -/

namespace Selection

variable {s : Selection} {a : Axis}

theorem toList_get? (s : Selection) (a : Axis) :
    (s.get? a).toList = if a = .hooks then [] else s.values a := by
  cases a with
  | framework => cases hf : s.framework <;> simp [get?, values, Axis.isMultiValued, hf]
  | _ => rfl

theorem toRaw_spec (s : Selection) :
    s.toRaw.Canonical ∧ ∀ a, s.toRaw.listed a = s.values a := by
  obtain ⟨hcanonical, hlisted⟩ := RawSelection.listed_foldl_all s.get?
  simp only [toList_get?] at hlisted
  unfold toRaw
  simp only
  split
  · rename_i hhooks
    refine ⟨hcanonical, fun a => (hlisted a).trans ?_⟩
    by_cases ha : a = .hooks
    · subst ha
      exact (List.isEmpty_iff.1 hhooks).symm
    · exact if_neg ha
  · refine ⟨hcanonical.insert .hooks _, fun a => (RawSelection.listed_insert _).trans ?_⟩
    by_cases ha : a = .hooks
    · subst ha
      rfl
    · rw [if_neg ha, hlisted, if_neg ha]

theorem given_toRaw (h : ∀ a, ∀ v ∈ s.values a, RawSelection.IsChoice v) (a : Axis) :
    s.toRaw.given a = s.values a := by
  obtain ⟨hcanonical, hlisted⟩ := s.toRaw_spec
  rw [hcanonical.given, hlisted, RawSelection.choices_eq_self (h a)]

end Selection

/-! ## Resolving again -/

/-- Both give the same values, hooks in any order and number. -/
structure RawSelection.Alike (raw raw' : RawSelection) : Prop where
  unknown : raw.unknownKeys = [] → raw'.unknownKeys = []
  single {a : Axis} : a ≠ .hooks → raw'.given a = raw.given a
  hooks {v : String} : v ∈ raw'.given .hooks ↔ v ∈ raw.given .hooks

namespace Catalogue

variable {c : Catalogue} {raw raw' : RawSelection} {s : Selection} {a : Axis} {v : String}

theorem gives_congr (h : raw.Alike raw') : raw'.Gives a v ↔ raw.Gives a v := by
  rw [← RawSelection.mem_given, ← RawSelection.mem_given]
  by_cases ha : a = .hooks
  · subst ha
    exact h.hooks
  · rw [h.single ha]

theorem accepts_congr (h : raw.Alike raw') (hraw : c.Accepts raw) : c.Accepts raw' := by
  have hpicks : ∀ f, c.Picks raw' f → c.Picks raw f := fun f ⟨a, v, hv, hf⟩ =>
    ⟨a, v, (gives_congr h).1 hv, hf⟩
  refine ⟨?_, fun a ha => ?_, ?_, fun a v hv => hraw.known a v ((gives_congr h).1 hv),
    fun f g hf hg => hraw.compatible f g (hpicks f hf) (hpicks g hg), fun f hf r hr => ?_⟩
  · rw [← RawSelection.unknownKeys_eq_nil_iff]
    exact h.unknown (RawSelection.unknownKeys_eq_nil_iff.2 hraw.keys)
  · have hne : a ≠ .hooks := by
      rintro rfl
      cases ha
    rw [h.single hne]
    exact hraw.required a ha
  · rw [h.single (by decide)]
    exact hraw.framework
  · obtain ⟨v, hv, hgives⟩ := hraw.satisfied f (hpicks f hf) r hr
    exact ⟨v, hv, (gives_congr h).2 hgives⟩

theorem chosen_congr (h : raw.Alike raw') (a : Axis) : c.chosen raw' a = c.chosen raw a := by
  by_cases ha : a = .hooks
  · subst ha
    rw [chosen_hooks, chosen_hooks]
    refine List.filter_congr fun v _ => ?_
    rw [Bool.eq_iff_iff, List.contains_iff_mem, List.contains_iff_mem]
    exact h.hooks
  · unfold chosen
    rw [h.single ha]

/-- Resolution looks only at what is given. -/
theorem resolve_congr (h : raw.Alike raw') (hs : c.resolve raw = .ok s) :
    c.resolve raw' = .ok s := by
  obtain ⟨hissues, hvalues⟩ := resolve_eq_ok_iff.1 hs
  refine resolve_eq_ok_iff.2 ⟨?_, fun a => (hvalues a).trans (chosen_congr h a).symm⟩
  exact issues_eq_nil_iff_accepts.2 (accepts_congr h (issues_eq_nil_iff_accepts.1 hissues))

theorem isChoice_of_resolve (hs : c.resolve raw = .ok s) (hv : v ∈ s.values a) :
    RawSelection.IsChoice v := by
  have hholds := holds_of_resolve hs
  by_cases ha : a = .hooks
  · subst ha
    exact RawSelection.isChoice_of_mem_given (RawSelection.mem_given.2 ((hholds.mem_hooks v).1 hv))
  · exact RawSelection.isChoice_of_mem_given (hholds.single a ha ▸ hv)

/-- A raw selection that gives what was resolved, hooks in any order and number, resolves to it. -/
theorem resolve_of_given (hs : c.resolve raw = .ok s) (hunknown : raw'.unknownKeys = [])
    (hsingle : ∀ a, a ≠ .hooks → raw'.given a = s.values a)
    (hhooks : ∀ v, v ∈ raw'.given .hooks ↔ v ∈ s.hooks) : c.resolve raw' = .ok s := by
  have hholds := holds_of_resolve hs
  refine resolve_congr ⟨fun _ => hunknown, fun {a} ha => ?_, fun {v} => ?_⟩ hs
  · rw [hsingle a ha, hholds.single a ha]
  · rw [hhooks, RawSelection.mem_given]
    exact hholds.mem_hooks v

theorem unknownKeys_of_resolve (hs : c.resolve raw = .ok s) : raw.unknownKeys = [] :=
  RawSelection.unknownKeys_eq_nil_iff.2
    (issues_eq_nil_iff_accepts.1 (resolve_eq_ok_iff.1 hs).1).keys

theorem given_toRaw_of_resolve (hs : c.resolve raw = .ok s) (a : Axis) :
    s.toRaw.given a = s.values a :=
  Selection.given_toRaw (fun a _ hv => isChoice_of_resolve (a := a) hs hv) a

/-- A resolved selection, written down as a raw one, resolves to itself. -/
theorem resolve_toRaw (hs : c.resolve raw = .ok s) : c.resolve s.toRaw = .ok s := by
  have hgiven := given_toRaw_of_resolve hs
  refine resolve_of_given hs s.toRaw_spec.1.unknownKeys (fun a _ => hgiven a) fun v => ?_
  rw [hgiven]
  exact Iff.rfl

/-! ## The raw form of a selection -/

theorem alike_toRaw_of_resolve (hs : c.resolve raw = .ok s) : s.toRaw.Alike raw := by
  have hholds := holds_of_resolve hs
  have hgiven := given_toRaw_of_resolve hs
  refine ⟨fun _ => unknownKeys_of_resolve hs, fun {a} ha => ?_, fun {v} => ?_⟩
  · rw [hgiven, hholds.single a ha]
  · rw [hgiven, RawSelection.mem_given]
    exact (hholds.mem_hooks v).symm

/-- A resolved selection resolves again to itself, and so does what gives the same values, hooks in
any order and number; nothing else does. -/
theorem resolve_eq_iff_alike_toRaw (hs : c.resolve raw = .ok s) :
    c.resolve s.toRaw = .ok s ∧ ∀ raw', c.resolve raw' = .ok s ↔ s.toRaw.Alike raw' := by
  have hround := resolve_toRaw hs
  exact ⟨hround, fun raw' => ⟨alike_toRaw_of_resolve, fun halike => resolve_congr halike hround⟩⟩

/-- Hooks under two spellings of their key, in another order than the catalogue has them. -/
def hooksRaw : RawSelection :=
  .ofList [("language", .one "nodejs"), ("packageManager", .one "npm"),
    ("framework", .one " nextjs"), ("provider", .one "aws"), ("service", .one "ecs"),
    ("hook", .one "notify-slack"), ("hooks", .many ["hotfix", "hotfix ", "security-scan"])]

/-- The hooks are not in alphabetical order. -/
def hooksSelection : Selection :=
  ⟨"nodejs", "npm", some "nextjs", "aws", "ecs", ["security-scan", "hotfix", "notify-slack"]⟩

theorem resolve_hooksRaw : builtin.resolve hooksRaw = .ok hooksSelection :=
  resolve_of_checks (by decide +kernel)

theorem resolve_eq_iff_alike_toRaw_hooksRaw :
    builtin.resolve hooksRaw = .ok hooksSelection ∧ hooksSelection.toRaw ≠ hooksRaw ∧
      builtin.resolve hooksSelection.toRaw = .ok hooksSelection ∧
      hooksSelection.toRaw.Alike hooksRaw :=
  have h := resolve_eq_iff_alike_toRaw resolve_hooksRaw
  ⟨resolve_hooksRaw, by decide +kernel, h.1, (h.2 hooksRaw).1 resolve_hooksRaw⟩

end Catalogue

end PipeLoom
