/-!
# Dictionaries with text keys

A `Dict α` keeps its entries in ascending key order, each key once, so two dictionaries with the
same look-ups are equal. A `NameSet` is a dictionary without values.
-/

namespace PipeLoom

/-- Entries in strictly ascending key order. -/
def KeysAscend {α : Type} (es : List (String × α)) : Prop := es.Pairwise fun a b => a.1 < b.1

structure Dict (α : Type) where
  entries : List (String × α)
  ascend : KeysAscend entries

instance {α : Type} [DecidableEq α] : DecidableEq (Dict α) := fun a b =>
  if h : a.entries = b.entries then
    isTrue (by cases a; cases b; cases h; rfl)
  else
    isFalse fun e => h (congrArg Dict.entries e)

namespace Dict

variable {α : Type}

def empty : Dict α := ⟨[], .nil⟩

instance : EmptyCollection (Dict α) := ⟨empty⟩
instance : Inhabited (Dict α) := ⟨empty⟩

def insertEntry (k : String) (v : α) : List (String × α) → List (String × α)
  | [] => [(k, v)]
  | e :: es =>
    if k < e.1 then (k, v) :: e :: es
    else if e.1 < k then e :: insertEntry k v es
    else (k, v) :: es

theorem mem_insertEntry {k : String} {v : α} {es : List (String × α)} {x : String × α}
    (h : x ∈ insertEntry k v es) : x = (k, v) ∨ x ∈ es := by
  induction es with
  | nil => exact .inl (by simpa [insertEntry] using h)
  | cons e es ih =>
    simp only [insertEntry] at h
    split at h
    · simpa using h
    · split at h
      · rcases List.mem_cons.1 h with h | h
        · exact .inr (by simp [h])
        · exact (ih h).imp_right (List.mem_cons_of_mem _)
      · rcases List.mem_cons.1 h with h | h
        · exact .inl h
        · exact .inr (List.mem_cons_of_mem _ h)

theorem keysAscend_insertEntry {k : String} {v : α} {es : List (String × α)} (h : KeysAscend es) :
    KeysAscend (insertEntry k v es) := by
  induction es with
  | nil => simp [insertEntry, KeysAscend]
  | cons e es ih =>
    obtain ⟨he, hes⟩ := List.pairwise_cons.1 h
    simp only [insertEntry]
    split
    · rename_i hk
      refine List.pairwise_cons.2 ⟨fun x hx => ?_, h⟩
      rcases List.mem_cons.1 hx with rfl | hx
      · exact hk
      · exact String.lt_trans hk (he x hx)
    · split
      · rename_i hk
        refine List.pairwise_cons.2 ⟨fun x hx => ?_, ih hes⟩
        rcases mem_insertEntry hx with rfl | hx
        · exact hk
        · exact he x hx
      · rename_i h1 h2
        have hk : k = e.1 := String.le_antisymm (String.not_lt.1 h2) (String.not_lt.1 h1)
        exact List.pairwise_cons.2 ⟨fun x hx => hk ▸ he x hx, hes⟩

/-- Sets the value at a key, in place of an earlier one. -/
def insert (d : Dict α) (k : String) (v : α) : Dict α :=
  ⟨insertEntry k v d.entries, keysAscend_insertEntry d.ascend⟩

def erase (d : Dict α) (k : String) : Dict α :=
  ⟨d.entries.filter (·.1 != k), d.ascend.filter _⟩

def get? (d : Dict α) (k : String) : Option α := d.entries.lookup k

def contains (d : Dict α) (k : String) : Bool := (d.get? k).isSome

def keys (d : Dict α) : List String := d.entries.map (·.1)

def isEmpty (d : Dict α) : Bool := d.entries.isEmpty

theorem lookup_cons_eq (k : String) (e : String × α) (es : List (String × α)) :
    (e :: es).lookup k = if k = e.1 then some e.2 else es.lookup k := by
  rcases e with ⟨k', v⟩
  rw [List.lookup_cons]
  by_cases h : k = k'
  · simp [h]
  · simp [h, beq_false_of_ne h]

/-- Where no key comes twice, an entry is found by its key. -/
theorem lookup_eq_some_iff_mem {κ : Type} [BEq κ] [LawfulBEq κ] {es : List (κ × α)}
    (h : (es.map Prod.fst).Nodup) {k : κ} {v : α} : es.lookup k = some v ↔ (k, v) ∈ es := by
  induction es with
  | nil => simp
  | cons x es ih =>
    obtain ⟨k', v'⟩ := x
    obtain ⟨hk', hes⟩ := List.nodup_cons.1 h
    rw [List.lookup_cons, List.mem_cons, Prod.mk.injEq]
    by_cases hk : k = k'
    · subst hk
      have hrest : (k, v) ∉ es := fun hmem => hk' (List.mem_map.2 ⟨_, hmem, rfl⟩)
      simp only [beq_self_eq_true, Option.some.injEq, true_and]
      exact ⟨fun h => .inl h.symm, fun h => (h.resolve_right hrest).symm⟩
    · simp only [beq_false_of_ne hk, hk, false_and, false_or]
      exact ih hes

theorem lookup_insertEntry (k k' : String) (v : α) (es : List (String × α)) :
    (insertEntry k v es).lookup k' = if k' = k then some v else es.lookup k' := by
  induction es with
  | nil => simp [insertEntry, lookup_cons_eq]
  | cons e es ih =>
    simp only [insertEntry]
    split
    · simp [lookup_cons_eq]
    · split
      · rename_i hk
        have : e.1 ≠ k := fun he => String.lt_irrefl _ (he ▸ hk)
        by_cases h : k' = e.1 <;> simp [lookup_cons_eq, ih, h, this]
      · rename_i h1 h2
        have hk : k = e.1 := String.le_antisymm (String.not_lt.1 h2) (String.not_lt.1 h1)
        by_cases h : k' = e.1 <;> simp [lookup_cons_eq, hk, h]

theorem get?_insert (d : Dict α) (k k' : String) (v : α) :
    (d.insert k v).get? k' = if k' = k then some v else d.get? k' :=
  lookup_insertEntry k k' v d.entries

theorem get?_erase (d : Dict α) (k k' : String) :
    (d.erase k).get? k' = if k' = k then none else d.get? k' := by
  show (d.entries.filter (·.1 != k)).lookup k' = if k' = k then none else d.entries.lookup k'
  induction d.entries with
  | nil => simp
  | cons e es ih =>
    by_cases he : e.1 = k
    · rw [List.filter_cons_of_neg (by simp [he]), ih, lookup_cons_eq, he]
      split <;> rfl
    · rw [List.filter_cons_of_pos (by simp [he]), lookup_cons_eq, lookup_cons_eq, ih]
      by_cases hk : k' = e.1 <;> simp [hk, he]

/-- The dictionary of a list of entries; of two with one key the later counts. -/
def ofList (es : List (String × α)) : Dict α := es.foldl (fun d e => d.insert e.1 e.2) empty

theorem insertEntry_of_lt {k : String} {v : α} {es : List (String × α)} (h : ∀ e ∈ es, e.1 < k) :
    insertEntry k v es = es ++ [(k, v)] := by
  induction es with
  | nil => rfl
  | cons e es ih =>
    obtain ⟨he, hes⟩ := List.forall_mem_cons.1 h
    have hnot : ¬k < e.1 := fun hk => String.lt_irrefl _ (String.lt_trans he hk)
    rw [insertEntry, if_neg hnot, if_pos he, ih hes]
    rfl

theorem entries_foldl {d : Dict α} {es : List (String × α)} (h : KeysAscend (d.entries ++ es)) :
    (es.foldl (fun d e => d.insert e.1 e.2) d).entries = d.entries ++ es := by
  induction es generalizing d with
  | nil => rw [List.append_nil]; rfl
  | cons e es ih =>
    have hlast : (d.insert e.1 e.2).entries = d.entries ++ [e] :=
      insertEntry_of_lt fun x hx => (List.pairwise_append.1 h).2.2 x hx e List.mem_cons_self
    rw [List.append_cons, ← hlast] at h
    rw [List.foldl_cons, ih h, hlast, List.append_assoc]
    rfl

/-- A dictionary is made of its entries. -/
theorem ofList_entries (d : Dict α) : ofList d.entries = d := by
  have h : (ofList d.entries).entries = d.entries := entries_foldl (d := empty) d.ascend
  generalize ofList d.entries = d' at h
  cases d
  cases d'
  cases h
  rfl

/-- All entries of both; at a common key the second one's value counts. -/
def override (d e : Dict α) : Dict α := e.entries.foldl (fun d x => d.insert x.1 x.2) d

theorem mem_keys_iff {d : Dict α} {k : String} : k ∈ d.keys ↔ (d.get? k).isSome = true := by
  simp [keys, get?, List.lookup_isSome_iff]

theorem get?_eq_none_iff {d : Dict α} {k : String} : d.get? k = none ↔ k ∉ d.keys := by
  rw [mem_keys_iff, Bool.not_eq_true, Option.isSome_eq_false_iff, Option.isNone_iff_eq_none]

theorem isEmpty_of_mem_keys {d : Dict α} {k : String} (h : k ∈ d.keys) : d.isEmpty = false := by
  rw [Bool.eq_false_iff]
  intro hempty
  rw [keys, List.isEmpty_iff.1 hempty] at h
  cases h

theorem mem_keys_insert_iff {d : Dict α} {k k' : String} {v : α} :
    k' ∈ (d.insert k v).keys ↔ k' ∈ d.keys ∨ k' = k := by
  rw [mem_keys_iff, mem_keys_iff, get?_insert]
  split <;> simp [*]

/-- At a key that both have the second dictionary decides. -/
theorem get?_override (d e : Dict α) (k : String) :
    (d.override e).get? k = (e.get? k).or (d.get? k) := by
  obtain ⟨es, hes⟩ := e
  show (es.foldl (fun d x => d.insert x.1 x.2) d).get? k = (es.lookup k).or (d.get? k)
  induction es generalizing d with
  | nil => rfl
  | cons x xs ih =>
    obtain ⟨hx, hxs⟩ := List.pairwise_cons.1 hes
    rw [List.foldl_cons, ih _ hxs, get?_insert, lookup_cons_eq]
    split
    · rename_i hk
      have hrest : xs.lookup k = none := by
        rw [List.lookup_eq_none_iff]
        intro e he
        have hlt : k < e.1 := hk ▸ hx e he
        exact bne_iff_ne.2 fun heq : k = e.1 => String.lt_irrefl _ (heq ▸ hlt)
      rw [hrest]
      rfl
    · rfl

end Dict

/-- A set of names in ascending order. -/
abbrev NameSet := Dict Unit

namespace NameSet

def add (s : NameSet) (name : String) : NameSet := s.insert name ()

def ofList (names : List String) : NameSet := Dict.ofList (names.map fun n => (n, ()))

end NameSet

end PipeLoom
