import PipeLoom.Proofs.Yaml.ReadBack

/-!
# Taking records apart

A record of distinct fields is taken apart into what was put together (`fieldsOf?_entriesOf`): each
asked-for field has its value or is absent. What is written for texts, dictionaries and options is
read as these again, and left out just where it is empty.
-/

namespace PipeLoom.Yaml.Node

/-- The entries of a record. -/
def entriesOf (fields : List (String × Node)) : List (Node × Node) :=
  fields.map fun f => (text f.1, f.2)

/-- The value of a field of a mapping. -/
def field? (n : Node) (name : String) : Option Node :=
  match n with
  | map es => (es.find? fun e => e.1.same (text name)).map (·.2)
  | _ => none

variable {fields : List (String × Node)} {name key : String}

/-! ## Fields by name -/

theorem field?_record (fields : List (String × Node)) (name : String) :
    (record fields).field? name = fields.lookup name := by
  show ((fields.map fun f => (text f.1, f.2)).find? _).map _ = _
  induction fields with
  | nil => rfl
  | cons f fs ih =>
    rw [List.map_cons, List.find?_cons, Dict.lookup_cons_eq]
    show Option.map _ (match f.1 == name with | true => _ | false => _) = _
    by_cases h : name = f.1
    · rw [if_pos h, h, beq_self_eq_true]
      rfl
    · rw [if_neg h, beq_false_of_ne (Ne.symm h)]
      exact ih

theorem fieldsFrom?_entriesOf (h : (fields.map Prod.fst).Nodup) (numbered : Bool) (place : Nat)
    (names : List String) : fieldsFrom? numbered (entriesOf fields) place names =
      some (names.map fun name => fields.lookup name) := by
  induction names generalizing place with
  | nil => rfl
  | cons name names ih =>
    have hfilter : (entriesOf fields).filter (fun e => isKeyOf numbered name place e.1) =
        (fields.lookup name).toList.map fun v => (text name, v) := by
      have hkeys := congrArg entriesOf (Document.filter_eq_of_nodup h name)
      unfold entriesOf at hkeys ⊢
      rw [List.map_map] at hkeys
      rw [List.filter_map]
      exact hkeys
    rw [fieldsFrom?, hfilter, ih, List.map_cons]
    cases fields.lookup name <;> rfl

theorem all_isFieldKey (numbered : Bool) (fields : List (String × Node)) :
    (entriesOf fields).all (fun e => isFieldKey numbered e.1) = true := by
  unfold entriesOf
  rw [List.all_map, List.all_eq_true]
  exact fun _ _ => rfl

theorem fieldsOf?_entriesOf (h : (fields.map Prod.fst).Nodup) (numbered : Bool)
    (names : List String) : fieldsOf? numbered names (entriesOf fields) =
      some (names.map fun name => fields.lookup name) := by
  unfold fieldsOf?
  rw [if_pos (all_isFieldKey numbered fields), fieldsFrom?_entriesOf h]

/-! ## Names -/

theorem names_unless (absent : Bool) (name : String) (value : Node) :
    ((if absent then [] else [(name, value)]).map Prod.fst).Sublist [name] := by
  cases absent with
  | true => exact List.nil_sublist _
  | false => exact List.Sublist.refl _

theorem names_optionalField (name : String) (value : Option String) :
    ((optionalField name value).map Prod.fst).Sublist [name] := by
  cases value with
  | none => exact List.nil_sublist _
  | some s => exact List.Sublist.refl _

theorem names_dictField (name : String) (d : Dict String) :
    ((dictField name d).map Prod.fst).Sublist [name] := names_unless _ _ _

/-! ## Values -/

theorem text?_text (s : String) : (text s).text? = some s := rfl

theorem mapM_map {α β : Type} (write : α → β) (read : β → Option α)
    (h : ∀ a, read (write a) = some a) (as : List α) : (as.map write).mapM read = some as := by
  induction as with
  | nil => rfl
  | cons a as ih =>
    rw [List.map_cons, List.mapM_cons, h, ih]
    rfl

theorem list?_ofTexts (nullIsEmpty : Bool) (texts : List String) :
    (ofTexts texts).list? nullIsEmpty text? = some texts :=
  mapM_map text text? (fun _ => rfl) texts

theorem dict?_ofDict (nullIsEmpty : Bool) (d : Dict String) :
    (ofDict d).dict? nullIsEmpty = some d := by
  have hentries := mapM_map (fun e : String × String => (text e.1, text e.2))
    (fun e => do return (← e.1.text?, ← e.2.text?)) (fun _ => rfl) d.entries
  unfold ofDict record dict?
  rw [List.map_map]
  show Option.bind (List.mapM _ (d.entries.map fun e => (text e.1, text e.2))) _ = some d
  rw [hentries, Option.bind_some]
  exact congrArg some d.ofList_entries

theorem optional?_map_text (value : Option String) :
    optional? text? (value.map text) = some value := by
  cases value <;> rfl

theorem hasTag_ofDict (d : Dict String) : (ofDict d).hasTag = false := by
  show entriesHaveTag ((d.entries.map fun e => (e.1, text e.2)).map fun f => (text f.1, f.2)) =
    false
  induction d.entries with
  | nil => rfl
  | cons e es ih => exact ih

/-! ## Values that may be left out -/

/-- A dictionary as the value of a field that is left out where it is empty. -/
def ofDict? (d : Dict String) : Option Node := if d.isEmpty then none else some (ofDict d)

/-- Texts as the value of a field that is left out where there are none. -/
def ofTexts? (texts : List String) : Option Node :=
  if texts.isEmpty then none else some (ofTexts texts)

theorem lookup_optionalField (name key : String) (value : Option String) :
    (optionalField name value).lookup key = if key = name then value.map text else none := by
  cases value with
  | none => simp [optionalField]
  | some v => simp [optionalField, Dict.lookup_cons_eq]

theorem lookup_dictField (name key : String) (d : Dict String) :
    (dictField name d).lookup key = if key = name then ofDict? d else none := by
  unfold dictField ofDict?
  split
  · exact (ite_self none).symm
  · rw [Dict.lookup_cons_eq]
    rfl

theorem lookup_textsField (name key : String) (texts : List String) :
    (if texts.isEmpty then [] else [(name, ofTexts texts)]).lookup key =
      if key = name then ofTexts? texts else none := by
  unfold ofTexts?
  split
  · exact (ite_self none).symm
  · rw [Dict.lookup_cons_eq]
    rfl

theorem ofDict?_eq_none_iff {d : Dict String} : ofDict? d = none ↔ d = ∅ := by
  unfold ofDict?
  constructor
  · intro h
    split at h
    · rename_i hempty
      rw [← d.ofList_entries, List.isEmpty_iff.1 hempty]
      rfl
    · cases h
  · rintro rfl
    rfl

theorem ofTexts?_eq_none_iff {texts : List String} : ofTexts? texts = none ↔ texts = [] := by
  cases texts <;> simp [ofTexts?]

theorem orElse_ofDict? (nullIsEmpty : Bool) (d : Dict String) :
    orElse ∅ (dict? nullIsEmpty) (ofDict? d) = some d := by
  cases h : ofDict? d with
  | none => exact congrArg some (ofDict?_eq_none_iff.1 h).symm
  | some n =>
    unfold ofDict? at h
    split at h
    · cases h
    · cases h
      exact dict?_ofDict nullIsEmpty d

theorem orElse_ofTexts? (nullIsEmpty : Bool) (texts : List String) :
    orElse [] (·.list? nullIsEmpty text?) (ofTexts? texts) = some texts := by
  cases texts with
  | nil => rfl
  | cons t texts => exact list?_ofTexts nullIsEmpty (t :: texts)

end PipeLoom.Yaml.Node
