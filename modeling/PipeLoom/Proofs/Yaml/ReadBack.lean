import PipeLoom.Proofs.Yaml.Equality
import PipeLoom.Proofs.Yaml.Reading
import PipeLoom.Yaml.Node.Fields
import PipeLoom.Yaml.Node.Print
import PipeLoom.Yaml.Record

/-!
# Reading the fields of a value

A printed value reads back if its text is a document with that value (`Node.ReadsBack`). A document
of plain fields is read in another way than a value, each scalar as its text. Where the document has
a record as its value, both agree: its trees give the fields (`record_of_value`), the texts, options
and dictionaries in it (`text_of_value`, `Fields.optionalField`, `Fields.dictField`).
-/

namespace PipeLoom.Yaml

/-- The text of the value is a document with this value. -/
def Node.ReadsBack (n : Node) : Prop :=
  ∃ d, Document.ofText? n.print = some d ∧ d.root? Document.kept = some n

/-- The document that a list of characters makes up. -/
def Document.ofChars? (s : List Char) : Option Document :=
  (if s.all isAllowed then Layout.run? (s.length + 1) (.start s) else none).bind
    TreeReader.document

theorem Document.ofText?_of_toList {text : String} {s : List Char} (h : text.toList = s) :
    ofText? text = ofChars? s := by
  subst h
  rfl

namespace Document

variable {d : Document} {r : Strictness} {depth n k l : Nat} {t : Tree}
  {parts : Option (Tree → Reading Node)}

/-! ## Scalars -/

theorem isNull_of_resolve {s : String} (h : Scalar.resolve s = .text) : Scalar.isNull s = false := by
  unfold Scalar.resolve at h
  simp only at h
  split at h
  · cases h
  · rename_i hnull
    exact Bool.eq_false_iff.2 hnull

theorem text_of_ofScalar? {s s' : String} { isPlain : Bool}
    (h : Node.ofScalar? s isPlain = some (.text s')) :
    s' = s ∧ ( isPlain = true → Scalar.isNull s = false) := by
  unfold Node.ofScalar? Node.ofInt? at h
  cases isPlain with
  | false =>
    cases h
    exact ⟨rfl, fun h => nomatch h⟩
  | true =>
    simp only [Bool.not_true, Bool.false_eq_true, if_false] at h
    split at h
    · cases h
    · cases h
    · split at h <;> cases h
    · simp at h
    · rename_i htext
      cases h
      exact ⟨rfl, fun _ => isNull_of_resolve htext⟩

theorem ofScalar?_ne_map (s : String) ( isPlain : Bool) (es : List (Node × Node)) :
    Node.ofScalar? s isPlain ≠ some (.map es) := by
  intro h
  unfold Node.ofScalar? Node.ofInt? at h
  split at h
  · cases h
  · split at h
    · cases h
    · cases h
    · split at h <;> cases h
    · simp at h
    · cases h

/-- What a tagged scalar is read as, by its tag. -/
theorem ofTagged?_cases {tag s : String} {v : Node} (h : Node.ofTagged? tag s = some v) :
    (v = .text s ∧ tag ≠ standardTag "null") ∨ (∃ b, v = .bool b) ∨ (∃ i, v = .int i) ∨
      (∃ f, v = .float f) ∨ v = .null := by
  unfold Node.ofTagged? Node.ofInt? at h
  split at h
  · obtain ⟨b, -, rfl⟩ := Option.map_eq_some_iff.1 h
    exact .inr (.inl ⟨b, rfl⟩)
  · split at h
    · obtain ⟨i, -, hi⟩ := Option.bind_eq_some_iff.1 h
      split at hi
      · cases hi
        exact .inr (.inr (.inl ⟨i, rfl⟩))
      · cases hi
    · split at h
      · obtain ⟨f, -, rfl⟩ := Option.map_eq_some_iff.1 h
        exact .inr (.inr (.inr (.inl ⟨f, rfl⟩)))
      · split at h
        · split at h
          · cases h
            exact .inr (.inr (.inr (.inr rfl)))
          · cases h
        · rename_i hnull
          cases h
          exact .inl ⟨rfl, hnull⟩

/-- A tag of the document's own is kept with the value, any other goes. -/
theorem own_eq_some {tag : Option String} {v v' : Node} (h : own r tag v k = some (v', l)) :
    l = k ∧ ((v' = v ∧ ∀ g, tag = some g → isOwnTag g = false) ∨ ∃ g, v' = .tagged g v) := by
  unfold own at h
  split at h
  · split at h
    · rename_i hown
      cases h
      refine ⟨rfl, .inl ⟨rfl, fun g hg => ?_⟩⟩
      cases hg
      simpa using hown
    · split at h
      · cases h
        exact ⟨rfl, .inr ⟨_, rfl⟩⟩
      · cases h
  · cases h
    exact ⟨rfl, .inl ⟨rfl, fun g hg => nomatch hg⟩⟩

/-! ## Values -/

/-- Only a scalar has a text for its value, and then it is no null. -/
theorem scalar_of_valueOf_text {s : String} (h : valueOf r parts t k = some (.text s, l)) :
    l = k ∧ ∃ tag isPlain, t = .scalar tag s isPlain ∧
      ( isPlain = true → (tag = none ∧ Scalar.isNull s = false) ∨
        ∃ g, tag = some g ∧ g ≠ standardTag "null") := by
  unfold valueOf at h
  split at h
  · rename_i tag s' isPlain
    split at h
    · rename_i g
      split at h
      · rename_i htag
        obtain ⟨v, k', -, hown⟩ := bind_eq_some_iff.1 h
        obtain ⟨-, ⟨-, hg⟩ | ⟨g', h⟩⟩ := own_eq_some hown
        · rw [hg g rfl] at htag
          cases htag
        · cases h
      · obtain ⟨hv, rfl⟩ := lift_eq_some_iff.1 h
        rcases ofTagged?_cases hv with ⟨hs, hnull⟩ | ⟨b, hb⟩ | ⟨i, hi⟩ | ⟨f, hf⟩ | hn
        · cases hs
          exact ⟨rfl, some g, isPlain, rfl, fun _ => .inr ⟨g, rfl, hnull⟩⟩
        all_goals contradiction
    · obtain ⟨hv, rfl⟩ := lift_eq_some_iff.1 h
      obtain ⟨rfl, hnull⟩ := text_of_ofScalar? hv
      exact ⟨rfl, none, isPlain, rfl, fun hplain => .inl ⟨rfl, hnull hplain⟩⟩
  · split at h
    · obtain ⟨xs, k', -, hown⟩ := bind_eq_some_iff.1 h
      obtain ⟨-, ⟨h, -⟩ | ⟨g, h⟩⟩ := own_eq_some hown <;> cases h
    · cases h
  · split at h
    · obtain ⟨es, k', -, h⟩ := bind_eq_some_iff.1 h
      split at h
      · cases h
      · obtain ⟨-, ⟨h, -⟩ | ⟨g, h⟩⟩ := own_eq_some h <;> cases h
    · cases h
  · cases h

/-- The keys and values of a mapping. -/
def pairs (part : Tree → Reading Node) (es : List (Tree × Tree)) : Reading (List (Node × Node)) :=
  es.mapM fun e => do return (← part e.1, ← part e.2)

/-- Only a mapping has a mapping for its value. -/
theorem map_of_valueOf {vs : List (Node × Node)} (h : valueOf r parts t k = some (.map vs, l)) :
    ∃ tag es part, t = .map tag es ∧ parts = some part ∧ pairs part es k = some (vs, l) ∧
      (!r.repeatedKeys && Node.hasRepeatedKey vs) = false := by
  unfold valueOf at h
  split at h
  · split at h
    · split at h
      · obtain ⟨v, k', hv, hown⟩ := bind_eq_some_iff.1 h
        obtain ⟨-, ⟨rfl, -⟩ | ⟨g, h⟩⟩ := own_eq_some hown
        · exact absurd (lift_eq_some_iff.1 hv).1 (ofScalar?_ne_map _ _ _)
        · cases h
      · rcases ofTagged?_cases (lift_eq_some_iff.1 h).1 with ⟨hv, -⟩ | ⟨b, hv⟩ | ⟨i, hv⟩ | ⟨f, hv⟩ | hv
        all_goals cases hv
    · exact absurd (lift_eq_some_iff.1 h).1 (ofScalar?_ne_map _ _ _)
  · split at h
    · obtain ⟨xs, k', -, hown⟩ := bind_eq_some_iff.1 h
      obtain ⟨-, ⟨h, -⟩ | ⟨g, h⟩⟩ := own_eq_some hown <;> cases h
    · cases h
  · rename_i tag es
    split at h
    · rename_i part
      obtain ⟨vs', k', hpairs, h⟩ := bind_eq_some_iff.1 h
      split at h
      · cases h
      · rename_i hkeys
        obtain ⟨rfl, ⟨hv, -⟩ | ⟨g, hv⟩⟩ := own_eq_some h
        · cases hv
          exact ⟨tag, es, part, rfl, rfl, hpairs, Bool.eq_false_iff.2 hkeys⟩
        · cases hv
    · cases h
  · cases h

/-- How the parts of a tree with at most `depth` levels are read. -/
def part? (d : Document) (r : Strictness) : Nat → Option (Tree → Reading Node)
  | 0 => none
  | depth + 1 => some (d.value r depth)

theorem value_eq (d : Document) (r : Strictness) (depth : Nat) (t : Tree) :
    d.value r depth t = d.follow t >>= valueOf r (d.part? r depth) := by
  cases depth <;> rw [value, part?]

theorem Counted.part? {part : Tree → Reading Node} (h : d.part? r depth = some part) (t : Tree) :
    Counted d (part t) := by
  cases depth with
  | zero => cases h
  | succ depth =>
    cases h
    exact .value r depth t

section Yields

variable (hn : n ≤ 100 * d.size)
include hn

theorem exists_follow_of_value {v : Node} (h : Yields d (d.value r depth t) v n) :
    ∃ t' n1 n2, n = n1 + n2 ∧ Yields d (d.follow t) t' n1 ∧
      Yields d (valueOf r (d.part? r depth) t') v n2 := by
  rw [value_eq] at h
  exact Counted.exists_of_bind (.follow t) (fun t' => .valueOf (fun _ hp => .part? hp) t') hn h

/-- The tree of a text reads as the text, also where it may be null. -/
theorem text_of_value {s : String} (h : Yields d (d.value r depth t) (.text s) n) :
    Yields d (d.text t) s n ∧ Yields d (d.textOrNull t) (some s) n := by
  obtain ⟨t', n1, n2, rfl, hfollow, hvalue⟩ := exists_follow_of_value hn h
  obtain ⟨hzero, tag, isPlain, rfl, hnull⟩ := scalar_of_valueOf_text (hvalue 0 (by omega))
  have hn2 : n2 = 0 := by omega
  subst hn2
  refine ⟨hfollow.bind (.pure s), hfollow.bind ?_⟩
  cases isPlain with
  | false => exact .pure (some s)
  | true =>
    rcases hnull rfl with ⟨rfl, hs⟩ | ⟨g, rfl, hg⟩
    · show Yields d (pure (if Scalar.isNull s then none else some s)) (some s) 0
      rw [hs]
      exact .pure (some s)
    · simp only [Bool.not_true, Bool.false_eq_true, if_false, bne_iff_ne, ne_eq, hg,
        not_false_eq_true, if_true]
      exact .pure (some s)

/-- The tree of a mapping is a mapping, whose keys and values are read one by one. -/
theorem map_of_value {vs : List (Node × Node)} (h : Yields d (d.value r depth t) (.map vs) n) :
    ∃ tag es part n1 n2, n = n1 + n2 ∧ Yields d (d.follow t) (.map tag es) n1 ∧
      d.part? r depth = some part ∧ Yields d (pairs part es) vs n2 ∧
      (!r.repeatedKeys && Node.hasRepeatedKey vs) = false := by
  obtain ⟨t', n1, n2, rfl, hfollow, hvalue⟩ := exists_follow_of_value hn h
  obtain ⟨tag, es, part, rfl, hpart, hpairs, hkeys⟩ := map_of_valueOf (hvalue 0 (by omega))
  have hcounted : Counted d (pairs part es) := by
    refine .mapM (fun e => ?_) es
    exact .bind (.part? hpart e.1) fun k => .bind (.part? hpart e.2) fun v => .pure (k, v)
  obtain ⟨n', hn', -, hyields⟩ := hcounted 0 vs _ hpairs
  have heq : n' = n2 := by omega
  exact ⟨tag, es, part, n1, n2, rfl, hfollow, hpart, heq ▸ hyields, hkeys⟩

/-- A mapping without its tag has the same value. -/
theorem value_of_untagged {vs : List (Node × Node)}
    (h : Yields d (d.value r depth t) (.map vs) n) :
    ∃ tag es n1 n2, n = n1 + n2 ∧ Yields d (d.follow t) (.map tag es) n1 ∧
      Yields d (d.value r depth (.map none es)) (.map vs) n2 := by
  obtain ⟨tag, es, part, n1, n2, rfl, hfollow, hpart, hpairs, hkeys⟩ := map_of_value hn h
  refine ⟨tag, es, n1, n2, rfl, hfollow, ?_⟩
  have hvalue : d.value r depth (.map none es) = pairs part es >>= fun vs =>
      if !r.repeatedKeys && Node.hasRepeatedKey vs then fail else own r none (.map vs) := by
    rw [value_eq, hpart]
    rfl
  rw [hvalue]
  show Yields d _ _ (n2 + 0)
  refine hpairs.bind ?_
  rw [hkeys]
  exact .pure _

end Yields

/-! ## Records -/

/-- The trees of a record's fields have the values of the fields. -/
inductive Fields (d : Document) (part : Tree → Reading Node) :
    List (String × Tree) → List (String × Node) → Nat → Prop
  | nil : Fields d part [] [] 0
  | cons {name : String} {t : Tree} {v : Node} {ts : List (String × Tree)}
      {fs : List (String × Node)} {n m : Nat} :
      Yields d (part t) v n → Fields d part ts fs m →
      Fields d part ((name, t) :: ts) ((name, v) :: fs) (n + m)

variable {part : Tree → Reading Node} {ts : List (String × Tree)} {fs gs : List (String × Node)}

namespace Fields

theorem exists_of_cons {name : String} {v : Node}
    (h : Fields d part ts ((name, v) :: fs) n) :
    ∃ t ts' n1 n2, ts = (name, t) :: ts' ∧ n = n1 + n2 ∧ Yields d (part t) v n1 ∧
      Fields d part ts' fs n2 := by
  cases h with
  | cons hv hfs => exact ⟨_, _, _, _, rfl, rfl, hv, hfs⟩

theorem eq_nil (h : Fields d part ts [] n) : ts = [] ∧ n = 0 := by
  cases h
  exact ⟨rfl, rfl⟩

theorem exists_of_append (h : Fields d part ts (fs ++ gs) n) :
    ∃ ts1 ts2 n1 n2, ts = ts1 ++ ts2 ∧ n = n1 + n2 ∧ Fields d part ts1 fs n1 ∧
      Fields d part ts2 gs n2 := by
  induction fs generalizing ts n with
  | nil => exact ⟨[], ts, 0, n, rfl, by omega, .nil, h⟩
  | cons f fs ih =>
    obtain ⟨t, ts', n1, n2, rfl, rfl, hv, hrest⟩ := exists_of_cons h
    obtain ⟨ts1, ts2, m1, m2, rfl, rfl, hfs, hgs⟩ := ih hrest
    exact ⟨_, ts2, n1 + m1, m2, rfl, by omega, .cons hv hfs, hgs⟩

end Fields

section Record

variable (hn : n ≤ 100 * d.size)
include hn

/-- The keys of a record are read as texts, its values are kept for later. -/
theorem fields_of_pairs {es : List (Tree × Tree)}
    (h : Yields d (pairs (d.value r depth) es) (fs.map fun f => (.text f.1, f.2)) n) :
    ∃ ts n1 n2, n = n1 + n2 ∧ Yields d (es.mapM fun e => do return (← d.text e.1, e.2)) ts n1 ∧
      Fields d (d.value r depth) ts fs n2 := by
  induction es generalizing fs n with
  | nil =>
    obtain ⟨hfs, hcount⟩ := Prod.mk.inj (Option.some.inj (h 0 (by omega)))
    cases fs with
    | nil => exact ⟨[], 0, 0, by omega, .pure [], .nil⟩
    | cons f fs => cases hfs
  | cons e es ih =>
    have hentry : ∀ e : Tree × Tree, Counted d (do
        return (← d.value r depth e.1, ← d.value r depth e.2)) := fun e =>
      .bind (.value r depth e.1) fun k => .bind (.value r depth e.2) fun v => .pure (k, v)
    unfold pairs at h
    rw [List.mapM_cons] at h
    obtain ⟨p, m1, m2, rfl, hp, hrest⟩ := Counted.exists_of_bind (hentry e)
      (fun p => .bind (.mapM hentry es) fun ps => .pure (p :: ps)) hn h
    obtain ⟨ps, m3, m4, rfl, hps, hcons⟩ := Counted.exists_of_bind (.mapM hentry es)
      (fun ps => .pure (p :: ps)) (by omega) hrest
    obtain ⟨hfs, hcount⟩ := Prod.mk.inj (Option.some.inj (hcons 0 (by omega)))
    cases fs with
    | nil => cases hfs
    | cons f fs =>
      obtain ⟨rfl, rfl⟩ := List.cons.inj hfs
      obtain ⟨k, l1, l2, rfl, hk, hv⟩ := Counted.exists_of_bind (.value r depth e.1)
        (fun k => .bind (.value r depth e.2) fun v => .pure (k, v)) (by omega) hp
      obtain ⟨v, l3, l4, rfl, hv, hpair⟩ := Counted.exists_of_bind (.value r depth e.2)
        (fun v => .pure (k, v)) (by omega) hv
      obtain ⟨heq, hzero⟩ := Prod.mk.inj (Option.some.inj (hpair 0 (by omega)))
      cases heq
      obtain ⟨ts, n1, n2, rfl, hkeys, hfields⟩ := ih (by omega) hps
      have hkey := (text_of_value (by omega) hk).1
      have hall : Yields d ((e :: es).mapM fun e => do return (← d.text e.1, e.2))
          ((f.1, e.2) :: ts) (l1 + n1) := by
        rw [List.mapM_cons]
        exact (hkey.map fun s => (s, e.2)).bind (hkeys.map ((f.1, e.2) :: ·))
      exact ⟨(f.1, e.2) :: ts, l1 + n1, l3 + n2, by omega, hall, .cons hv hfields⟩

/-- The document of a record, or a part of it, has the fields of the record. -/
theorem record_of_value (h : Yields d (d.value r (depth + 1) t) (.record fs) n) :
    ∃ ts n1 n2, n = n1 + n2 ∧ Yields d (d.entries t) ts n1 ∧
      Fields d (d.value r depth) ts fs n2 := by
  obtain ⟨tag, es, part, m1, m2, rfl, hfollow, hpart, hpairs, -⟩ := map_of_value hn h
  cases hpart
  obtain ⟨ts, n1, n2, rfl, hkeys, hfields⟩ := fields_of_pairs (by omega) hpairs
  exact ⟨ts, m1 + n1, n2, by omega, hfollow.bind hkeys, hfields⟩

theorem Fields.texts {es : List (String × String)}
    (h : Fields d (d.value r depth) ts (es.map fun e => (e.1, .text e.2)) n) :
    Yields d (ts.mapM fun e => do return (e.1, ← d.text e.2)) es n := by
  induction es generalizing ts n with
  | nil =>
    cases h
    exact .pure []
  | cons e es ih =>
    obtain ⟨t, ts', n1, n2, rfl, rfl, hv, hrest⟩ := h.exists_of_cons
    rw [List.mapM_cons]
    have htext := (text_of_value (by omega) hv).1
    exact (htext.map fun s => (e.1, s)).bind ((ih (by omega) hrest).map ((e.1, e.2) :: ·))

theorem dict_of_value {texts : Dict String}
    (h : Yields d (d.value r (depth + 1) t) (Node.ofDict texts) n) :
    Yields d (d.dict d.text t) texts n := by
  obtain ⟨ts, n1, n2, rfl, hentries, hfields⟩ := record_of_value hn h
  have htexts : Yields d (d.dict d.text t) (.ofList texts.entries) (n1 + n2) :=
    hentries.bind ((hfields.texts (by omega)).map Dict.ofList)
  rwa [Dict.ofList_entries] at htexts

/-- A field that may be left out is read as it was written, and reading goes on. -/
theorem Fields.optionalField {name : String} {s : Option String}
    (h : Fields d (d.value r depth) ts (Node.optionalField name s) n) :
    ∃ o : Option Tree, ts = o.toList.map (name, ·) ∧
      ∀ {β : Type} {f : Option String → Reading β} {b : β} {m : Nat}, Yields d (f s) b m →
        Yields d (match o with
          | some t => d.textOrNull t >>= f
          | none => pure none >>= f) b (n + m) := by
  cases s with
  | none =>
    cases h
    exact ⟨none, rfl, (Yields.pure none).bind⟩
  | some s =>
    obtain ⟨t, ts', n1, n2, rfl, rfl, hv, hrest⟩ := Fields.exists_of_cons h
    cases hrest
    exact ⟨some t, rfl, (text_of_value (by omega) hv).2.bind⟩

theorem Fields.dictField {name : String} {texts : Dict String}
    (h : Fields d (d.value r (depth + 1)) ts (Node.dictField name texts) n) :
    ∃ o : Option Tree, ts = o.toList.map (name, ·) ∧
      ∀ {β : Type} {f : Dict String → Reading β} {b : β} {m : Nat}, Yields d (f texts) b m →
        Yields d (match o with
          | some t => d.dict d.text t >>= f
          | none => pure ∅ >>= f) b (n + m) := by
  unfold Node.dictField at h
  split at h
  · rename_i hempty
    cases h
    have hnone : texts = ∅ := by
      rw [← Dict.ofList_entries texts, List.isEmpty_iff.1 hempty]
      rfl
    rw [hnone]
    exact ⟨none, rfl, (Yields.pure ∅).bind⟩
  · obtain ⟨t, ts', n1, n2, rfl, rfl, hv, hrest⟩ := Fields.exists_of_cons h
    cases hrest
    exact ⟨some t, rfl, (dict_of_value (by omega) hv).bind⟩

end Record

/-! ## Named fields -/

theorem filter_eq_of_nodup {α : Type} {es : List (String × α)} (h : (es.map (·.1)).Nodup)
    (name : String) : es.filter (·.1 == name) = (es.lookup name).toList.map (name, ·) := by
  induction es with
  | nil => rfl
  | cons e es ih =>
    rw [List.map_cons, List.nodup_cons] at h
    rw [Dict.lookup_cons_eq]
    by_cases hname : name = e.1
    · subst hname
      have hnone : es.filter (·.1 == e.1) = [] := by
        rw [List.filter_eq_nil_iff]
        intro x hx hbeq
        exact h.1 (List.mem_map.2 ⟨x, hx, eq_of_beq hbeq⟩)
      rw [List.filter_cons, if_pos (beq_self_eq_true e.1), if_pos rfl, hnone]
      rfl
    · rw [List.filter_cons, if_neg (by simpa using Ne.symm hname), if_neg hname, ih h.2]

theorem Yields.mapM_pure {α β : Type} {f : α → Reading β} {g : α → β}
    (h : ∀ a, Yields d (f a) (g a) 0) (as : List α) : Yields d (as.mapM f) (as.map g) 0 := by
  induction as with
  | nil => exact .pure []
  | cons a as ih =>
    rw [List.mapM_cons]
    show Yields d _ (g a :: as.map g) (0 + 0)
    exact (h a).bind (ih.map (g a :: ·))

/-- Asked for by their names, fields are found in the trees. -/
theorem Yields.fields (hroot : d.root = some t) (h : Yields d (d.entries t) ts n)
    (hnames : (ts.map (·.1)).Nodup) (names : List String) :
    Yields d (d.fields names) (names.map fun name => ts.lookup name) n := by
  unfold Document.fields
  rw [hroot]
  refine h.bind (m := 0) (.mapM_pure (fun name => ?_) names)
  rw [filter_eq_of_nodup hnames]
  cases ts.lookup name with
  | none => exact .pure none
  | some t => exact .pure (some t)

/-- A document that has a record for its value has the fields of the record. -/
theorem exists_fields_of_readsBack {fs : List (String × Node)} (h : (Node.record fs).ReadsBack) :
    ∃ d t ts n1 n2, ofText? (Node.record fs).print = some d ∧ d.root = some t ∧
      n1 + n2 ≤ 100 * d.size ∧ Yields d (d.entries t) ts n1 ∧
      Fields d (d.value kept (maxDepth - 1)) ts fs n2 := by
  obtain ⟨d, htext, hroot⟩ := h
  unfold root? at hroot
  split at hroot
  · cases hroot
  · rename_i t ht
    obtain ⟨n, hn, hvalue⟩ := Counted.exists_of_run' (.value kept maxDepth t) hroot
    obtain ⟨ts, n1, n2, rfl, hentries, hfields⟩ := record_of_value hn hvalue
    exact ⟨d, t, ts, n1, n2, htext, ht, hn, hentries, hfields⟩

end Document

end PipeLoom.Yaml
