import PipeLoom.Yaml.Node.Read

/-!
# What reading comes to

Reading counts the references that it follows. `Yields d x a n`: wherever there is room for `n` more
references, `x` gives `a` and follows these. A reading that succeeds does so from any count
(`Counted`), so a sequence that yields something can be taken apart into what its steps yield.
-/

namespace PipeLoom.Yaml.Document

variable {α β γ : Type} {d : Document} {x : Reading α} {f : α → Reading β} {a : α} {b : β}
  {n m k l : Nat}

/-- Wherever there is room for it, reading gives `a` and follows `n` references. -/
def Yields (d : Document) (x : Reading α) (a : α) (n : Nat) : Prop :=
  ∀ k, k + n ≤ 100 * d.size → x k = some (a, k + n)

namespace Yields

theorem pure (a : α) : Yields d (Pure.pure a) a 0 := fun _ _ => rfl

theorem bind (hx : Yields d x a n) (hf : Yields d (f a) b m) : Yields d (x >>= f) b (n + m) := by
  intro k hk
  show (x k).bind (fun r => f r.1 r.2) = _
  rw [hx k (by omega)]
  show f a (k + n) = _
  rw [hf (k + n) (by omega), Nat.add_assoc]

theorem map (hx : Yields d x a n) (g : α → γ) : Yields d (do return g (← x)) (g a) n :=
  hx.bind (f := fun a => Pure.pure (g a)) (.pure (g a))

theorem run' (hx : Yields d x a n) (hn : n ≤ 100 * d.size) : x.run' 0 = some a := by
  show (x 0).map Prod.fst = some a
  rw [hx 0 (by omega)]
  rfl

end Yields

theorem bind_eq_some_iff : (x >>= f) k = some (b, l) ↔
    ∃ a k', x k = some (a, k') ∧ f a k' = some (b, l) := by
  show (x k).bind (fun r => f r.1 r.2) = some (b, l) ↔ _
  rw [Option.bind_eq_some_iff]
  exact ⟨fun ⟨r, hr, hf⟩ => ⟨r.1, r.2, hr, hf⟩, fun ⟨a, k', hx, hf⟩ => ⟨(a, k'), hx, hf⟩⟩

theorem lift_eq_some_iff {o : Option α} :
    (liftM o : Reading α) k = some (a, l) ↔ o = some a ∧ l = k := by
  show (o.bind fun a => some (a, k)) = some (a, l) ↔ _
  rw [Option.bind_eq_some_iff]
  constructor
  · rintro ⟨a', ho, h⟩
    cases h
    exact ⟨ho, rfl⟩
  · rintro ⟨ho, rfl⟩
    exact ⟨a, ho, rfl⟩

/-! ## Counting -/

/-- What reading gives, it gives from any count that leaves room for the references it follows. -/
def Counted (d : Document) (x : Reading α) : Prop :=
  ∀ k a l, x k = some (a, l) → ∃ n, l = k + n ∧ l ≤ max k (100 * d.size) ∧ Yields d x a n

namespace Counted

theorem pure (a : α) : Counted d (Pure.pure a) := by
  intro k b l h
  cases h
  exact ⟨0, rfl, Nat.le_max_left _ _, .pure a⟩

theorem fail : Counted d (fail : Reading α) := by
  intro k b l h
  cases h

theorem lift (o : Option α) : Counted d (liftM o : Reading α) := by
  intro k a l h
  obtain ⟨ho, rfl⟩ := lift_eq_some_iff.1 h
  exact ⟨0, rfl, Nat.le_max_left _ _, fun k' _ => lift_eq_some_iff.2 ⟨ho, rfl⟩⟩

theorem bind (hx : Counted d x) (hf : ∀ a, Counted d (f a)) : Counted d (x >>= f) := by
  intro k b l h
  obtain ⟨a, k', hxk, hfk⟩ := bind_eq_some_iff.1 h
  obtain ⟨n, rfl, hn, hxy⟩ := hx k a k' hxk
  obtain ⟨m, rfl, hm, hfy⟩ := hf a _ b l hfk
  exact ⟨n + m, Nat.add_assoc k n m, by omega, hxy.bind hfy⟩

theorem mapM {f : α → Reading β} (hf : ∀ a, Counted d (f a)) (as : List α) :
    Counted d (as.mapM f) := by
  induction as with
  | nil => exact .pure []
  | cons a as ih =>
    rw [List.mapM_cons]
    exact .bind (hf a) fun b => .bind ih fun bs => .pure (b :: bs)

theorem follow (t : Tree) : Counted d (d.follow t) := by
  cases t with
  | reference number =>
    intro k a l h
    change (if 100 * d.size ≤ k then none else (d.target? number).map fun t => (t, k + 1)) = _ at h
    split at h
    · cases h
    · obtain ⟨t, ht, heq⟩ := Option.map_eq_some_iff.1 h
      cases heq
      refine ⟨1, rfl, by omega, fun k' hk' => ?_⟩
      show (if 100 * d.size ≤ k' then none else (d.target? number).map fun t => (t, k' + 1)) = _
      rw [if_neg (by omega), ht]
      rfl
  | scalar => exact .pure _
  | list => exact .pure _
  | map => exact .pure _

theorem own (r : Strictness) (tag : Option String) (v : Node) : Counted d (own r tag v) := by
  unfold Document.own
  split
  · split
    · exact .pure v
    · split
      · exact .pure _
      · exact .fail
  · exact .pure v

theorem valueOf {r : Strictness} {part? : Option (Tree → Reading Node)}
    (hpart : ∀ part, part? = some part → ∀ t, Counted d (part t)) (t : Tree) :
    Counted d (valueOf r part? t) := by
  unfold Document.valueOf
  split
  · split
    · split
      · exact .bind (.lift _) fun v => .own r _ v
      · exact .lift _
    · exact .lift _
  · split
    · exact .bind (.mapM (hpart _ rfl) _) fun v => .own r _ _
    · exact .fail
  · split
    · refine .bind (.mapM (fun e => ?_) _) fun es => ?_
      · exact .bind (hpart _ rfl e.1) fun k => .bind (hpart _ rfl e.2) fun v => .pure (k, v)
      · split
        · exact .fail
        · exact .own r _ _
    · exact .fail
  · exact .fail

theorem value (r : Strictness) (depth : Nat) (t : Tree) : Counted d (d.value r depth t) := by
  induction depth generalizing t with
  | zero =>
    refine .bind (.follow t) fun t' => .valueOf (fun part hpart => ?_) t'
    cases hpart
  | succ depth ih =>
    refine .bind (.follow t) fun t' => .valueOf (fun part hpart => ?_) t'
    cases hpart
    exact ih

/-- What a sequence yields comes from what its steps yield. -/
theorem exists_of_bind (hx : Counted d x) (hf : ∀ a, Counted d (f a)) (hn : n ≤ 100 * d.size)
    (h : Yields d (x >>= f) b n) :
    ∃ a n1 n2, n = n1 + n2 ∧ Yields d x a n1 ∧ Yields d (f a) b n2 := by
  obtain ⟨a, k, hxk, hfk⟩ := bind_eq_some_iff.1 (h 0 (by omega))
  obtain ⟨n1, rfl, -, hxy⟩ := hx 0 a k hxk
  obtain ⟨n2, hn2, -, hfy⟩ := hf a _ b _ hfk
  exact ⟨a, n1, n2, by omega, hxy, hfy⟩

/-- What is read from the start follows no more references than may be followed. -/
theorem exists_of_run' (hx : Counted d x) (h : x.run' 0 = some a) :
    ∃ n, n ≤ 100 * d.size ∧ Yields d x a n := by
  obtain ⟨⟨a', l⟩, hxl, rfl⟩ := Option.map_eq_some_iff.1 h
  obtain ⟨n, rfl, hn, hxy⟩ := hx 0 a' l hxl
  exact ⟨n, by omega, hxy⟩

end Counted

end PipeLoom.Yaml.Document
