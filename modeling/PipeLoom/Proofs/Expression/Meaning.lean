import PipeLoom.Proofs.Expression.RoundTrip
import PipeLoom.Text.Caseless

/-!
# The meaning of expressions

What an expression comes to, given the values of contexts and calls. As in workflow expressions,
texts are equal without regard to case, and `&&` and `||` yield one of their operands. A comparison
of a text with a truth value is left out: it has no meaning here.
-/

namespace PipeLoom.Expression

inductive Value where
  | bool (b : Bool)
  | text (s : String)
  deriving DecidableEq, Repr

namespace Value

def truthy : Value → Bool
  | bool b => b
  | text s => !s.isEmpty

def equal? : Value → Value → Option Bool
  | bool a, bool b => some (a == b)
  | text s, text t => some (Text.eqIgnoreAsciiCase s t)
  | _, _ => none

end Value

/-- The values of contexts and of calls, where they have one. -/
structure Environment where
  context : String → Option Value
  call : String → Option Value

namespace Environment

variable (v : Environment)

def eval : Expression → Option Value
  | .literal b => some (.bool b)
  | .text s => some (.text s)
  | .context p => v.context p
  | .call f => v.call f
  | .not e => (eval e).map fun x => .bool !x.truthy
  | .equal a b => do
    let x ← eval a
    let y ← eval b
    (x.equal? y).map .bool
  | .differ a b => do
    let x ← eval a
    let y ← eval b
    (x.equal? y).map fun r => .bool !r
  | .both a b => do
    let x ← eval a
    if x.truthy then eval b else some x
  | .either a b => do
    let x ← eval a
    if x.truthy then some x else eval b
  | .group e => eval e

/-- Whether the condition with this text holds; `none` where the text has no meaning. -/
def verdict? (text : String) : Option Bool :=
  (ofEmbedded? text).bind fun e => (v.eval e).map Value.truthy

theorem verdict?_print {e : Expression} (he : Fits 1 e) :
    v.verdict? (embed e.print) = (v.eval e).map Value.truthy := by
  rw [verdict?, ofEmbedded?_print he]
  rfl

variable {v}

theorem eval_not {e : Expression} {b : Bool} (h : v.eval e = some (.bool b)) :
    v.eval (.not e) = some (.bool !b) := by
  rw [eval, h]
  rfl

theorem eval_both {e f : Expression} {b c : Bool} (he : v.eval e = some (.bool b))
    (hf : v.eval f = some (.bool c)) : v.eval (.both e f) = some (.bool (b && c)) := by
  rw [eval, he, hf]
  cases b <;> rfl

theorem eval_either {e f : Expression} {b c : Bool} (he : v.eval e = some (.bool b))
    (hf : v.eval f = some (.bool c)) : v.eval (.either e f) = some (.bool (b || c)) := by
  rw [eval, he, hf]
  cases b <;> rfl

theorem eval_foldl_either {α : Type} {f : α → Expression} {t : α → Bool}
    (h : ∀ a, v.eval (f a) = some (.bool (t a))) (as : List α) {e : Expression} {b : Bool}
    (he : v.eval e = some (.bool b)) :
    v.eval ((as.map f).foldl .either e) = some (.bool (b || as.any t)) := by
  induction as generalizing e b with
  | nil => simpa using he
  | cons a as ih =>
    rw [List.map_cons, List.foldl_cons, ih (eval_either he (h a)), List.any_cons, Bool.or_assoc]

theorem eval_anyOf {α : Type} {f : α → Expression} {t : α → Bool}
    (h : ∀ a, v.eval (f a) = some (.bool (t a))) (as : List α) :
    v.eval (anyOf (as.map f)) = some (.bool (as.any t)) := by
  cases as with
  | nil => rfl
  | cons a as =>
    rw [List.any_cons]
    exact eval_foldl_either h as (h a)

end Environment

end PipeLoom.Expression
