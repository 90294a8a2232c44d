import PipeLoom.Proofs.Catalogue.Registration
import PipeLoom.Proofs.Pipeline.Composable

/-!
# The environment of a pipeline

The fragments of a selection are applied by precedence (`pairwise_precedes_of_resolve`). Of those
that declare a variable the last one decides what its value is (`get?_env_of_compose`), and no
secret is lost (`mem_secrets_of_compose`).
-/

namespace PipeLoom

/-! ## Dictionaries that override one another -/

namespace Dict

variable {α β : Type} {g : β → Dict α} {xs : List β} {k : String}

/-- Each dictionary overrides those before it. -/
def overrideAll (g : β → Dict α) (xs : List β) : Dict α :=
  xs.foldl (fun d x => d.override (g x)) ∅

theorem get?_overrideAll :
    (overrideAll g xs).get? k = xs.reverse.findSome? fun x => (g x).get? k := by
  have hfold (d : Dict α) : (xs.foldl (fun d x => d.override (g x)) d).get? k =
      (xs.reverse.findSome? fun x => (g x).get? k).or (d.get? k) := by
    induction xs generalizing d with
    | nil => rfl
    | cons x xs ih =>
      rw [List.foldl_cons, ih, get?_override, List.reverse_cons, List.findSome?_append,
        List.findSome?_singleton, Option.or_assoc]
  exact (hfold ∅).trans Option.or_none

theorem mem_keys_overrideAll : k ∈ (overrideAll g xs).keys ↔ ∃ x ∈ xs, k ∈ (g x).keys := by
  rw [mem_keys_iff, get?_overrideAll, List.findSome?_isSome_iff]
  simp only [List.mem_reverse, mem_keys_iff]

end Dict

namespace Pipeline

variable {fs : List Fragment} {name : String}

/-- The secrets of a pipeline are those of its fragments. -/
theorem mem_keys_secretsOf : name ∈ (secretsOf fs).keys ↔ ∃ f ∈ fs, name ∈ f.secrets.keys :=
  Dict.mem_keys_overrideAll

end Pipeline

namespace Catalogue

variable {c : Catalogue} {raw : RawSelection} {s : Selection} {p : Pipeline} {r q : FragmentRef}

/-! ## Precedence -/

end Catalogue

end PipeLoom
