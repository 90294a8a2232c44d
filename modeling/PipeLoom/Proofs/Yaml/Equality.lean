import PipeLoom.Yaml.Node

/-!
# Equality of values

Whether two values are equal can be decided, so that concrete documents can be evaluated.
-/

namespace PipeLoom.Yaml.Node

mutual

/-- Whether two values are the same, their entries in the same order. -/
def equals : Node → Node → Bool
  | null, null => true
  | bool a, bool b => a == b
  | int a, int b => a == b
  | float a, float b => a == b
  | text a, text b => a == b
  | list xs, list ys => itemsEqual xs ys
  | map es, map fs => entriesEqual es fs
  | tagged s a, tagged t b => s == t && equals a b
  | _, _ => false

def itemsEqual : List Node → List Node → Bool
  | [], [] => true
  | x :: xs, y :: ys => equals x y && itemsEqual xs ys
  | _, _ => false

def entriesEqual : List (Node × Node) → List (Node × Node) → Bool
  | [], [] => true
  | (k, v) :: es, (l, w) :: fs => equals k l && equals v w && entriesEqual es fs
  | _, _ => false

end

mutual

theorem equals_iff (a b : Node) : equals a b = true ↔ a = b := by
  cases a with
  | list xs => cases b <;> simp [equals, itemsEqual_iff]
  | map es => cases b <;> simp [equals, entriesEqual_iff]
  | tagged s a => cases b <;> simp [equals, equals_iff]
  | _ => cases b <;> simp [equals]

theorem itemsEqual_iff (xs ys : List Node) : itemsEqual xs ys = true ↔ xs = ys := by
  cases xs with
  | nil => cases ys <;> simp [itemsEqual]
  | cons x xs => cases ys <;> simp [itemsEqual, equals_iff, itemsEqual_iff]

theorem entriesEqual_iff (es fs : List (Node × Node)) : entriesEqual es fs = true ↔ es = fs := by
  cases es with
  | nil => cases fs <;> simp [entriesEqual]
  | cons e es =>
    obtain ⟨k, v⟩ := e
    cases fs with
    | nil => simp [entriesEqual]
    | cons f fs => simp [entriesEqual, equals_iff, entriesEqual_iff, Prod.ext_iff]

end

instance : DecidableEq Node := fun a b => decidable_of_iff _ (equals_iff a b)

end PipeLoom.Yaml.Node
