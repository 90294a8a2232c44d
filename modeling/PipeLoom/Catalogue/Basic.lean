import PipeLoom.Fragment

/-!
# The catalogue

A catalogue holds the fragments of each axis in the order of their first registration, one fragment
a value. Registering a value again replaces its fragment and keeps the position.
-/

namespace PipeLoom

structure Catalogue where
  /-- The fragments of an axis, in declaration order. -/
  values : Axis → List Fragment
  axis_eq : ∀ a, ∀ f ∈ values a, f.axis = a
  nodup : ∀ a, ((values a).map (·.value)).Nodup

namespace Catalogue

theorem ext {c d : Catalogue} (h : ∀ a, c.values a = d.values a) : c = d := by
  cases c; cases d
  simp only [mk.injEq]
  exact funext h

def empty : Catalogue := ⟨fun _ => [], by simp, by simp⟩

instance : EmptyCollection Catalogue := ⟨empty⟩
instance : Inhabited Catalogue := ⟨empty⟩

/-! ## Registration -/

/-- Replaces the first fragment of the same value, or adds the fragment at the end. -/
def put (f : Fragment) : List Fragment → List Fragment
  | [] => [f]
  | g :: gs => if g.value = f.value then f :: gs else g :: put f gs

theorem mem_put {f g : Fragment} {fs : List Fragment} (h : g ∈ put f fs) : g = f ∨ g ∈ fs := by
  induction fs with
  | nil => simpa [put] using h
  | cons x xs ih =>
    simp only [put] at h
    split at h
    · exact (List.mem_cons.1 h).imp_right (List.mem_cons_of_mem _)
    · rcases List.mem_cons.1 h with h | h
      · exact .inr (by simp [h])
      · exact (ih h).imp_right (List.mem_cons_of_mem _)

/-- A value is added at the end unless it is there already. -/
theorem values_put (f : Fragment) (fs : List Fragment) :
    (put f fs).map (·.value) =
      if f.value ∈ fs.map (·.value) then fs.map (·.value) else fs.map (·.value) ++ [f.value] := by
  induction fs with
  | nil => simp [put]
  | cons x xs ih =>
    simp only [put]
    split
    · rename_i h; simp [h]
    · rename_i h
      rw [List.map_cons, ih]
      have h' : ¬f.value = x.value := fun e => h e.symm
      by_cases hm : f.value ∈ xs.map (·.value)
      · simp only [List.map_cons, List.mem_cons, hm, or_true, if_true]
      · simp only [List.map_cons, List.mem_cons, hm, h', or_false, if_false,
          List.cons_append]

def register (c : Catalogue) (f : Fragment) : Catalogue where
  values a := if a = f.axis then put f (c.values a) else c.values a
  axis_eq a g hg := by
    split at hg
    · rcases mem_put hg with rfl | hg
      · exact (by assumption : a = g.axis).symm
      · exact c.axis_eq a g hg
    · exact c.axis_eq a g hg
  nodup a := by
    split
    · rw [values_put]
      split
      · exact c.nodup a
      · rename_i hm
        exact List.nodup_append.2 ⟨c.nodup a, by simp, fun x hx y hy => by
          simp only [List.mem_singleton] at hy
          exact fun e => hm (hy ▸ e ▸ hx)⟩
    · exact c.nodup a

def registerAll (c : Catalogue) (fs : List Fragment) : Catalogue := fs.foldl register c

/-! ## Look-up -/

def get? (c : Catalogue) (a : Axis) (value : String) : Option Fragment :=
  (c.values a).find? (·.value == value)

def find? (c : Catalogue) (r : FragmentRef) : Option Fragment := c.get? r.axis r.value

def contains (c : Catalogue) (a : Axis) (value : String) : Bool := (c.get? a value).isSome

/-- Place of a value in the declaration order of its axis. -/
def position? (c : Catalogue) (a : Axis) (value : String) : Option Nat :=
  (c.values a).findIdx? (·.value == value)

/-- All fragments, axis by axis. -/
def list (c : Catalogue) : List Fragment := Axis.all.flatMap c.values

/-- How many fragments there are on all axes. -/
def size (c : Catalogue) : Nat := Axis.all.foldr (fun a n => (c.values a).length + n) 0

/-- Registers every fragment of the second catalogue on the first. -/
def merge (c overlay : Catalogue) : Catalogue := c.registerAll overlay.list

end Catalogue

end PipeLoom
