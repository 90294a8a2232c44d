import PipeLoom.Proofs.Catalogue.Overlay
import PipeLoom.Proofs.Catalogue.Soundness

/-!
# Merging sound catalogues

What a fragment asks of its catalogue is that the names which it refers to are there, and a merge
takes no name away. So what is sound in one of two catalogues is sound once they are merged,
whichever fragments stand under those names by then, and merging two sound catalogues gives a sound
one (`verify_merge`).
-/

namespace PipeLoom

namespace Catalogue

variable {c d o : Catalogue} {f : Fragment}

/-- Every name of the other catalogue is there, perhaps for another fragment. -/
def Covers (d c : Catalogue) : Prop := ∀ r f, c.find? r = some f → ∃ g, d.find? r = some g

/-- A fragment is in a catalogue if and only if it is found under its own name. -/
theorem mem_list_iff_find? : f ∈ c.list ↔ c.find? f.ref = some f :=
  ⟨fun h => get?_eq_some_iff.2 ⟨mem_values_of_mem_list h, rfl⟩, mem_list_of_find?⟩

theorem find?_merge (r : FragmentRef) : (c.merge o).find? r = (o.find? r).or (c.find? r) :=
  get?_merge

theorem covers_merge_right : (c.merge o).Covers o := by
  intro r f hf
  exact ⟨f, by rw [find?_merge, hf, Option.some_or]⟩

theorem covers_merge_left : (c.merge o).Covers c := by
  intro r f hf
  rw [find?_merge, hf]
  cases o.find? r with
  | none => exact ⟨f, rfl⟩
  | some g => exact ⟨g, rfl⟩

/-- A merged catalogue holds the fragments of the overlay and those that it does not replace. -/
theorem mem_list_merge :
    f ∈ (c.merge o).list ↔ f ∈ o.list ∨ f ∈ c.list ∧ o.find? f.ref = none := by
  rw [mem_list_iff_find?, mem_list_iff_find?, mem_list_iff_find?, find?_merge,
    Option.or_eq_some_iff, and_comm (a := c.find? f.ref = some f)]

end Catalogue

/-- The checks of a fragment travel with it to a catalogue that has the names it refers to. -/
theorem Fragment.Sound.of_covers {c d : Catalogue} {f : Fragment} (h : f.Sound c)
    (hd : d.Covers c) : f.Sound d where
  setup := h.setup
  setup_names := h.setup_names
  contributions := h.contributions
  stages := h.stages
  requires r hr := by
    obtain ⟨hne, hall⟩ := h.requires r hr
    refine ⟨hne, fun v hv => ?_⟩
    obtain ⟨g, hg⟩ := hall v hv
    exact hd _ g hg
  excludes e he := by
    obtain ⟨hself, g, hg⟩ := h.excludes e he
    exact ⟨hself, hd _ g hg⟩

namespace Catalogue

variable {c o : Catalogue}

/-- Merging a sound catalogue into a sound one gives a sound catalogue, also where fragments are
replaced that others require or exclude: it holds the fragments of the overlay, and those of the
other catalogue under all other names. So fragment files that make up a sound catalogue are always
loaded onto a sound one. -/
theorem verify_merge (hc : c.verify = .ok ()) (ho : o.verify = .ok ()) :
    (c.merge o).verify = .ok () ∧
      (∀ f, f ∈ (c.merge o).list ↔ f ∈ o.list ∨ f ∈ c.list ∧ o.find? f.ref = none) ∧
      ∀ t dir, Overlay.load t dir = .ok o → Overlay.loadOnto t dir c = .ok (c.merge o) := by
  have hverify : (c.merge o).verify = .ok () := by
    rw [verify_eq_ok_iff] at *
    intro f hf
    rcases mem_list_merge.1 hf with hf | ⟨hf, -⟩
    · exact (ho f hf).of_covers covers_merge_right
    · exact (hc f hf).of_covers covers_merge_left
  exact ⟨hverify, fun _ => mem_list_merge,
    fun t dir hload => Overlay.loadOnto_eq_ok_iff.2 ⟨o, hload, rfl, hverify⟩⟩

/-- The hook needs the provider and excludes the other hook, and both are replaced. -/
def guarded : Catalogue :=
  registerAll ∅
    [.new .provider "gcp" "Google Cloud", .new .hooks "rollback" "Rollback",
      ((Fragment.new .hooks "audit" "Audit").addRequirement .provider ["gcp"]).addExclusion .hooks
        "rollback" "one at a time"]

/-- The provider needs a service that comes along, and the hook excludes the provider. -/
def replacements : Catalogue :=
  registerAll ∅
    [(Fragment.new .provider "gcp" "Google").addRequirement .service ["cloudrun"],
      .new .service "cloudrun" "Cloud Run",
      (Fragment.new .hooks "rollback" "Roll back").addExclusion .provider "gcp" "done there"]

theorem verify_merge_replacements :
    guarded.verify = .ok () ∧ replacements.verify = .ok () ∧
      (guarded.merge replacements).verify = .ok () ∧
      (guarded.merge replacements).list.map (·.name) =
        ["Google", "Cloud Run", "Roll back", "Audit"] := by
  have hbase : guarded.verify = .ok () := by decide +kernel
  have hoverlay : replacements.verify = .ok () := by decide +kernel
  exact ⟨hbase, hoverlay, (verify_merge hbase hoverlay).1, by decide +kernel⟩

end Catalogue

end PipeLoom
