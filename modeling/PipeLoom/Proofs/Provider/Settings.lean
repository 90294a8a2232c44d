import PipeLoom.Proofs.Provider.Document

/-!
# Where settings go

A key is set by the service, else by the provider. The document of a selection takes region, target
and cluster out of the settings, of which only region and target must be there, and keeps the others
(`ofSelection_outcome`). A region that is not set is that of the cloud provider, if there is one of
that name.
-/

namespace PipeLoom

/-- Up to 63 lower-case letters, digits and hyphens, of which the first is a letter and the last no
hyphen. -/
structure AllowedAppName (name : String) : Prop where
  length : name.toList.length ≤ 63
  chars : ∀ c ∈ name.toList, ('a' ≤ c ∧ c ≤ 'z') ∨ c.isDigit = true ∨ c = '-'
  first : ∃ c, name.toList.head? = some c ∧ 'a' ≤ c ∧ c ≤ 'z'
  last : name.toList.getLast? ≠ some '-'

theorem getLast?_cons_eq_some_iff {c d : Char} {r : List Char} (h : c ≠ d) :
    (c :: r).getLast? = some d ↔ r.getLast? = some d := by
  cases r <;> simp [h]

theorem isAppName_iff {name : String} : isAppName name = true ↔ AllowedAppName name := by
  unfold isAppName
  simp only
  split
  · rename_i hnil
    refine ⟨nofun, fun h => ?_⟩
    obtain ⟨c, hc, -⟩ := h.first
    rw [hnil] at hc
    cases hc
  · rename_i c r hcons
    simp only [Bool.and_eq_true, decide_eq_true_eq, List.all_eq_true, Bool.or_eq_true, beq_iff_eq,
      bne_iff_ne]
    constructor
    · rintro ⟨⟨⟨hc, hr⟩, hlength⟩, hlast⟩
      have hhyphen : c ≠ '-' := by
        rintro rfl
        exact absurd hc.1 (by decide)
      constructor
      · rw [hcons, List.length_cons]
        omega
      · rw [hcons, List.forall_mem_cons]
        exact ⟨.inl hc, fun d hd => (or_assoc.1 (hr d hd))⟩
      · exact ⟨c, by rw [hcons]; rfl, hc⟩
      · rw [hcons, ne_eq, getLast?_cons_eq_some_iff hhyphen]
        exact hlast
    · intro h
      obtain ⟨d, hd, hlower⟩ := h.first
      have hlength := h.length
      have hchars := h.chars
      have hlast := h.last
      rw [hcons] at hd hlength hchars hlast
      obtain rfl : c = d := Option.some.inj hd
      have hhyphen : c ≠ '-' := by
        rintro rfl
        exact absurd hlower.1 (by decide)
      rw [ne_eq, getLast?_cons_eq_some_iff hhyphen] at hlast
      rw [List.length_cons] at hlength
      refine ⟨⟨⟨hlower, fun d hd => ?_⟩, by omega⟩, hlast⟩
      exact or_assoc.2 (hchars d (List.mem_cons_of_mem _ hd))

namespace ProviderConfig

variable {c : Catalogue} {s : Selection} {appName key region target : String}

/-- What the service sets for a key, else what the provider sets. A fragment that is not in the
catalogue sets nothing. -/
def setting? (c : Catalogue) (s : Selection) (key : String) : Option String :=
  ((c.find? ⟨.service, s.service⟩).bind (·.settings.get? key)).or
    ((c.find? ⟨.provider, s.provider⟩).bind (·.settings.get? key))

/-- The region that is set, else that of the cloud provider. -/
def region? (c : Catalogue) (s : Selection) : Option String :=
  (setting? c s "region").or ((CloudProvider.ofText? s.provider).map (·.defaultRegion))

theorem get?_settingsOf (r : FragmentRef) :
    (settingsOf c r).get? key = (c.find? r).bind (·.settings.get? key) := by
  unfold settingsOf
  cases c.find? r <;> rfl

theorem get?_settingsFor : (settingsFor c s).get? key = setting? c s key := by
  unfold settingsFor setting?
  rw [Dict.get?_override, get?_settingsOf, get?_settingsOf]

/-- The settings that have no fields of their own. -/
def otherSettings (c : Catalogue) (s : Selection) : Dict String :=
  (((settingsFor c s).erase "region").erase "target").erase "cluster"

theorem get?_otherSettings : (otherSettings c s).get? key =
    if key ∈ ["region", "target", "cluster"] then none else setting? c s key := by
  unfold otherSettings
  simp only [Dict.get?_erase, get?_settingsFor, List.mem_cons, List.not_mem_nil, or_false]
  by_cases hregion : key = "region" <;> by_cases htarget : key = "target" <;>
    by_cases hcluster : key = "cluster" <;> simp [hregion, htarget, hcluster]

/-! ## Cases -/

theorem ofSelection_of_not_allowed (h : isAppName appName = false) :
    ofSelection c s appName = .error (.invalidAppName appName) := by
  unfold ofSelection checkAppName
  rw [h]
  rfl

theorem ofSelection_of_allowed (h : isAppName appName = true) :
    ofSelection c s appName =
      match region? c s with
      | none => .error (.missingSetting ⟨.provider, s.provider⟩ "region")
      | some region =>
        match setting? c s "target" with
        | none => .error (.missingSetting ⟨.service, s.service⟩ "target")
        | some target =>
          .ok ⟨s.provider, s.service, target, region, setting? c s "cluster", appName,
            otherSettings c s⟩ := by
  have hsettings : (settingsOf c ⟨.provider, s.provider⟩).override
      (settingsOf c ⟨.service, s.service⟩) = settingsFor c s := rfl
  unfold ofSelection checkAppName region? otherSettings
  simp only [h, if_true, bind, Except.bind, hsettings, get?_settingsFor]
  cases setting? c s "region" with
  | some region => cases setting? c s "target" <;> rfl
  | none =>
    cases CloudProvider.ofText? s.provider with
    | none => rfl
    | some cloud => cases setting? c s "target" <;> rfl

/-- A name that is not allowed is refused before all else. Then the region must be set or be that of
a cloud provider, and then the target must be set. If so the document is made: it has region, target
and cluster as fields and keeps every other key, with what the service sets for it, else the
provider. Nothing depends on the catalogue that the selection was resolved against. -/
theorem ofSelection_outcome (c : Catalogue) (s : Selection) (appName : String) :
    (ofSelection c s appName = .error (.invalidAppName appName) ↔ ¬AllowedAppName appName) ∧
    (AllowedAppName appName →
      (ofSelection c s appName = .error (.missingSetting ⟨.provider, s.provider⟩ "region") ↔
        setting? c s "region" = none ∧ CloudProvider.ofText? s.provider = none) ∧
      ∀ region, region? c s = some region →
        (ofSelection c s appName = .error (.missingSetting ⟨.service, s.service⟩ "target") ↔
          setting? c s "target" = none) ∧
        ∀ target, setting? c s "target" = some target →
          ∃ p, ofSelection c s appName = .ok p ∧ p.provider = s.provider ∧
            p.serviceType = s.service ∧ p.appName = appName ∧ p.region = region ∧
            p.target = target ∧ p.cluster = setting? c s "cluster" ∧
            ∀ key, p.settings.get? key =
              if key ∈ ["region", "target", "cluster"] then none else setting? c s key) := by
  rw [← isAppName_iff]
  cases hname : isAppName appName with
  | false =>
    rw [ofSelection_of_not_allowed hname]
    exact ⟨by simp, nofun⟩
  | true =>
    rw [ofSelection_of_allowed hname]
    refine ⟨?_, fun _ => ⟨?_, fun region hregion => ⟨?_, fun target htarget => ?_⟩⟩⟩
    · refine iff_of_false ?_ (not_not_intro rfl)
      split
      · nofun
      · split <;> nofun
    · rw [← Option.map_eq_none_iff (f := CloudProvider.defaultRegion), ← Option.or_eq_none_iff]
      show _ ↔ region? c s = none
      cases region? c s with
      | none => simp
      | some region => cases setting? c s "target" <;> simp
    · rw [hregion]
      cases setting? c s "target" <;> simp
    · rw [hregion, htarget]
      exact ⟨_, rfl, rfl, rfl, rfl, rfl, rfl, rfl, fun _ => get?_otherSettings⟩

/-- A provider whose name is that of a cloud provider but for the case, a service, and a provider
without a region. -/
def places : Catalogue :=
  Catalogue.empty.registerAll
    [((Fragment.new .provider "GCP" "Google Cloud").addSetting "target" "vm").addSetting "zone" "b",
      ((Fragment.new .service "box" "Box").addSetting "target" "box").addSetting "cluster" "main",
      (Fragment.new .provider "lagoon" "Lagoon").addSetting "zone" "north"]

def goOn (provider service : String) : Selection := ⟨"go", "gomod", none, provider, service, []⟩

/-- The provider `gcp` and the service `crate` are not in the catalogue. -/
theorem ofSelection_outcome_places :
    ofSelection places (goOn "lagoon" "crate") "My App" = .error (.invalidAppName "My App") ∧
      ofSelection places (goOn "lagoon" "crate") "shop" =
        .error (.missingSetting ⟨.provider, "lagoon"⟩ "region") ∧
      ofSelection places (goOn "gcp" "crate") "shop" =
        .error (.missingSetting ⟨.service, "crate"⟩ "target") ∧
      ∃ p, ofSelection places (goOn "GCP" "box") "shop" = .ok p ∧ p.region = "us-central1" ∧
        p.target = "box" ∧ p.cluster = some "main" ∧ p.settings.get? "zone" = some "b" ∧
        p.settings.get? "target" = none := by
  have hshop : AllowedAppName "shop" := isAppName_iff.1 (by decide +kernel)
  have hother : ¬AllowedAppName "My App" := fun h => absurd (isAppName_iff.2 h) (by decide +kernel)
  refine ⟨(ofSelection_outcome _ _ _).1.2 hother, ?_, ?_, ?_⟩
  · obtain ⟨hregion, -⟩ := (ofSelection_outcome places (goOn "lagoon" "crate") "shop").2 hshop
    exact hregion.2 (by decide +kernel)
  · obtain ⟨-, hplaced⟩ := (ofSelection_outcome places (goOn "gcp" "crate") "shop").2 hshop
    exact (hplaced "us-central1" (by decide +kernel)).1.2 (by decide +kernel)
  · obtain ⟨-, hplaced⟩ := (ofSelection_outcome places (goOn "GCP" "box") "shop").2 hshop
    obtain ⟨-, hmade⟩ := hplaced "us-central1" (by decide +kernel)
    obtain ⟨p, hp, -, -, -, hregion, htarget, hcluster, hsettings⟩ :=
      hmade "box" (by decide +kernel)
    refine ⟨p, hp, hregion, htarget, ?_, ?_, ?_⟩
    · rw [hcluster]
      decide +kernel
    · rw [hsettings]
      decide +kernel
    · rw [hsettings]
      decide +kernel

end ProviderConfig

end PipeLoom
