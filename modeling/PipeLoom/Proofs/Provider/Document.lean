import PipeLoom.Catalogue.Builtin
import PipeLoom.Catalogue.Integrity
import PipeLoom.Proofs.Except
import PipeLoom.Proofs.Selection.RoundTrip
import PipeLoom.Proofs.Yaml.Written
import PipeLoom.Provider.Config

/-!
# Reading provider documents

A provider document that is printed and read again is the one that was printed, if it is valid, and
otherwise is refused for what makes it invalid (`ofText_print`).
-/

namespace PipeLoom.ProviderConfig

open Yaml (Document Node)
open Yaml.Document (Fields Yields)

variable {p : ProviderConfig}

def fieldNames : List String :=
  ["provider", "service_type", "target", "region", "cluster", "app_name", "settings"]

/-- Without the check, what was printed is read. -/
theorem read_print (h : p.toNode.ReadsBack) :
    ((Document.ofText? p.print).bind fun d => (read d).run' 0) = some p := by
  obtain ⟨d, t, ts, n, m, htext, hroot, hn, hentries, hall⟩ :=
    Document.exists_fields_of_readsBack h
  obtain ⟨ts, ts7, m, m7, rfl, rfl, hall, hsettings⟩ := hall.exists_of_append
  obtain ⟨ts, ts6, m, m6, rfl, rfl, hall, happ⟩ := hall.exists_of_append
  obtain ⟨ts, ts5, m, m5, rfl, rfl, hmandatory, hcluster⟩ := hall.exists_of_append
  obtain ⟨t1, ts, m1, m, rfl, rfl, hprovider, hrest⟩ := hmandatory.exists_of_cons
  obtain ⟨t2, ts, m2, m, rfl, rfl, hservice, hrest⟩ := hrest.exists_of_cons
  obtain ⟨t3, ts, m3, m, rfl, rfl, htarget, hrest⟩ := hrest.exists_of_cons
  obtain ⟨t4, ts, m4, m, rfl, rfl, hregion, hrest⟩ := hrest.exists_of_cons
  obtain ⟨rfl, rfl⟩ := hrest.eq_nil
  obtain ⟨t6, ts, m6, m, rfl, rfl, happName, hrest⟩ := happ.exists_of_cons
  obtain ⟨rfl, rfl⟩ := hrest.eq_nil
  obtain ⟨settings, rfl, hreadSettings⟩ := hsettings.dictField (by omega)
  obtain ⟨cluster, rfl, hreadCluster⟩ := hcluster.optionalField (by omega)
  have hgiven := hentries.fields hroot (by cases cluster <;> cases settings <;> simp) fieldNames
  have hfound : fieldNames.map (fun name => List.lookup name ([("provider", t1),
      ("service_type", t2), ("target", t3), ("region", t4)] ++ cluster.toList.map ("cluster", ·) ++
      [("app_name", t6)] ++ settings.toList.map ("settings", ·))) =
      [some t1, some t2, some t3, some t4, cluster, some t6, settings] := by
    cases cluster <;> cases settings <;> rfl
  rw [hfound] at hgiven
  have hread : Yields d (read d) p
      (n + (m1 + (m2 + (m3 + (m4 + (m5 + (m6 + (m7 + 0)))))))) :=
    hgiven.bind <| (Document.text_of_value (by omega) hprovider).1.bind <|
      (Document.text_of_value (by omega) hservice).1.bind <|
      (Document.text_of_value (by omega) htarget).1.bind <|
      (Document.text_of_value (by omega) hregion).1.bind <| hreadCluster <|
      (Document.text_of_value (by omega) happName).1.bind <| hreadSettings <| .pure p
  show (Document.ofText? (Node.record _).print).bind _ = _
  rw [htext]
  exact hread.run' (by omega)

/-- A document that was printed is read if it is valid, and else refused for what is wrong. -/
theorem ofText_print (h : p.toNode.ReadsBack) : ofText p.print = p.validate.map fun _ => p := by
  unfold ofText
  rw [read_print h]
  show p.validate >>= (fun _ => pure p) = _
  cases p.validate <;> rfl

/-! ## Documents of a selection -/

variable {c : Catalogue} {raw : RawSelection} {s : Selection} {appName : String}

/-- The settings of a selection, those of the service first. -/
def settingsFor (c : Catalogue) (s : Selection) : Dict String :=
  (settingsOf c ⟨.provider, s.provider⟩).override (settingsOf c ⟨.service, s.service⟩)

/-- Target and region come from the settings, the region else from the cloud provider. -/
theorem of_ofSelection (h : ofSelection c s appName = .ok p) :
    checkAppName p.appName = .ok () ∧ p.provider = s.provider ∧ p.serviceType = s.service ∧
      (settingsFor c s).get? "target" = some p.target ∧
      ((settingsFor c s).get? "region" = some p.region ∨
        (settingsFor c s).get? "region" = none ∧ ∃ cloud : CloudProvider,
          p.region = cloud.defaultRegion) := by
  unfold ofSelection at h
  obtain ⟨⟨⟩, hname, h⟩ := Except.bind_eq_ok_iff.1 h
  simp only at h
  split at h
  · rename_i hregion
    obtain ⟨region', heq, h⟩ := Except.bind_eq_ok_iff.1 h
    cases heq
    split at h
    · rename_i target htarget
      cases h
      exact ⟨hname, rfl, rfl, htarget, .inl hregion⟩
    · cases h
  · rename_i cloud hregion hcloud
    obtain ⟨region', heq, h⟩ := Except.bind_eq_ok_iff.1 h
    cases heq
    split at h
    · rename_i target htarget
      cases h
      exact ⟨hname, rfl, rfl, htarget, .inr ⟨hregion, cloud, rfl⟩⟩
    · cases h
  · cases h

theorem trim_defaultRegion (cloud : CloudProvider) : Text.trim cloud.defaultRegion ≠ "" := by
  cases cloud <;> decide +kernel

theorem trim_ne_empty_of_isChoice {v : String} (h : RawSelection.IsChoice v) :
    Text.trim v ≠ "" := by
  rw [h.trimmed]
  rintro rfl
  exact absurd h.isValue (by decide +kernel)

/-- Neither the target nor the region that the settings give, if they do, is blank. -/
def Placed (settings : Dict String) : Prop :=
  ∀ key ∈ ["target", "region"], ∀ v, settings.get? key = some v → Text.trim v ≠ ""

theorem placed_iff (h : ofSelection c s appName = .ok p) :
    Placed (settingsFor c s) ↔ Text.trim p.target ≠ "" ∧ Text.trim p.region ≠ "" := by
  obtain ⟨-, -, -, htarget, hregion⟩ := of_ofSelection h
  unfold Placed
  rw [List.forall_mem_cons, List.forall_mem_singleton, htarget]
  refine and_congr (by simp) ?_
  rcases hregion with hregion | ⟨hregion, cloud, hcloud⟩
  · rw [hregion]
    simp
  · rw [hregion, hcloud]
    exact iff_of_true (fun _ h => nomatch h) (trim_defaultRegion cloud)

/-- Of a resolved selection's document only target and region can be blank. -/
theorem validate_eq (hs : c.resolve raw = .ok s) (h : ofSelection c s appName = .ok p) :
    p.validate =
      if Text.trim p.target = "" then .error (.emptyField "target")
      else if Text.trim p.region = "" then .error (.emptyField "region")
      else .ok () := by
  obtain ⟨hname, hprovider, hservice, -, -⟩ := of_ofSelection h
  have hchoice (axis : Axis) {v : String} (hv : v ∈ s.values axis) : Text.trim v ≠ "" :=
    trim_ne_empty_of_isChoice (Catalogue.isChoice_of_resolve hs hv)
  have hp := hchoice .provider (v := s.provider) (by simp [Selection.values])
  have hq := hchoice .service (v := s.service) (by simp [Selection.values])
  unfold validate mandatory
  simp only [hname, hprovider, hservice, bind, Except.bind]
  rw [List.find?_cons_of_neg (by simpa using hp), List.find?_cons_of_neg (by simpa using hq)]
  by_cases ht : Text.trim p.target = ""
  · rw [List.find?_cons_of_pos (by simpa using ht), if_pos ht]
  · rw [List.find?_cons_of_neg (by simpa using ht), if_neg ht]
    by_cases hr : Text.trim p.region = ""
    · rw [List.find?_cons_of_pos (by simpa using hr), if_pos hr]
    · rw [List.find?_cons_of_neg (by simpa using hr), if_neg hr]
      rfl

/-- The document of a resolved selection is valid, and reads back as itself if its value does, unless
the settings give a blank target or region. Nothing checks the settings before the document is
read. -/
theorem reads_back_iff_placed (hs : c.resolve raw = .ok s)
    (h : ofSelection c s appName = .ok p) :
    (p.validate = .ok () ↔ Placed (settingsFor c s)) ∧
    (p.toNode.ReadsBack →
      (ofText p.print = .ok p ↔ Placed (settingsFor c s)) ∧
      (¬Placed (settingsFor c s) → ∃ field ∈ ["target", "region"],
        p.validate = .error (.emptyField field) ∧ ofText p.print = .error (.emptyField field))) := by
  rw [placed_iff h]
  have hvalidate := validate_eq hs h
  by_cases ht : Text.trim p.target = ""
  · rw [if_pos ht] at hvalidate
    refine ⟨by simp [hvalidate, ht], fun hreads => ?_⟩
    rw [ofText_print hreads, hvalidate]
    exact ⟨by simp [Except.map, ht], fun _ => ⟨"target", by simp, rfl, rfl⟩⟩
  · rw [if_neg ht] at hvalidate
    by_cases hr : Text.trim p.region = ""
    · rw [if_pos hr] at hvalidate
      refine ⟨by simp [hvalidate, hr], fun hreads => ?_⟩
      rw [ofText_print hreads, hvalidate]
      exact ⟨by simp [Except.map, hr], fun _ => ⟨"region", by simp, rfl, rfl⟩⟩
    · rw [if_neg hr] at hvalidate
      refine ⟨by simp [hvalidate, ht, hr], fun hreads => ?_⟩
      rw [ofText_print hreads, hvalidate]
      exact ⟨by simp [Except.map, ht, hr], fun hnot => absurd ⟨ht, hr⟩ hnot⟩

/-! ## A blank target -/

def blankTarget : Catalogue :=
  Catalogue.builtin.register
    ((Fragment.new .service "cloudrun" "Cloud Run").addSetting "target" "")

def plainRaw : RawSelection :=
  .ofList [("language", .one "go"), ("package-manager", .one "gomod"), ("provider", .one "gcp"),
    ("service", .one "cloudrun")]

def plain : Selection := ⟨"go", "gomod", none, "gcp", "cloudrun", []⟩

def blankConfig : ProviderConfig := ⟨"gcp", "cloudrun", "", "us-central1", none, "shop", ∅⟩

theorem readsBack_blankConfig : blankConfig.toNode.ReadsBack :=
  Node.readsBack_of_isReadBack (by decide +kernel)

/-- The catalogue is sound and the document is made, but it is not valid and is not read. -/
theorem reads_back_iff_placed_blankTarget :
    blankTarget.verify = .ok () ∧ blankTarget.resolve plainRaw = .ok plain ∧
      ofSelection blankTarget plain "shop" = .ok blankConfig ∧ blankConfig.toNode.ReadsBack ∧
      ¬Placed (settingsFor blankTarget plain) ∧
      blankConfig.validate ≠ .ok () ∧ ofText blankConfig.print ≠ .ok blankConfig := by
  have hresolve : blankTarget.resolve plainRaw = .ok plain :=
    Catalogue.resolve_of_checks (by decide +kernel)
  have hmake : ofSelection blankTarget plain "shop" = .ok blankConfig := by decide +kernel
  have hnot : ¬Placed (settingsFor blankTarget plain) := by
    intro h
    exact h "target" (by simp) "" (by decide +kernel) (by decide +kernel)
  obtain ⟨hvalid, hreads⟩ := reads_back_iff_placed hresolve hmake
  refine ⟨by decide +kernel, hresolve, hmake, readsBack_blankConfig, hnot, ?_, ?_⟩
  · rw [ne_eq, hvalid]
    exact hnot
  · rw [ne_eq, (hreads readsBack_blankConfig).1]
    exact hnot

end PipeLoom.ProviderConfig
