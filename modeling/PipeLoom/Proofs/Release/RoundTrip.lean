import PipeLoom.Proofs.Intent.Classification
import PipeLoom.Proofs.Text.Blank

/-!
# Tags and versions

A tag that is read is `v` and the text of its version, and every sound version with numbers of
nineteen digits at most is read from its tag: as a stable release where its text does not mention
hotfixes, and as a hotfix where its pre-release is `hotfix` and such a number
(`Tag.parse_round_trip`).
-/

namespace PipeLoom

namespace Version

variable {v : Version} {n : Nat} {c : Char}

/-- The identifiers of the pre-release as they stand in a text. -/
def preText (v : Version) : String := String.intercalate "." v.pre

/-! ## Characters -/

theorem mem_print (h : c ∈ v.print.toList) :
    c ∈ v.coreText ∨ (c = '-' ∨ ∃ s, partOf v.pre = some s ∧ c ∈ s) ∨
      c = '+' ∨ ∃ s, partOf v.build = some s ∧ c ∈ s := by
  have hmarked {mark : Char} {part : Option (List Char)} (h : c ∈ marked mark part) :
      c = mark ∨ ∃ s, part = some s ∧ c ∈ s := by
    cases part with
    | none => cases h
    | some s => exact (List.mem_cons.1 h).imp_right fun hs => ⟨s, rfl, hs⟩
  rw [print_toList, List.mem_append, List.mem_append] at h
  rcases h with (hcore | hpre) | hbuild
  · exact .inl hcore
  · exact .inr (.inl (hmarked hpre))
  · exact .inr (.inr (hmarked hbuild))

theorem not_isBlank_of_isIdentifierChar (h : isIdentifierChar c = true) :
    Text.isBlank c = false := by
  rw [Release.isIdentifierChar_iff_toNat] at h
  simp [Text.isBlank]
  omega

theorem Valid.not_isBlank (hv : v.Valid) (h : c ∈ v.print.toList) : Text.isBlank c = false := by
  have hidentifier (h : c = '.' ∨ c.isAlphanum = true ∨ c = '-') : Text.isBlank c = false := by
    rcases h with rfl | h
    · decide
    · exact not_isBlank_of_isIdentifierChar (by simpa [isIdentifierChar] using h)
  rcases mem_print h with hcore | (rfl | ⟨s, hs, hc⟩) | rfl | ⟨s, hs, hc⟩
  · rcases isDigit_of_mem_coreText hcore with rfl | hdigit
    · decide
    · exact not_isBlank_of_isIdentifierChar (Release.isIdentifierChar_of_isDigit hdigit)
  · decide
  · exact hidentifier (isIdentifierChar_of_mem_partOf (fun i hi => (hv.pre i hi).1) hs hc)
  · decide
  · exact hidentifier (isIdentifierChar_of_mem_partOf hv.build hs hc)

theorem valid_of_checks (hpre : ∀ i ∈ v.pre, isPreIdentifier i.toList = true)
    (hbuild : ∀ i ∈ v.build, isIdentifier i.toList = true) : v.Valid :=
  ⟨fun i hi => isPreIdentifier_iff.1 (hpre i hi), fun i hi => isIdentifier_iff.1 (hbuild i hi)⟩

/-! ## The pre-release of a hotfix -/

theorem partOf_pre (h : v.pre ≠ []) : partOf v.pre = some v.preText.toList := by
  obtain ⟨i, ids, hpre⟩ := List.exists_cons_of_ne_nil h
  unfold preText
  rw [hpre, String.toList_intercalate]
  rfl

theorem preText_of_hotfix (h : v.pre = ["hotfix", toString n]) :
    v.preText = "hotfix." ++ toString n := by
  unfold preText
  rw [h, ← String.toList_inj, String.toList_intercalate]
  simp

/-- Identifiers without full stops are told by their text. -/
theorem Valid.pre_of_preText (hv : v.Valid) (h : v.preText = "hotfix." ++ toString n) :
    v.pre = ["hotfix", toString n] := by
  have hne : v.pre ≠ [] := by
    intro hpre
    unfold preText at h
    rw [hpre, ← String.toList_inj, String.toList_append] at h
    cases h
  have hpart : partOf ["hotfix", toString n] = some v.preText.toList := by
    rw [h]
    simp [partOf]
  have hids := splitOn_partOf (fun i hi => dot_not_mem_of_isIdentifier
    (isIdentifier_iff.2 (hv.pre i hi).1)) (partOf_pre hne)
  have hhotfix := splitOn_partOf (fun i hi => dot_not_mem_of_isIdentifier
    (isIdentifier_iff.2 (Release.isPreIdentifier_of_hotfix hi).1)) hpart
  exact hids.symm.trans hhotfix

end Version

namespace Tag

variable {v : Version} {n : Nat}

theorem trim_print (hv : v.Valid) : Text.trim ("v" ++ v.print) = "v" ++ v.print := by
  refine Text.trim_eq_self fun c hc => ?_
  rw [toList_eq_iff.2 rfl] at hc
  rcases List.mem_cons.1 hc with rfl | hc
  · decide
  · exact hv.not_isBlank hc

theorem names_print (hv : v.Valid) (hbelow : v.Below (10 ^ 19)) :
    Names (Text.trim ("v" ++ v.print)) v := ⟨hv, hbelow, trim_print hv⟩

/-- The letter before the version is none of those of `hotfix`. -/
theorem mentionsHotfix_print (hv : v.Valid) :
    MentionsHotfix (Text.trim ("v" ++ v.print)) ↔ "hotfix".toList <:+: v.print.toList := by
  unfold MentionsHotfix
  rw [trim_print hv, toList_eq_iff.2 rfl, List.infix_cons_iff, or_iff_right]
  rintro ⟨t, ht⟩
  cases ht

/-- What is read is told by its text: it is `v` and the version, and the pre-release of a hotfix is
`hotfix` and its number. Conversely sound versions whose numbers have nineteen digits at most are
read from these texts, as stable releases where they do not mention hotfixes and as hotfixes where
their pre-release is that of one. -/
theorem parse_round_trip :
    (∀ s t, parse s = .ok t → "v" ++ t.version.print = Text.trim s ∧
      ∀ v n, t = .hotfix v n → v.preText = "hotfix." ++ toString n) ∧
    ∀ v : Version, v.Valid → v.Below (10 ^ 19) →
      (¬"hotfix".toList <:+: v.print.toList → parse ("v" ++ v.print) = .ok (.stable v)) ∧
      ∀ n < 10 ^ 19, v.preText = "hotfix." ++ toString n →
        parse ("v" ++ v.print) = .ok (.hotfix v n) := by
  constructor
  · intro s t h
    cases t with
    | stable v =>
      obtain ⟨hnames, -⟩ := parse_eq_stable_iff.1 h
      exact ⟨hnames.text.symm, fun _ _ h => nomatch h⟩
    | hotfix v n =>
      obtain ⟨hnames, hhotfix⟩ := parse_eq_hotfix_iff.1 h
      refine ⟨hnames.text.symm, fun v' n' h => ?_⟩
      cases h
      exact Version.preText_of_hotfix hhotfix.1
  · intro v hv hbelow
    have hnames := names_print hv hbelow
    refine ⟨fun hmention => ?_, fun n hn hpre => ?_⟩
    · exact parse_eq_stable_iff.2 ⟨hnames, mt (mentionsHotfix_print hv).1 hmention⟩
    · exact parse_eq_hotfix_iff.2 ⟨hnames, hv.pre_of_preText hpre, hn⟩

/-- Numbers at the cap, and identifiers of digits, letters and hyphens. -/
theorem parse_round_trip_atCap :
    let stable : Version := ⟨10 ^ 19 - 1, 0, 10, ["0a", "-", "7", "x-1"], ["001", "-b"]⟩
    let hotfix : Version := ⟨1, 10 ^ 19 - 1, 0, ["hotfix", toString (10 ^ 19 - 1)], ["hotfix"]⟩
    parse ("v" ++ stable.print) = .ok (.stable stable) ∧
      parse ("v" ++ hotfix.print) = .ok (.hotfix hotfix (10 ^ 19 - 1)) ∧
      "v" ++ stable.print = Text.trim (" v" ++ stable.print ++ "\n") := by
  intro stable hotfix
  have hstable : stable.Valid := Version.valid_of_checks (by decide) (by decide)
  have hhotfix : hotfix.Valid := Version.valid_of_checks (by decide +kernel) (by decide)
  have hbelow : stable.Below (10 ^ 19) := ⟨by decide, by decide, by decide⟩
  have hbelow' : hotfix.Below (10 ^ 19) := ⟨by decide, by decide, by decide⟩
  have hread := (parse_round_trip.2 stable hstable hbelow).1 (by decide +kernel)
  refine ⟨hread, ?_, ?_⟩
  · exact (parse_round_trip.2 hotfix hhotfix hbelow').2 _ (by decide) (by decide +kernel)
  · have hblanks : parse (" v" ++ stable.print ++ "\n") = .ok (.stable stable) := by
      decide +kernel
    exact (parse_round_trip.1 _ _ hblanks).1

end Tag

end PipeLoom
