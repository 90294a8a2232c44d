import PipeLoom.Proofs.Expression.Containment
import PipeLoom.Proofs.Intent.Classification
import PipeLoom.Proofs.Text.Blank
import PipeLoom.Proofs.Workflow.Jobs

/-!
# The hotfix workflow starts for every hotfix

The hotfix workflow asks whether the tag of a release has the hotfix marker in it, while releases
are classified by what their tags are read as. Every tag that is read as a hotfix has the marker, and
no tag that mentions hotfixes is read as a stable release (`Event.hotfix_releases_are_marked`).
-/

namespace PipeLoom

open Expression (Containment Environment)

namespace Tag

variable {tag name : String} {v : Version} {n : Nat}

theorem marked_of_isHotfix (h : Names name v) (hn : Release.IsHotfix v n) :
    hotfixMarker.toList <:+: name.toList := by
  refine ⟨'v' :: v.coreText, (toString n).toList ++ Version.marked '+' (Version.partOf v.build), ?_⟩
  rw [toList_eq_iff.2 h.text, Version.print_toList, hn.1]
  simp [Version.partOf, Version.marked, hotfixMarker]

theorem marked_of_parse (h : parse tag = .ok (.hotfix v n)) :
    hotfixMarker.toList <:+: tag.toList := by
  obtain ⟨hnames, hhotfix⟩ := parse_eq_hotfix_iff.1 h
  have hblank : ∀ c ∈ hotfixMarker.toList, Text.isBlank c = false := by
    simp [hotfixMarker, Text.isBlank]
  exact (Text.infix_trim_iff (by decide) hblank tag).1 (marked_of_isHotfix hnames hhotfix)

theorem parse_ne_stable (h : "hotfix".toList <:+: tag.toList) : parse tag ≠ .ok (.stable v) := by
  intro hparse
  have hblank : ∀ c ∈ "hotfix".toList, Text.isBlank c = false := by simp [Text.isBlank]
  have hmention : MentionsHotfix (Text.trim tag) :=
    (Text.infix_trim_iff (by decide) hblank tag).2 h
  exact (parse_eq_stable_iff.1 hparse).2 hmention

end Tag

namespace EmitOptions

variable (o : EmitOptions) (p : Pipeline)

/-- Whether the condition of the first job in the hotfix workflow's document holds; `none` where
there is no condition or it has no meaning. -/
def hotfixStarts? (v : Environment) : Option Bool :=
  (((o.document p .hotfix).condition? classifyJobId).bind Containment.ofText?).bind (·.holds? v)

theorem condition?_classifyJob : (o.document p .hotfix).condition? classifyJobId =
    some "contains(github.event.release.tag_name, '-hotfix.')" := by
  unfold WorkflowDocument.condition?
  rw [job?_document, show classifyJobId = WorkflowKind.hotfix.firstJobId from rfl, lookup_firstJob]
  rfl

theorem hotfixStarts?_of_infix {v : Environment} {tag : String}
    (hv : v.context "github.event.release.tag_name" = some (.text tag))
    (h : Tag.hotfixMarker.toList <:+: tag.toList) : o.hotfixStarts? p v = some true := by
  have hread : Containment.ofText? "contains(github.event.release.tag_name, '-hotfix.')" =
      some ⟨"github.event.release.tag_name", Tag.hotfixMarker⟩ := by decide +kernel
  unfold hotfixStarts?
  rw [condition?_classifyJob, Option.bind_some, hread]
  exact Containment.holds?_of_infix hv h

end EmitOptions

/-- A release that is classified as a hotfix has a tag with the marker in it, so that the hotfix
workflow starts for it. A tag that mentions hotfixes, with blanks around it or not, is read as no
stable release, so that neither pushing nor releasing it deploys as one. -/
theorem Event.hotfix_releases_are_marked (tag : String) :
    (∀ emergencyMode, ((releasePublished tag).classify emergencyMode).intent.kind =
        .deployProductionHotfix →
      Tag.hotfixMarker.toList <:+: tag.toList ∧
        ∀ (o : EmitOptions) (p : Pipeline) (v : Environment),
          v.context "github.event.release.tag_name" = some (.text tag) →
            o.hotfixStarts? p v = some true) ∧
    ("hotfix".toList <:+: tag.toList →
      (∀ v, Tag.parse tag ≠ .ok (.stable v)) ∧
        ∀ e ∈ [tagPush tag, releasePublished tag], ∀ emergencyMode,
          (e.classify emergencyMode).intent.kind ≠ .deployStaging ∧
            (e.classify emergencyMode).intent.kind ≠ .deployProduction) := by
  constructor
  · intro emergencyMode h
    obtain ⟨tag', v, n, htag, hparse⟩ := (classify_answers _ emergencyMode).hotfix.1 h
    cases htag
    have hmarked := Tag.marked_of_parse hparse
    exact ⟨hmarked, fun o p v hv => o.hotfixStarts?_of_infix p hv hmarked⟩
  · intro hmention
    have hstable : ∀ v, Tag.parse tag ≠ .ok (.stable v) := fun v => Tag.parse_ne_stable hmention
    refine ⟨hstable, fun e he emergencyMode => ?_⟩
    cases hparse : Tag.parse tag with
    | error err =>
      rcases List.mem_pair.1 he with rfl | rfl <;> simp [classify, hparse]
    | ok t =>
      cases t with
      | stable v => exact absurd hparse (hstable v)
      | hotfix v n => rcases List.mem_pair.1 he with rfl | rfl <;> simp [classify, hparse]

/-- The number of a hotfix and blanks around its tag are no part of the marker. -/
theorem Event.hotfix_releases_are_marked_withBlanks :
    let tag := " v1.4.0-hotfix.2\n"
    let v : Environment := ⟨fun _ => some (.text tag), fun _ => none⟩
    ((releasePublished tag).classify false).intent.kind = .deployProductionHotfix ∧
      (EmitOptions.new "shop").hotfixStarts? EmitOptions.hotfixPipeline v = some true ∧
      ∀ emergencyMode, ((tagPush tag).classify emergencyMode).intent.kind ≠ .deployStaging := by
  intro tag v
  have hkind : ((releasePublished tag).classify false).intent.kind = .deployProductionHotfix := by
    decide +kernel
  have hmention : "hotfix".toList <:+: tag.toList := by decide +kernel
  have h := hotfix_releases_are_marked tag
  exact ⟨hkind, (h.1 false hkind).2 _ _ v rfl, fun m => ((h.2 hmention).2 _ (.head _) m).1⟩

end PipeLoom
