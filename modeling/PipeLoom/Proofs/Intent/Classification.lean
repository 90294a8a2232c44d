import PipeLoom.Classification
import PipeLoom.Proofs.Release.Tag

/-!
# Which events deploy

`Classification.Answers` says what an event leads to: production for releases and staging for
pushes, hotfixes to production only, and gates passed over only in an emergency. Every event is
answered so, and what is deployed is a version (`Event.answers_classify`): no text that is none gets
through, and no hotfix that is not published.
-/

namespace PipeLoom

/-! ## Tags that are read -/

namespace Tag

variable {tag : String} {v : Version} {n : Nat}

theorem reads_parse (tag : String) : Reads (Text.trim tag) (parse tag) := by
  obtain ⟨r, hr⟩ := exists_reads (Text.trim tag)
  rwa [parse_of_reads hr]

theorem parse_eq_stable_iff :
    parse tag = .ok (.stable v) ↔ Names (Text.trim tag) v ∧ ¬MentionsHotfix (Text.trim tag) := by
  refine ⟨fun h => ?_, fun ⟨hnames, hmention⟩ => parse_of_reads (.stable hnames hmention)⟩
  have hreads := reads_parse tag
  rw [h] at hreads
  cases hreads with
  | stable hnames hmention => exact ⟨hnames, hmention⟩

theorem parse_eq_hotfix_iff :
    parse tag = .ok (.hotfix v n) ↔ Names (Text.trim tag) v ∧ Release.IsHotfix v n := by
  refine ⟨fun h => ?_, fun ⟨hnames, hhotfix⟩ => parse_of_reads (.hotfix hnames hhotfix)⟩
  have hreads := reads_parse tag
  rw [h] at hreads
  cases hreads with
  | hotfix hnames hhotfix => exact ⟨hnames, hhotfix⟩

end Tag

/-! ## Answers -/

/-- What the event leads to. -/
structure Classification.Answers (c : Classification) (e : Event) (emergencyMode : Bool) :
    Prop where
  production : c.intent.environment? = some "production" ↔
    ∃ tag t, e = .releasePublished tag ∧ Tag.parse tag = .ok t
  staging : c.intent.environment? = some "staging" ↔
    ∃ tag v, e = .tagPush tag ∧ Tag.parse tag = .ok (.stable v)
  hotfix : c.intent.kind = .deployProductionHotfix ↔
    ∃ tag v n, e = .releasePublished tag ∧ Tag.parse tag = .ok (.hotfix v n)
  skipsGates : c.intent.skipsGates = true ↔
    c.intent.kind = .deployProductionHotfix ∧ emergencyMode = true
  validateOnly : c.intent = .validateOnly ↔ e = .pullRequest
  noOp : c.intent = .noOp ↔ e = .workflowDispatch ∨
    (∃ tag v n, e = .tagPush tag ∧ Tag.parse tag = .ok (.hotfix v n)) ∨
    ∃ tag err, e.tag? = some tag ∧ Tag.parse tag = .error err
  reason : c.reason.isSome = true ↔ c.intent = .noOp

attribute [simp] Classification.of Classification.noOp Intent.kind Intent.environment?
  Intent.skipsGates IntentKind.environment? Event.tag?

theorem Intent.isDeploy_kind_iff (i : Intent) : i.kind.isDeploy = true ↔
    i.environment? = some "production" ∨ i.environment? = some "staging" := by
  cases i <;> simp [IntentKind.isDeploy]

namespace Event

theorem classify_answers (e : Event) (emergencyMode : Bool) :
    (e.classify emergencyMode).Answers e emergencyMode := by
  cases e with
  | pullRequest | workflowDispatch => constructor <;> simp [classify]
  | tagPush tag | releasePublished tag =>
    cases hparse : Tag.parse tag with
    | error err => constructor <;> simp [classify, hparse]
    | ok t =>
      cases t with
      | stable v => constructor <;> simp [classify, hparse]
      | hotfix v n => constructor <;> simp [classify, hparse]

/-- The tag names a version; if it mentions hotfixes, it is a hotfix whose release is published. -/
def Releases (e : Event) : Prop :=
  ∃ tag v, e.tag? = some tag ∧ Tag.Names (Text.trim tag) v ∧
    (Tag.MentionsHotfix (Text.trim tag) →
      e = .releasePublished tag ∧ ∃ n, Release.IsHotfix v n)

theorem releases_iff (e : Event) : e.Releases ↔
    (∃ tag t, e = .releasePublished tag ∧ Tag.parse tag = .ok t) ∨
      ∃ tag v, e = .tagPush tag ∧ Tag.parse tag = .ok (.stable v) := by
  constructor
  · rintro ⟨tag, v, htag, hnames, hmention⟩
    by_cases h : Tag.MentionsHotfix (Text.trim tag)
    · obtain ⟨hpublished, n, hhotfix⟩ := hmention h
      exact .inl ⟨tag, _, hpublished, Tag.parse_eq_hotfix_iff.2 ⟨hnames, hhotfix⟩⟩
    · have hparse := Tag.parse_eq_stable_iff.2 ⟨hnames, h⟩
      cases e with
      | tagPush tag' =>
        cases htag
        exact .inr ⟨tag, v, rfl, hparse⟩
      | releasePublished tag' =>
        cases htag
        exact .inl ⟨tag, _, rfl, hparse⟩
      | pullRequest => cases htag
      | workflowDispatch => cases htag
  · rintro (⟨tag, t, rfl, hparse⟩ | ⟨tag, v, rfl, hparse⟩)
    · cases t with
      | stable v =>
        obtain ⟨hnames, hplain⟩ := Tag.parse_eq_stable_iff.1 hparse
        exact ⟨tag, v, rfl, hnames, fun h => absurd h hplain⟩
      | hotfix v n =>
        obtain ⟨hnames, hhotfix⟩ := Tag.parse_eq_hotfix_iff.1 hparse
        exact ⟨tag, v, rfl, hnames, fun _ => ⟨rfl, n, hhotfix⟩⟩
    · obtain ⟨hnames, hplain⟩ := Tag.parse_eq_stable_iff.1 hparse
      exact ⟨tag, v, rfl, hnames, fun h => absurd h hplain⟩

/-- Every event is answered by what its tag is read as, and a deployment starts exactly where an
event releases a version. -/
theorem answers_classify (e : Event) (emergencyMode : Bool) :
    (e.classify emergencyMode).Answers e emergencyMode ∧
      ((e.classify emergencyMode).intent.kind.isDeploy = true ↔ e.Releases) := by
  have hanswers := classify_answers e emergencyMode
  refine ⟨hanswers, ?_⟩
  rw [Intent.isDeploy_kind_iff, hanswers.production, hanswers.staging, releases_iff]

-- a hotfix tag that is pushed does nothing, in an emergency as well
example : ((tagPush " v1.4.0-hotfix.2 ").classify true).intent = .noOp := by decide +kernel

end Event

end PipeLoom
