import PipeLoom.Expression
import PipeLoom.Intent
import PipeLoom.Release.Pattern

/-!
# Classification in a workflow

A workflow classifies its event by a shell script. The script reads `EVENT_NAME`, `REF_TYPE`, `TAG`
and `EMERGENCY_MODE` and appends `intent`, `environment` and `skip_gates` to the job's outputs.
-/

namespace PipeLoom.Script

/-- Lines joined, each ended by a line break. -/
def unlines (ls : List String) : String := String.intercalate "\n" ls ++ "\n"

/-- Assignments of the tag patterns. -/
def patterns : List String :=
  ["stable_re='" ++ Release.stablePattern ++ "'", "hotfix_re='" ++ Release.hotfixPattern ++ "'"]

/-- The variables of the classifying step that come from the event. -/
def classifierEnv : List (String × String) :=
  [("EVENT_NAME", Expression.embed "github.event_name"),
    ("REF_TYPE", Expression.embed "github.ref_type"),
    ("TAG", Expression.embed "github.event.release.tag_name || github.ref_name")]

/-- What follows the test for a hotfix tag: any other mention of a hotfix is malformed, a stable tag
has the given intent. -/
def otherTags (stable : IntentKind) : List String :=
  ["    elif [[ \"$tag\" == *hotfix* ]]; then",
    "      reason=\"tag '$tag' mentions hotfix but is not of the form v<semver>-hotfix.<n>\"",
    "    elif [[ \"$tag\" =~ $stable_re ]]; then",
    "      intent=" ++ stable.name,
    "    else",
    "      reason=\"tag '$tag' is not of the form v<semver>\"",
    "    fi",
    "    ;;"]

def classifier : String := unlines <|
  ["set -euo pipefail"] ++ patterns ++
  ["intent=" ++ IntentKind.noOp.name,
    "skip_gates=false",
    "reason=''",
    "tag=\"$\x7bTAG:-\x7d\"",
    "case \"$\x7bEVENT_NAME:-\x7d\" in",
    "  pull_request)",
    "    intent=" ++ IntentKind.validateOnly.name,
    "    ;;",
    "  push)",
    "    if [[ \"$\x7bREF_TYPE:-\x7d\" != tag ]]; then",
    "      reason=\"branch pushes do not deploy\"",
    "    elif [[ \"$tag\" =~ $hotfix_re ]]; then",
    "      reason=\"hotfix tag '$tag' is deployed when its release is published, not on push\""] ++
  otherTags .deployStaging ++
  ["  release)",
    "    if [[ \"$tag\" =~ $hotfix_re ]]; then",
    "      intent=" ++ IntentKind.deployProductionHotfix.name,
    "      if [[ \"$\x7bEMERGENCY_MODE:-false\x7d\" == true ]]; then skip_gates=true; fi"] ++
  otherTags .deployProduction ++
  ["  *)",
    "    reason=\"$\x7bEVENT_NAME:-unknown\x7d does not deploy; push a release tag instead\"",
    "    ;;",
    "esac",
    "case \"$intent\" in"] ++
  IntentKind.all.map (fun k =>
    "  " ++ k.name ++ ") environment=" ++ k.environment?.getD "''" ++ " ;;") ++
  ["esac",
    "if [[ -n \"$reason\" ]]; then echo \"::warning::$reason\"; fi",
    "echo \"intent=$intent (skip_gates=$skip_gates)\"",
    "\x7b",
    "  echo \"intent=$intent\"",
    "  echo \"environment=$environment\"",
    "  echo \"skip_gates=$skip_gates\"",
    "\x7d >> \"$GITHUB_OUTPUT\""]

/-- Fails unless the tag to return to is a release tag that exists in the full history. -/
def tagCheck : String := unlines <|
  patterns ++
  ["if [[ ! \"$ROLLBACK_TAG\" =~ $stable_re && ! \"$ROLLBACK_TAG\" =~ $hotfix_re ]]; then",
    "  echo \"::error::'$ROLLBACK_TAG' is not a release tag\"",
    "  exit 1",
    "fi",
    "if ! git rev-parse --verify --quiet " ++
      "\"refs/tags/$ROLLBACK_TAG^\x7bcommit\x7d\" >/dev/null; then",
    "  echo \"::error::tag '$ROLLBACK_TAG' does not exist\"",
    "  exit 1",
    "fi"]

end PipeLoom.Script
