import PipeLoom.Release.Pattern
import PipeLoom.Release.Version
import PipeLoom.Text.Blank
import PipeLoom.Text.Substring

/-!
# Release tags

A release is tagged `v` and a version; a hotfix has the pre-release `hotfix.` and its number. Any
other tag that mentions hotfixes is malformed.
-/

namespace PipeLoom

inductive Tag where
  | stable (version : Version)
  | hotfix (version : Version) (number : Nat)
  deriving DecidableEq, Repr

/-- Why a name is no release tag. -/
inductive TagError where
  | empty (name : String)
  | malformedHotfix (name : String)
  | notARelease (name : String)
  /-- A name that matches a pattern but holds no version. -/
  | invalidVersion (name : String)
  deriving DecidableEq, Repr

/-- What is wrong; the reason why a version is invalid is not told. -/
def TagError.message : TagError → String
  | empty name => "tag '" ++ name ++ "' is empty"
  | malformedHotfix name =>
    "tag '" ++ name ++ "' mentions hotfix but is not of the form v<semver>-hotfix.<n>"
  | notARelease name => "tag '" ++ name ++ "' is not of the form v<semver>"
  | invalidVersion name => "tag '" ++ name ++ "' is not valid semver: "

namespace Tag

def version : Tag → Version
  | stable v | hotfix v _ => v

def isHotfix : Tag → Bool
  | stable _ => false
  | hotfix _ _ => true

/-- A text that stands in every hotfix tag. -/
def hotfixMarker : String := "-hotfix."

/-- The number of the hotfix that a version is. -/
def hotfixNumber? (v : Version) : Option Nat :=
  match v.pre with
  | ["hotfix", n] => Version.number? n.toList
  | _ => none

/-- The version in a name, behind a `v` if there is one. -/
def versionOf (name : String) : Except TagError Version :=
  let text := match name.toList with
    | 'v' :: r => r
    | s => s
  match Version.parse? text with
  | some v => .ok v
  | none => .error (.invalidVersion name)

/-- Reads a tag name; blanks around it do not count. -/
def parse (text : String) : Except TagError Tag :=
  let name := Text.trim text
  if name = "" then .error (.empty name)
  else if Release.hotfix.accepts name then do
    let v ← versionOf name
    match hotfixNumber? v with
    | some n => .ok (.hotfix v n)
    | none => .error (.malformedHotfix name)
  else if Text.contains name "hotfix" then .error (.malformedHotfix name)
  else if Release.stable.accepts name then do
    return .stable (← versionOf name)
  else .error (.notARelease name)

end Tag

end PipeLoom
