import PipeLoom.Catalogue.Basic
import PipeLoom.File.Tree
import PipeLoom.Text.Blank
import PipeLoom.Provider.Cloud
import PipeLoom.Selection.Basic
import PipeLoom.Yaml.Node.Fields
import PipeLoom.Yaml.Node.Print
import PipeLoom.Yaml.Record

/-!
# Provider documents

Where an application is deployed: the settings of the selected provider and service, those of the
service first, with region, target and cluster taken out.
-/

namespace PipeLoom

open Yaml (Node Document)

/-- A lower-case letter, then lower-case letters, digits and hyphens, 63 characters at most and no
hyphen last. -/
def isAppName (s : String) : Bool :=
  let isLower (c : Char) : Bool := 'a' ≤ c && c ≤ 'z'
  match s.toList with
  | [] => false
  | c :: r =>
    isLower c && r.all (fun d => isLower d || d.isDigit || d == '-') && r.length ≤ 62 &&
      r.getLast? != some '-'

inductive ProviderError where
  | invalidAppName (name : String)
  | missingSetting (fragment : FragmentRef) (key : String)
  /-- A field of a document holds nothing but blanks. -/
  | emptyField (field : String)
  /-- The text is no provider document. -/
  | unreadable
  | file (error : FileError)
  deriving DecidableEq, Repr

namespace ProviderError

/-- What is wrong; a text that is no document has no message of its own. -/
def message : ProviderError → String
  | invalidAppName name =>
    "Invalid app name '" ++ name ++
      "': use lowercase letters, digits and '-', starting with a letter (max 63)"
  | missingSetting fragment key => fragment.text ++ " does not define setting '" ++ key ++ "'"
  | emptyField field => "Invalid provider document: '" ++ field ++ "' is empty"
  | unreadable => ""
  | file error => "IO error: " ++ error.message

end ProviderError

structure ProviderConfig where
  provider : String
  serviceType : String
  target : String
  region : String
  cluster : Option String
  appName : String
  /-- The settings without fields of their own. -/
  settings : Dict String
  deriving DecidableEq

def checkAppName (name : String) : Except ProviderError Unit :=
  if isAppName name then .ok () else .error (.invalidAppName name)

namespace ProviderConfig

/-! ## From a selection -/

/-- The settings of a fragment, none if it is not in the catalogue. -/
def settingsOf (c : Catalogue) (r : FragmentRef) : Dict String :=
  ((c.find? r).map (·.settings)).getD ∅

def ofSelection (c : Catalogue) (s : Selection) (appName : String) :
    Except ProviderError ProviderConfig := do
  checkAppName appName
  let provider : FragmentRef := ⟨.provider, s.provider⟩
  let service : FragmentRef := ⟨.service, s.service⟩
  let settings := (settingsOf c provider).override (settingsOf c service)
  let region ←
    match settings.get? "region", CloudProvider.ofText? s.provider with
    | some region, _ => .ok region
    | none, some p => .ok p.defaultRegion
    | none, none => .error (.missingSetting provider "region")
  let target ←
    match settings.get? "target" with
    | some target => .ok target
    | none => .error (.missingSetting service "target")
  return {
    provider := s.provider
    serviceType := s.service
    target, region
    cluster := settings.get? "cluster"
    appName
    settings := ((settings.erase "region").erase "target").erase "cluster"
  }

/-! ## As a document -/

/-- Name of the document's file. -/
def fileName (p : ProviderConfig) : String := p.provider ++ ".yaml"

/-- Where the document stands, given the directory of provider documents. -/
def pathIn (p : ProviderConfig) (dir : Path) : Path := dir.child p.fileName

/-- The fields that must not be blank. -/
def mandatory (p : ProviderConfig) : List (String × String) :=
  [("provider", p.provider), ("service_type", p.serviceType), ("target", p.target),
    ("region", p.region)]

def validate (p : ProviderConfig) : Except ProviderError Unit := do
  checkAppName p.appName
  match p.mandatory.find? fun f => Text.trim f.2 == "" with
  | some f => .error (.emptyField f.1)
  | none => .ok ()

def toNode (p : ProviderConfig) : Node :=
  .record <|
    [("provider", .text p.provider), ("service_type", .text p.serviceType),
      ("target", .text p.target), ("region", .text p.region)] ++
      Node.optionalField "cluster" p.cluster ++ [("app_name", .text p.appName)] ++
      Node.dictField "settings" p.settings

def print (p : ProviderConfig) : String := p.toNode.print

def read (d : Document) : Document.Reading ProviderConfig := do
  match ← d.fields
    ["provider", "service_type", "target", "region", "cluster", "app_name", "settings"] with
  | [provider, serviceType, target, region, cluster, appName, settings] =>
    return {
      provider := ← Document.required d.text provider
      serviceType := ← Document.required d.text serviceType
      target := ← Document.required d.text target
      region := ← Document.required d.text region
      cluster := ← match cluster with
        | some t => d.textOrNull t
        | none => pure none
      appName := ← Document.required d.text appName
      settings := ← match settings with
        | some t => d.dict d.text t
        | none => pure ∅
    }
  | _ => Document.fail

/-- Reads and checks a document. -/
def ofText (s : String) : Except ProviderError ProviderConfig :=
  match (Document.ofText? s).bind fun d => (read d).run' 0 with
  | none => .error .unreadable
  | some p => do
    p.validate
    return p

def load (t : FileTree) (path : Path) : Except ProviderError ProviderConfig := do
  ofText (← (t.read path).mapError .file)

end ProviderConfig

end PipeLoom
