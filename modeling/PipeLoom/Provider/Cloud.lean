import PipeLoom.Text.Caseless

/-!
# Cloud providers

The providers with a region of their own to fall back on.
-/

namespace PipeLoom

inductive CloudProvider where
  | aws | azure | gcp
  deriving DecidableEq, Repr

namespace CloudProvider

def all : List CloudProvider := [aws, azure, gcp]

/-- The lower-case word for the provider. -/
def word : CloudProvider → String
  | aws => "aws"
  | azure => "azure"
  | gcp => "gcp"

def ofText? (s : String) : Option CloudProvider := all.find? fun p => p.word == Text.lower s

def defaultRegion : CloudProvider → String
  | aws => "us-east-1"
  | azure => "eastus"
  | gcp => "us-central1"

end CloudProvider

end PipeLoom
