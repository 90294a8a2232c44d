import PipeLoom.Dict

/-!
# Steps

A step runs a shell command or calls an action with inputs.
-/

namespace PipeLoom

inductive Action where
  | run (command : String)
  | uses (action : String) (inputs : Dict String)
  deriving DecidableEq

structure Step where
  name : String
  id : Option String
  /-- Expression under which the step runs. -/
  guard : Option String
  action : Action
  env : Dict String
  deriving DecidableEq

namespace Step

def run (name command : String) : Step := ⟨name, none, none, .run command, ∅⟩

def uses (name action : String) : Step := ⟨name, none, none, .uses action ∅, ∅⟩

/-- Sets an input of the called action; a shell command has none. -/
def withInput (s : Step) (key value : String) : Step :=
  match s.action with
  | .run _ => s
  | .uses action inputs => { s with action := .uses action (inputs.insert key value) }

def withId (s : Step) (id : String) : Step := { s with id := some id }

def withGuard (s : Step) (guard : String) : Step := { s with guard := some guard }

def withEnv (s : Step) (key value : String) : Step := { s with env := s.env.insert key value }

/-- The shell command or the name of the action. -/
def command (s : Step) : String :=
  match s.action with
  | .run command => command
  | .uses action _ => action

end Step

end PipeLoom
