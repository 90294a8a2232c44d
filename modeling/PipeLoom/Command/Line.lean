import PipeLoom.Command.Basic
import PipeLoom.Command.Grammar

/-!
# Command lines

The words of a command line as a command, and running it. A command line that cannot be read prints
nothing and has the exit code 2.
-/

namespace PipeLoom

/-! ## Grammars -/

namespace CommandLine

/-- Options of every command. -/
def commonOptions : List OptionRule :=
  [.flag "verbose" (some 'v'), .flag "quiet" (some 'q'), .flag "log-json" none]

def selectionOptions : List OptionRule :=
  ["language", "package-manager", "framework", "provider", "service"].map
    (OptionRule.single · none .text) ++ [.many "hook" .text]

def emergencyOption : OptionRule := .single "emergency-mode" none .truth

def catalogueOption : OptionRule := .single "catalogue" none .path

def writingOptions : List OptionRule :=
  [.single "output" (some 'o') .path, .flag "force" (some 'f'), .flag "dry-run" none]

def pathOption : OptionRule := .single "path" (some 'p') .path

inductive Name where
  | init | add | validate | classify | list
  deriving DecidableEq, Repr

def Name.word : Name → String
  | init => "init"
  | add => "add"
  | validate => "validate"
  | classify => "classify"
  | list => "list"

def names : List Name := [.init, .add, .validate, .classify, .list]

def ownOptions : Name → List OptionRule
  | .init =>
    selectionOptions ++ [.single "app-name" none .text] ++ writingOptions ++
      [emergencyOption, catalogueOption]
  | .add => writingOptions ++ [emergencyOption, catalogueOption]
  | .validate => selectionOptions ++ [pathOption, emergencyOption, catalogueOption]
  | .classify =>
    [.single "event" none .text, .single "tag" none .text,
      .single "format" none (.oneOf ["text", "json"]), pathOption, emergencyOption]
  | .list => [.single "axis" none .text, pathOption, catalogueOption]

def grammar (n : Name) : Grammar where
  options := commonOptions ++ ownOptions n
  positionals := if n = .add then [.oneOf ["hotfix", "rollback"]] else []

/-- The grammar of what stands before the command. -/
def outerGrammar : Grammar := ⟨commonOptions, []⟩

/-! ## Commands -/

def boolOf? : String → Option Bool
  | "true" => some true
  | "false" => some false
  | _ => none

/-- The emergency mode from the option, else from the environment, which must hold a truth value. -/
def emergencyMode? (g : Given) (env : Option String) : Option (Option Bool) :=
  match g.value? "emergency-mode", env with
  | some v, _ => (boolOf? v).map some
  | none, some v => (boolOf? v).map some
  | none, none => some none

def selectionArgs (g : Given) : SelectionArgs :=
  ⟨g.value? "language", g.value? "package-manager", g.value? "framework", g.value? "provider",
    g.value? "service", g.values "hook"⟩

def pathOf (g : Given) (name : String) : Option Path := (g.value? name).map Path.mk

def configArgs? (g : Given) (env : Option String) : Option ConfigArgs := do
  return ⟨← emergencyMode? g env, pathOf g "catalogue"⟩

/-- The command of a name, if everything it requires is given. -/
def command? (n : Name) (g : Given) (env : Option String) : Option Command := do
  if g.has "verbose" && g.has "quiet" then none
  match n with
  | .init =>
    return .init {
      selection := selectionArgs g
      appName := ← g.value? "app-name"
      output := pathOf g "output"
      force := g.has "force"
      dryRun := g.has "dry-run"
      config := ← configArgs? g env
    }
  | .add =>
    return .add {
      target := if (← g.positionals.head?) == "hotfix" then .hotfix else .rollback
      output := pathOf g "output"
      force := g.has "force"
      dryRun := g.has "dry-run"
      config := ← configArgs? g env
    }
  | .validate => return .validate ⟨selectionArgs g, pathOf g "path", ← configArgs? g env⟩
  | .classify =>
    return .classify {
      event := ← g.value? "event"
      tag := g.value? "tag"
      format := if g.value? "format" == some "json" then .json else .text
      path := pathOf g "path"
      emergencyMode := ← emergencyMode? g env
    }
  | .list => return .list ⟨g.value? "axis", pathOf g "path", pathOf g "catalogue"⟩

/-- What a command line asks for. -/
inductive Request where
  | run (c : Command)
  /-- The version of the program of this name. -/
  | version (program : String)
  | help
  | invalid
  deriving DecidableEq, Repr

def program : String := "cigen"

/-- Words after `help`: nothing, or the name of a command. -/
def helpRequest : List String → Request
  | [] => .help
  | [w] => if w = "help" || names.any (·.word == w) then .help else .invalid
  | _ => .invalid

/-- Reads a command line; `env` is the variable that stands in for the emergency mode option. -/
def read (args : List String) (env : Option String) : Request :=
  match outerGrammar.read ⟨[], []⟩ args with
  | .help => .help
  | .version => .version program
  | .given _ | .invalid => .invalid
  | .word outer w rest =>
    if w = "help" then helpRequest rest
    else
      match names.find? (·.word == w) with
      | none => .invalid
      | some n =>
        match (grammar n).read ⟨[], []⟩ rest with
        | .help => .help
        | .version => .version (program ++ "-" ++ n.word)
        | .word _ _ _ | .invalid => .invalid
        | .given g =>
          if outer.has "verbose" && outer.has "quiet" then .invalid
          else
            match command? n g env with
            | some c => .run c
            | none => .invalid

/-! ## Running -/

/-- What a process shows: its exit code, the text it prints and its error message. -/
structure Answer where
  exitCode : Nat
  output : String
  error : Option String
  tree : FileTree

def versionNumber : String := "0.1.0"

def run (args : List String) (env : Option String) (now : Timestamp) (t : FileTree) : Answer :=
  match read args env with
  | .invalid => ⟨2, "", none, t⟩
  | .help => ⟨0, "", none, t⟩
  | .version name => ⟨0, name ++ " " ++ versionNumber ++ "\n", none, t⟩
  | .run c =>
    let o := c.run now t
    let error := match o.result with
      | .ok () => none
      | .error e => some e.message
    ⟨o.exitCode, o.output, error, o.tree⟩

end CommandLine

end PipeLoom
