/-!
# Grammar of command lines

A command has options and positional arguments. An option takes no value, or one that is written
behind it or attached to it; most may be given once. `Grammar.read` sorts the words of a command
line into the values of options, in order.
-/

namespace PipeLoom

/-- The values that an argument accepts. -/
inductive ValueKind where
  | text
  /-- A path is not empty. -/
  | path
  | truth
  | oneOf (words : List String)
  deriving DecidableEq, Repr

def ValueKind.accepts : ValueKind → String → Bool
  | text, _ => true
  | path, s => s != ""
  | truth, s => ["true", "false"].contains s
  | oneOf words, s => words.contains s

structure OptionRule where
  name : String
  letter : Option Char
  /-- What value the option takes, if it takes one. -/
  value : Option ValueKind
  /-- Whether it may be given more than once. -/
  repeats : Bool
  deriving DecidableEq, Repr

namespace OptionRule

def flag (name : String) (letter : Option Char) : OptionRule := ⟨name, letter, none, false⟩

def single (name : String) (letter : Option Char) (kind : ValueKind) : OptionRule :=
  ⟨name, letter, some kind, false⟩

def many (name : String) (kind : ValueKind) : OptionRule := ⟨name, none, some kind, true⟩

end OptionRule

/-- The options and positional arguments of a command. -/
structure Grammar where
  options : List OptionRule
  positionals : List ValueKind

/-- What a command line says: the given options with their values, in order, flags without one. -/
structure Given where
  options : List (String × Option String)
  positionals : List String
  deriving DecidableEq, Repr

namespace Given

def has (g : Given) (name : String) : Bool := g.options.any (·.1 == name)

def values (g : Given) (name : String) : List String :=
  g.options.filterMap fun o => if o.1 == name then o.2 else none

def value? (g : Given) (name : String) : Option String := (g.values name).head?

end Given

/-- How the reading of a command line ends. -/
inductive Grammar.Result where
  | given (g : Given)
  /-- A word that the command does not know, with the words after it. -/
  | word (g : Given) (word : String) (rest : List String)
  | help
  | version
  | invalid
  deriving DecidableEq, Repr

namespace Grammar

def versionFlag : OptionRule := .flag "version" (some 'V')

def helpFlag : OptionRule := .flag "help" (some 'h')

def rule? (gr : Grammar) (name : String) : Option OptionRule :=
  (gr.options ++ [helpFlag, versionFlag]).find? (·.name == name)

def ruleOfLetter? (gr : Grammar) (letter : Char) : Option OptionRule :=
  (gr.options ++ [helpFlag, versionFlag]).find? (·.letter == some letter)

/-- Adds an option, unless it was given before or does not accept the value. -/
def add? (g : Given) (r : OptionRule) (value : Option String) : Option Given :=
  if g.has r.name && !r.repeats then none
  else if !(match r.value, value with
    | some kind, some v => kind.accepts v
    | none, none => true
    | _, _ => false) then none
  else some { g with options := g.options ++ [(r.name, value)] }

/-- What a cluster of letters leads to: options read, and perhaps one that waits for its value. -/
inductive Cluster where
  | done (g : Given)
  | waiting (g : Given) (r : OptionRule)
  | help
  | version
  | invalid

/-- Letters after one hyphen. What follows the letter of an option with a value is that value. -/
def letters (gr : Grammar) (g : Given) : List Char → Cluster
  | [] => .done g
  | c :: r =>
    match gr.ruleOfLetter? c with
    | none => .invalid
    | some rule =>
      if rule = helpFlag then .help
      else if rule = versionFlag then .version
      else if rule.value.isNone then
        match add? g rule none with
        | some g => letters gr g r
        | none => .invalid
      else
        match r with
        | [] => .waiting g rule
        | r =>
          let value := match r with
            | '=' :: v => v
            | v => v
          match add? g rule (some (String.ofList value)) with
          | some g => .done g
          | none => .invalid

/-- A name after two hyphens, with the value attached to it. -/
def long (gr : Grammar) (g : Given) (s : List Char) : Cluster :=
  let (name, attached) := match s.span (· != '=') with
    | (name, '=' :: v) => (String.ofList name, some (String.ofList v))
    | (name, _) => (String.ofList name, none)
  match gr.rule? name with
  | none => .invalid
  | some rule =>
    match rule.value, attached with
    | some _, none => .waiting g rule
    | none, some _ => .invalid
    | none, none =>
      if rule = helpFlag then .help
      else if rule = versionFlag then .version
      else match add? g rule none with
        | some g => .done g
        | none => .invalid
    | some _, some v =>
      match add? g rule (some v) with
      | some g => .done g
      | none => .invalid

/-- Whether a word is written like an option. A hyphen alone is a value. -/
def isOption (s : String) : Bool :=
  match s.toList with
  | '-' :: _ :: _ => true
  | _ => false

/-- Adds a positional argument, if the command takes another one. -/
def positional? (gr : Grammar) (g : Given) (s : String) : Option Given :=
  match gr.positionals[g.positionals.length]? with
  | some kind =>
    if kind.accepts s then some { g with positionals := g.positionals ++ [s] } else none
  | none => none

/-- Words after two lone hyphens are positional arguments. -/
def onlyPositionals (gr : Grammar) (g : Given) : List String → Result
  | [] => .given g
  | s :: ss =>
    match gr.positional? g s with
    | some g => onlyPositionals gr g ss
    | none => .invalid

def read (gr : Grammar) (g : Given) : List String → Result
  | [] => .given g
  | "--" :: ss => gr.onlyPositionals g ss
  | s :: ss =>
    if !isOption s then
      match gr.positional? g s with
      | some g => read gr g ss
      | none => if gr.positionals.isEmpty then .word g s ss else .invalid
    else
      let cluster := match s.toList with
        | '-' :: '-' :: name => gr.long g name
        | cs => gr.letters g (cs.drop 1)
      match cluster with
      | .done g => read gr g ss
      | .help => .help
      | .version => .version
      | .invalid => .invalid
      | .waiting g rule =>
        match ss with
        | [] => .invalid
        | v :: ss =>
          if isOption v then .invalid
          else match add? g rule (some v) with
            | some g => read gr g ss
            | none => .invalid

end Grammar

end PipeLoom
