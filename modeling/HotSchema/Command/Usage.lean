import HotSchema.Text.Split
/-!
# The command line

The command has one subcommand, `check`, with the path of a schema, the path of the settings, and a flag
for a report in JSON; a flag for more logging may stand before or behind the subcommand. Options and
flags are read from left to right, and the first thing that is wrong, or asks for help, decides.

A short option takes its value from the rest of its word or from the next word, a long one behind an
equals sign or from the next word. A next word that begins with a dash is no value, unless it is the
dash alone. Nothing may be given twice, and no value may be empty.
-/

namespace HotSchema

structure CheckOptions where
  schema : String
  config : String
  json : Bool
  deriving DecidableEq

inductive Usage where
  | check (options : CheckOptions)
  | help
  | wrong
  deriving DecidableEq

namespace Usage

/-- The options of `check` as far as they were read. -/
structure Given where
  schema : Option String
  config : Option String
  json : Bool
  verbose : Bool

def Given.none : Given := ⟨.none, .none, false, false⟩

inductive Valued where
  | schema
  | config

/-- Sets an option that takes a value, unless it is set or the value is empty. -/
def Given.set? (g : Given) (option : Valued) (value : String) : Option Given :=
  if value.isEmpty then .none
  else
    match option with
    | .schema => if g.schema.isSome then .none else some { g with schema := value }
    | .config => if g.config.isSome then .none else some { g with config := value }

def Given.setVerbose? (g : Given) : Option Given :=
  if g.verbose then .none else some { g with verbose := true }

def Given.setJson? (g : Given) : Option Given :=
  if g.json then .none else some { g with json := true }

/-- Whether a word can be the value of the option before it. -/
def isValue (word : String) : Bool := word = "-" || !word.startsWith "-"

inductive Step where
  | on (given : Given)
  /-- The next word is the value of an option. -/
  | awaits (given : Given) (option : Valued)
  | stop (usage : Usage)

def Step.ofOption : Option Given → Step
  | some g => .on g
  | .none => .stop .wrong

/-- A word of short flags, of which the last may be an option with its value. -/
def shortFlags (g : Given) : List Char → Step
  | [] => .on g
  | 'v' :: rest =>
    match g.setVerbose? with
    | some g => if rest.head? = some '=' then .stop .wrong else shortFlags g rest
    | .none => .stop .wrong
  | 'h' :: _ => .stop .help
  | 's' :: rest => withValue .schema rest
  | 'c' :: rest => withValue .config rest
  | _ => .stop .wrong
where
  withValue (option : Valued) : List Char → Step
    | [] => .awaits g option
    | '=' :: value => .ofOption (g.set? option (String.ofList value))
    | value => .ofOption (g.set? option (String.ofList value))

def longFlag (g : Given) (name : String) (value : Option String) : Step :=
  let flag (set : Option Given) : Step := if value.isSome then .stop .wrong else .ofOption set
  let valued (option : Valued) : Step :=
    match value with
    | some v => .ofOption (g.set? option v)
    | .none => .awaits g option
  match name with
  | "schema" => valued .schema
  | "config" => valued .config
  | "json" => flag g.setJson?
  | "verbose" => flag g.setVerbose?
  | "help" => if value.isSome then .stop .wrong else .stop .help
  | _ => .stop .wrong

def readWord (g : Given) (word : String) : Step :=
  match word.toList with
  | '-' :: '-' :: rest =>
    match Text.splitFirst ['='] rest with
    | some (name, value) => longFlag g (String.ofList name) (some (String.ofList value))
    | .none => longFlag g (String.ofList rest) .none
  | '-' :: c :: rest => shortFlags g (c :: rest)
  | _ => .stop .wrong

def Given.finish (g : Given) : Usage :=
  match g.schema with
  | some schema => .check ⟨schema, g.config.getD "kiln.toml", g.json⟩
  | .none => .wrong

/-- The words behind the subcommand; `awaited` is the option whose value comes next. -/
def readCheck (g : Given) (awaited : Option Valued) : List String → Usage
  | [] => if awaited.isSome then .wrong else g.finish
  | word :: rest =>
    match awaited with
    | some option =>
      if isValue word then
        match g.set? option word with
        | some g => readCheck g .none rest
        | .none => .wrong
      else .wrong
    | .none =>
      if word = "--" then if rest.isEmpty then g.finish else .wrong
      else
        match readWord g word with
        | .on g => readCheck g .none rest
        | .awaits g option => readCheck g (some option) rest
        | .stop usage => usage

def leadingFlags (verbose : Bool) : List Char → Except Usage Bool
  | [] => .ok verbose
  | 'v' :: rest => if verbose then .error .wrong else leadingFlags true rest
  | 'h' :: _ => .error .help
  | _ => .error .wrong

def readFrom (verbose : Bool) : List String → Usage
  | [] => .wrong
  | word :: rest =>
    if word = "check" then readCheck .none .none rest
    else if word = "help" then if rest = [] || rest = ["check"] || rest = ["help"] then .help else .wrong
    else if word = "--help" then .help
    else if word = "--verbose" then if verbose then .wrong else readFrom true rest
    else
      match word.toList with
      | '-' :: '-' :: _ => .wrong
      | '-' :: c :: flags =>
        match leadingFlags verbose (c :: flags) with
        | .ok verbose => readFrom verbose rest
        | .error usage => usage
      | _ => .wrong

end Usage

def Usage.ofArguments (arguments : List String) : Usage := Usage.readFrom false arguments

end HotSchema
