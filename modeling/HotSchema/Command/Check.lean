import HotSchema.Command.Report
import HotSchema.Command.Usage
import HotSchema.Schema.Manifest
import HotSchema.Toolchain.Process
/-!
# The check command

Compiles the schema of a manifest once, healing it until it compiles or nothing more can be done, and
reports what was loaded and repaired. The settings are read first, then the manifest; the first that
cannot be had ends the command with what it was doing.
-/

namespace HotSchema

/-- What the command leaves: its exit code, what it prints, and the ways in which the error that ended it may be
told. -/
structure CommandEnd where
  code : Nat
  output : String
  errors : List String
  deriving DecidableEq

namespace CommandEnd

def failed (errors : List String) : CommandEnd := ⟨1, "", errors⟩

def ofReport (json : Bool) (r : HealReport) : CommandEnd :=
  let lines := if json then [r.toJson.pretty] else r.lines
  ⟨if r.success then 0 else 1, String.join (lines.map (· ++ "\n")), []⟩

end CommandEnd

def checkManifest (settings : Settings) (command : CompilerCommand) (m : Manifest) :
    Except EngineError HealReport :=
  match Engine.new settings none (.ofManifest m) ⟨.process command, []⟩ with
  | .error e => .error e
  | .ok engine => (engine.run none false).1

def check (o : CheckOptions) (config schema : Except FileError String) : CommandEnd :=
  match Settings.load o.config config with
  | .error _ => .failed [s!"loading {o.config}"]
  | .ok settings =>
    match settings.compiler with
    | none => .failed [s!"{o.config} has no [toolchain] section"]
    | some command =>
      match schema with
      | .error _ => .failed [s!"reading {o.schema}"]
      | .ok text =>
        match Manifest.parse? text with
        | none => .failed [s!"parsing {o.schema}"]
        | some m =>
          match checkManifest settings command m with
          | .error e => .failed e.messages
          | .ok report => .ofReport o.json report

def runCommand (arguments : List String) (readText : String → Except FileError String) : CommandEnd :=
  match Usage.ofArguments arguments with
  | .check o => check o (readText o.config) (readText o.schema)
  | .help => ⟨0, "", []⟩
  | .wrong => ⟨2, "", []⟩

end HotSchema
