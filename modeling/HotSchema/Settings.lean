import HotSchema.Files
import HotSchema.Text.Quoted
import HotSchema.Text.Split
import HotSchema.Toml.Document
import HotSchema.Toml.Record
/-!
# Settings

The settings of the engine, written in TOML. Every key has a default, so an empty document is valid; a
key that is not listed here is not. Besides the form of the document, three values are checked: there
is at least one cycle and one second, and an entry of the legacy list has no empty part between dots.
-/

namespace HotSchema

structure CompilerCommand where
  program : String
  args : List String
  deriving DecidableEq

structure Settings where
  /-- The namespace of generated units. -/
  scope : String
  /-- The most compile passes in one run. -/
  maxHealCycles : Nat
  /-- The time that one call of the compiler may take. -/
  timeoutSecs : Nat
  /-- Obsolete methods that are removed on sight. -/
  legacyMethods : List String
  compiler : Option CompilerCommand
  deriving DecidableEq

inductive SettingsError where
  | malformed
  | unreadable (path : String) (error : FileError)
  | invalid (field reason : String)
  deriving DecidableEq

def SettingsError.message : SettingsError → String
  | malformed => "TOML parse error"
  | unreadable path error => s!"I/O error reading {path}: {error.message}"
  | invalid field reason => s!"invalid value for `{field}`: {reason}"

namespace Settings

def default : Settings := ⟨"dynamic", 8, 120, [], none⟩

/-- Whether an entry of the legacy list has an empty part between dots. -/
def isMalformedEntry (entry : String) : Bool :=
  (Text.segments (· == '.') entry.toList).any List.isEmpty

def validate (s : Settings) : Except SettingsError Unit :=
  if s.maxHealCycles = 0 then .error (.invalid "max_heal_cycles" "must be at least 1")
  else if s.timeoutSecs = 0 then .error (.invalid "toolchain_timeout_secs" "must be at least 1")
  else
    match s.legacyMethods.find? isMalformedEntry with
    | some entry => .error (.invalid "legacy_methods" s!"malformed entry {Text.quoted entry}")
    | none => .ok ()

def compilerOf? (v : Toml.Value) : Option CompilerCommand := do
  let t ← v.record? ["program", "args"]
  let program ← t.required? "program" Toml.Value.string?
  let args ← t.withDefault? "args" [] (Toml.Value.list? Toml.Value.string?)
  some ⟨program, args⟩

def ofEntries? (t : Toml.Entries) : Option Settings := do
  let keys := ["namespace", "max_heal_cycles", "toolchain_timeout_secs", "legacy_methods", "toolchain"]
  let t ← (Toml.Value.table .header t).record? keys
  let scope ← t.withDefault? "namespace" default.scope Toml.Value.string?
  let maxHealCycles ← t.withDefault? "max_heal_cycles" default.maxHealCycles Toml.Value.nat?
  let timeoutSecs ← t.withDefault? "toolchain_timeout_secs" default.timeoutSecs Toml.Value.nat?
  let legacyMethods ← t.withDefault? "legacy_methods" default.legacyMethods
    (Toml.Value.list? Toml.Value.string?)
  let compiler ← t.withDefault? "toolchain" default.compiler fun v => (compilerOf? v).map some
  some ⟨scope, maxHealCycles, timeoutSecs, legacyMethods, compiler⟩

def parse (text : String) : Except SettingsError Settings :=
  match (Toml.parse text).bind ofEntries? with
  | none => .error .malformed
  | some s =>
    match s.validate with
    | .error e => .error e
    | .ok () => .ok s

def load (path : String) (content : Except FileError String) : Except SettingsError Settings :=
  match content with
  | .error e => .error (.unreadable path e)
  | .ok text => parse text

end Settings

end HotSchema
