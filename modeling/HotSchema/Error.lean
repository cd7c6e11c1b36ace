import HotSchema.Registry.Basic
import HotSchema.Settings
import HotSchema.Source.Unit
/-!
# Engine errors

What ends a run without a report. A schema that does not compile is not among it: that is an outcome,
with diagnostics. These are the failures of the parts that the engine works with, and cancellation.
-/

namespace HotSchema

inductive EngineError where
  /-- The compiler could not be started. -/
  | toolchainUnavailable (program reason : String)
  | toolchainTimeout (seconds : Nat)
  | schemaService (reason : String)
  /-- A compiled unit is missing for a type that should have one. -/
  | loaderInconsistency (name : String)
  | typeNotFound (name : String)
  | registry (error : RegistryError)
  | source (error : SourceError)
  | settings (error : SettingsError)
  | workspace (error : FileError)
  | cancelled
  deriving DecidableEq

/-- A time in the shortest notation: whole seconds, and nothing in the smallest unit. -/
def secondsText (seconds : Nat) : String := if seconds = 0 then "0ns" else s!"{seconds}s"

/-- How an error may be told: what the registry refuses, in one of several ways. -/
def EngineError.messages : EngineError → List String
  | toolchainUnavailable program reason => [s!"toolchain `{program}` unavailable: {reason}"]
  | toolchainTimeout seconds => [s!"toolchain exceeded its {secondsText seconds} budget"]
  | schemaService reason => [s!"schema service error: {reason}"]
  | loaderInconsistency name =>
    [s!"type `{name}` is registered but missing from the compiled-unit store"]
  | typeNotFound name => [s!"type `{name}` not found"]
  | registry error => error.messages
  | source error => [error.message]
  | settings error => [error.message]
  | workspace error => [s!"I/O error: {error.message}"]
  | cancelled => ["compile cycle cancelled"]

end HotSchema
