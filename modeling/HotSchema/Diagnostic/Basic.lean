/-!
# Diagnostics

What a compiler reports about a line of a unit: how severe it is, the message, and, when the compiler
says so itself, the class of the failure. Line zero means that no line was given.
-/

namespace HotSchema

/-- In increasing order; only an error keeps a batch from being installed. -/
inductive Severity where
  | note
  | warning
  | error
  deriving DecidableEq

namespace Severity

def word : Severity → String
  | note => "note"
  | warning => "warning"
  | error => "error"

/-- Every severity has a second word that compilers may use. -/
def ofWord? (s : String) : Option Severity :=
  if s = "note" || s = "info" then some note
  else if s = "warning" || s = "warn" then some warning
  else if s = "error" || s = "fatal" then some error
  else none

def belowError (s : Severity) : Bool := s != error

theorem ofWord?_word (s : Severity) : ofWord? s.word = some s := by cases s <;> decide

end Severity

/-- Failure classes that a repair exists for. -/
inductive FailureClass where
  | unresolvedImport
  | duplicateDefinition
  | unknownSymbol
  | signatureClash
  deriving DecidableEq

namespace FailureClass

def word : FailureClass → String
  | unresolvedImport => "unresolved-import"
  | duplicateDefinition => "duplicate-definition"
  | unknownSymbol => "unknown-symbol"
  | signatureClash => "signature-clash"

def ofWord? (s : String) : Option FailureClass :=
  if s = "unresolved-import" then some unresolvedImport
  else if s = "duplicate-definition" then some duplicateDefinition
  else if s = "unknown-symbol" then some unknownSymbol
  else if s = "signature-clash" then some signatureClash
  else none

theorem ofWord?_word (c : FailureClass) : ofWord? c.word = some c := by cases c <;> decide

end FailureClass

structure Diagnostic where
  severity : Severity
  unit : String
  line : UInt32
  message : String
  failure : Option FailureClass
  deriving DecidableEq

namespace Diagnostic

def error (unit : String) (line : UInt32) (message : String) : Diagnostic :=
  ⟨.error, unit, line, message, none⟩

def isError (d : Diagnostic) : Bool := d.severity == .error

end Diagnostic

end HotSchema
