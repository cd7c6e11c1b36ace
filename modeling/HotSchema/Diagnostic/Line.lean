import HotSchema.Diagnostic.Basic
import HotSchema.Text.Split
/-!
# Diagnostic lines

Compilers print one diagnostic a line: a location, a colon and the line number; then a severity, perhaps
followed by a class in brackets; then the message. The three parts are set apart by a colon and a blank.
The location is the name of a unit or the path of its source file, of which only the file name counts,
without the source extension.

A line of any other form is not a diagnostic and is passed over. An unknown class is passed over too,
but not the diagnostic that carries it.
-/

namespace HotSchema

def sourceExtension : String := ".src"

namespace Diagnostic

def partSeparator : List Char := [':', ' ']

/-- A decimal numeral below 2^32, perhaps with a plus sign; no other sign and no separators. -/
def lineNumber? (s : List Char) : Option UInt32 :=
  let digits := match s with
    | '+' :: rest => rest
    | s => s
  if digits.isEmpty || !digits.all Char.isDigit then none
  else
    let n : Nat := digits.foldl (fun n c => 10 * n + (c.toNat - 48)) 0
    if n < 4294967296 then some n.toUInt32 else none

/-- The unit that a location names: the file name, less the source extension if it has one. -/
def unitOfLocation (path : List Char) : List Char :=
  let file := Text.lastSegment (fun c => c == '/' || c == '\\') path
  (Text.dropSuffix? sourceExtension.toList file).getD file

/-- A severity, perhaps with a class in brackets after it. -/
def readHead? (head : List Char) : Option (Severity × Option FailureClass) :=
  match Text.splitFirst ['['] head with
  | none => (Severity.ofWord? (String.ofList (Text.trim head))).map (·, none)
  | some (severity, code) =>
    match Text.dropSuffix? [']'] code, Severity.ofWord? (String.ofList (Text.trim severity)) with
    | some code, some severity => some (severity, FailureClass.ofWord? (String.ofList code))
    | _, _ => none

def readTrimmed? (line : List Char) : Option Diagnostic := do
  let (location, rest) ← Text.splitFirst partSeparator line
  let (path, number) ← Text.splitLast ':' location
  let line ← lineNumber? (Text.trim number)
  let (head, message) ← Text.splitFirst partSeparator rest
  let (severity, failure) ← readHead? head
  let unit := unitOfLocation path
  if unit.isEmpty then none
  else some ⟨severity, String.ofList unit, line, String.ofList (Text.trim message), failure⟩

def ofLine? (line : String) : Option Diagnostic := readTrimmed? (Text.trimEnd line.toList)

def printAt (location : String) (d : Diagnostic) : String :=
  let code := match d.failure with
    | none => ""
    | some c => "[" ++ c.word ++ "]"
  s!"{location}:{d.line.toNat}: {d.severity.word}{code}: {d.message}"

end Diagnostic

end HotSchema
