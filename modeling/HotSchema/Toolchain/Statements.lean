import HotSchema.Toolchain.Basic
/-!
# The statement compiler

A small compiler for texts of one statement a line. An import and a base type need a known package; a
property or method may be defined once in a unit, and a method may not take a base method's name; a call
needs a method of that name in the unit. A line that begins with an exclamation mark is an error in
words of its own, one with a tilde is a warning. Every other line is accepted.

Each finding belongs to a failure class. The compiler can be told to name it with the diagnostic.
-/

namespace HotSchema

namespace Statements

def knownPackages : List String := ["core"]

/-- The methods that every type has and none may define. -/
def baseMethods : List String := ["toString", "hashCode"]

inductive Statement where
  | warning (message : String)
  | failure (message : String)
  | needsPackage (name : String)
  | property (name : String)
  /-- A method definition; `target` is the method that it is exactly said to call. -/
  | method (name : String) (target : Option String)
  | call (target : String)
  | other
  deriving DecidableEq

def wordsOf (line : String) : List String := (Text.words line.toList).map String.ofList

def ofWords : List String → Statement
  | ["import", package] => .needsPackage package
  | ["type", _, "uses", package] => .needsPackage package
  | ["property", name] => .property name
  | ["method", name, "calls", target] => .method name (some target)
  | "method" :: name :: _ => .method name none
  | ["call", target] => .call target
  | _ => .other

def ofLine (line : String) : Statement :=
  match Text.trim line.toList with
  | '~' :: message => .warning (String.ofList message)
  | '!' :: message => .failure (String.ofList message)
  | trimmed => ofWords (wordsOf (String.ofList trimmed))

def methodsOf (lines : List String) : List String :=
  lines.filterMap fun line =>
    match wordsOf line with
    | "method" :: name :: _ => some name
    | _ => none

/-- An error of a class, if it has one. -/
abbrev Finding := Option FailureClass × String

def checkPackage (name : String) : List Finding :=
  if name ∈ knownPackages then []
  else [(some .unresolvedImport, s!"package {name} does not exist")]

def checkTarget (methods : List String) (target : String) : List Finding :=
  if target ∈ methods then [] else [(some .unknownSymbol, s!"cannot find symbol {target}")]

def checkNew (defined : List String) (name : String) (isMethod : Bool) : List Finding :=
  if name ∈ defined then [(some .duplicateDefinition, s!"duplicate definition of `{name}`")]
  else if isMethod && name ∈ baseMethods then
    [(some .signatureClash, s!"{name}() clashes with base definition")]
  else []

/-- The errors of a statement, given the methods of the unit and the names defined before. -/
def check (methods defined : List String) : Statement → List Finding
  | .warning _ => []
  | .failure message => [(none, message)]
  | .needsPackage name => checkPackage name
  | .property name => checkNew defined name false
  | .method name target =>
    checkNew defined name true ++ (target.map (checkTarget methods)).getD []
  | .call target => checkTarget methods target
  | .other => []

def defines : Statement → Option String
  | .property name => some name
  | .method name _ => some name
  | _ => none

def diagnose (classify : Bool) (unit : String) (methods : List String) :
    List String → UInt32 → List String → List Diagnostic
  | _, _, [] => []
  | defined, line, text :: rest =>
    let statement := ofLine text
    let warnings : List Diagnostic := match statement with
      | .warning message => [⟨.warning, unit, line, message, none⟩]
      | _ => []
    let errors := (check methods defined statement).map fun (failure, message) =>
      (⟨.error, unit, line, message, if classify then failure else none⟩ : Diagnostic)
    warnings ++ errors
      ++ diagnose classify unit methods ((defines statement).toList ++ defined) (line + 1) rest

def diagnoseUnit (classify : Bool) (unit : SourceUnit) : List Diagnostic :=
  let lines := Text.linesOf unit.text
  diagnose classify unit.name (methodsOf lines) [] 1 lines

def output (classify : Bool) (batch : List SourceUnit) : CompilerOutput :=
  let diagnostics := batch.flatMap (diagnoseUnit classify)
  ⟨diagnostics, if diagnostics.any Diagnostic.isError then [] else echoUnits batch⟩

end Statements

/-- The statement compiler; it names failure classes if `classify` is set. -/
def Compiler.statements (classify : Bool) : Compiler := fun call =>
  ⟨.immediate, .ok (Statements.output classify call.batch)⟩

end HotSchema
