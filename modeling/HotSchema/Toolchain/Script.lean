import HotSchema.Diagnostic.Line
import HotSchema.Schema.Edit
import HotSchema.Toolchain.Basic
/-!
# Scripted toolchains

A toolchain is a compiler with a script for its next calls. Each call takes the next turn of the script,
which says what happens while the call runs, how long it takes and what it answers; with no turn left,
the compiler answers by itself. Any behaviour of a compiler over finitely many calls is a script.
-/

namespace HotSchema

inductive Interjection where
  | edit (edit : Edit)
  /-- Somebody asks for a compile; the name is the session that asks, if it is one. -/
  | requestCompile (origin : Option String)
  | withdraw
  | askPhase
  | instantiate (name : String)

inductive Reply where
  /-- What the compiler says. -/
  | compiled
  | fails (error : EngineError)
  /-- The given diagnostics, then those that the lines hold. Unless units are given, every unit of the
  batch compiles to its text if no diagnostic is an error. -/
  | reports (diagnostics : List Diagnostic) (lines : List String) (units : Option (List CompiledUnit))

structure Turn where
  during : List Interjection
  duration : Duration
  reply : Reply

namespace Turn

/-- A turn that leaves everything to the compiler. -/
def ordinary : Turn := ⟨[], .immediate, .compiled⟩

def respond (t : Turn) (compiler : Compiler) (call : CompilerCall) : Response :=
  match t.reply with
  | .compiled =>
    let r := compiler call
    if t.duration = .immediate then r else { r with duration := t.duration }
  | .fails error => ⟨t.duration, .error error⟩
  | .reports diagnostics lines units =>
    let diagnostics := diagnostics ++ lines.filterMap Diagnostic.ofLine?
    let echoed := if diagnostics.any Diagnostic.isError then [] else echoUnits call.batch
    ⟨t.duration, .ok ⟨diagnostics, units.getD echoed⟩⟩

end Turn

structure Toolchain where
  compiler : Compiler
  /-- The next turns; a missing one is ordinary. -/
  script : List (Option Turn)

namespace Toolchain

def next (t : Toolchain) : Turn × Toolchain :=
  match t.script with
  | [] => (.ordinary, t)
  | turn :: rest => (turn.getD .ordinary, { t with script := rest })

end Toolchain

end HotSchema
