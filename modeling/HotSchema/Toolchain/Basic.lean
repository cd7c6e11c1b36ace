import HotSchema.Compiled.Library
import HotSchema.Diagnostic.Basic
import HotSchema.Error
/-!
# Compilers

A compiler takes a batch of source units together with the units compiled before, its siblings. It
reports diagnostics, and compiled units if none of the diagnostics is an error. Failing to compile is a
report; an error means that the compiler itself could not run.

A call takes time. What its caller gets depends on that time, on the budget for it, and on whether the
caller withdrew while the call ran.
-/

namespace HotSchema

structure CompilerCall where
  batch : List SourceUnit
  siblings : List CompiledUnit
  deriving DecidableEq

/-- All that a compiler reported, diagnostics in the order in which they came. -/
structure CompilerOutput where
  diagnostics : List Diagnostic
  units : List CompiledUnit
  deriving DecidableEq

namespace CompilerOutput

def empty : CompilerOutput := ⟨[], []⟩

def hasErrors (o : CompilerOutput) : Bool := o.diagnostics.any Diagnostic.isError

end CompilerOutput

def echoUnits (batch : List SourceUnit) : List CompiledUnit :=
  batch.map fun unit => .ofText unit.name unit.text

inductive Duration where
  /-- The call returns without waiting. -/
  | immediate
  | seconds (n : Nat)
  | endless
  deriving DecidableEq

structure Response where
  duration : Duration
  result : Except EngineError CompilerOutput

/-- What the caller gets. A call that does not wait is never interrupted; one that waits gives way to a
withdrawal at once, and else to the end of its budget, which it may use up. -/
def Response.settle (r : Response) (budget : Nat) (withdrawn : Bool) :
    Except EngineError CompilerOutput :=
  let waited (inTime : Bool) : Except EngineError CompilerOutput :=
    if withdrawn then .error .cancelled
    else if inTime then r.result
    else .error (.toolchainTimeout budget)
  match r.duration with
  | .immediate => r.result
  | .seconds n => if n = 0 then r.result else waited (n ≤ budget)
  | .endless => waited false

abbrev Compiler := CompilerCall → Response

def Compiler.echo : Compiler := fun call => ⟨.immediate, .ok ⟨[], echoUnits call.batch⟩⟩

end HotSchema
