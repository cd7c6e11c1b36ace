import HotSchema.Compiled.Loader
import HotSchema.Diagnostic.Token
import HotSchema.Session.Hub
import HotSchema.Source.Staging
import HotSchema.Toolchain.Basic
/-!
# Compile passes

One pass compiles a batch and installs the result: it puts the produced units into the library, resolves
the requested names through the loader, publishes one generation that replaces exactly those names and
drops the retired ones, forgets the retired units, records the digests, and tells the sessions.

Diagnostics that are errors keep all of that from happening. The digests of the batch are then forgotten,
so that its units are compiled again, and its removals are staged again, since they are handed out only
once. Diagnostics below an error are passed over.
-/

namespace HotSchema

structure CompileRequest where
  units : List SourceUnit
  removed : List String
  deriving DecidableEq

namespace CompileRequest

def isEmpty (r : CompileRequest) : Bool := r.units.isEmpty && r.removed.isEmpty

def names (r : CompileRequest) : List String := r.units.map SourceUnit.name

/-- The removals that the batch does not define anew. -/
def retiring (r : CompileRequest) : List String := r.removed.filter fun name => name ∉ r.names

end CompileRequest

structure CompileOutcome where
  success : Bool
  /-- The errors, located in the units of the batch. -/
  diagnostics : List Token
  loaded : List String
  retired : List String
  generation : Nat
  deriving DecidableEq

def CompileOutcome.noop (generation : Nat) : CompileOutcome := ⟨true, [], [], [], generation⟩

/-- What a pass reads and changes. -/
structure Stores where
  staging : Staging
  library : Library
  host : HostResolver
  registry : Registry LoadedType
  hub : Hub

/-- What a compiler call came to for its caller, and whether the caller had withdrawn by then. -/
structure CallEnd where
  result : Except EngineError CompilerOutput
  withdrawn : Bool

namespace Stores

def new (host : HostTypes) : Stores := ⟨.empty, ∅, host, Registry.new "types", .empty⟩

def errorTokens (batch : List SourceUnit) (diagnostics : List Diagnostic) : List Token :=
  (diagnostics.filter Diagnostic.isError).map fun d =>
    Token.correlate d (batch.find? (·.name == d.unit))

def reject (s : Stores) (r : CompileRequest) (errors : List Token) : CompileOutcome × Stores :=
  (⟨false, errors, [], [], s.registry.generation⟩,
    { s with staging := r.removed.foldl Staging.stageRemoval (s.staging.invalidate r.names) })

/-- Resolves names one after the other; a name that is not a dynamic type stops it. -/
def loadAll (library : Library) (host : HostResolver) : List String → Except String (List LoadedType)
  | [] => .ok []
  | name :: rest =>
    match library.load host name with
    | some t =>
      if t.origin = .dynamic then
        match loadAll library host rest with
        | .ok ts => .ok (t :: ts)
        | .error missing => .error missing
      else .error name
    | none => .error name

def install (s : Stores) (r : CompileRequest) (produced : List CompiledUnit)
    (origin : Option String) : Except EngineError CompileOutcome × Stores :=
  match r.names.find? fun name => name ∉ produced.map CompiledUnit.name with
  | some missing => (.error (.loaderInconsistency missing), s)
  | none =>
    let s := { s with library := s.library.insertAll produced }
    match loadAll s.library s.host r.names with
    | .error missing => (.error (.loaderInconsistency missing), s)
    | .ok loaded =>
      match s.registry.install loaded r.retiring with
      | (.error e, _) => (.error (.registry e), s)
      | (.ok report, registry) =>
        let event : CompiledEvent := ⟨true, report.generation, r.names ++ report.retired⟩
        (.ok ⟨true, [], r.names, report.retired, report.generation⟩,
          { s with
            registry
            library := s.library.eraseAll r.retiring
            staging := r.retiring.foldl (fun st name => (st.forget name).2)
              (s.staging.markCompiled r.units)
            hub := s.hub.publish event origin })

/-- Goes on after the compiler call of a pass, or without one if there was nothing to compile. -/
def conclude (s : Stores) (r : CompileRequest) (origin : Option String) (call : CallEnd) :
    Except EngineError CompileOutcome × Stores :=
  match call.result with
  | .error e => (.error e, s)
  | .ok output =>
    match errorTokens r.units output.diagnostics with
    | [] => if call.withdrawn then (.error .cancelled, s) else s.install r output.units origin
    | errors =>
      let (outcome, s) := s.reject r errors
      (.ok outcome, s)

/-- One pass. The compiler is called through `invoke`, which may read the stores and change a world of
its own; it is not called for an empty batch, nor after the caller withdrew. -/
def compile {ω : Type} (scope : String) (invoke : Stores → CompilerCall → ω → CallEnd × ω)
    (r : CompileRequest) (origin : Option String) (withdrawn : Bool) (s : Stores) (w : ω) :
    Except EngineError CompileOutcome × Stores × ω :=
  if r.isEmpty then (.ok (.noop s.registry.generation), s, w)
  else if r.units.isEmpty then
    let (outcome, s) := s.conclude r origin ⟨.ok .empty, withdrawn⟩
    (outcome, s, w)
  else if withdrawn then (.error .cancelled, s, w)
  else
    let (call, w) := invoke s ⟨r.units, s.library.listUnder scope⟩ w
    let (outcome, s) := s.conclude r origin call
    (outcome, s, w)

/-- Resolves a type for use. A registered type must have its unit in the library; names that are not
registered go through the loader. -/
def instantiate (s : Stores) (name : String) : Except EngineError LoadedType :=
  match s.registry.get? name with
  | some ref =>
    if ref.entry.origin = .dynamic && !s.library.contains name then
      .error (.loaderInconsistency name)
    else .ok ref.entry
  | none =>
    match s.library.load s.host name with
    | some t => .ok t
    | none => .error (.typeNotFound name)

end Stores

end HotSchema
