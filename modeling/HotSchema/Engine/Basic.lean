import HotSchema.Compile.Pass
import HotSchema.Healing.Pass
import HotSchema.Toolchain.Script
/-!
# The engine

The engine keeps a schema, the stores that compile passes work on, and a toolchain. Around the stores is
everything that may change while a compiler runs: the schema service, the script, whether the caller
withdrew, whether somebody asked for another run, whether a run is active, and the journal.

The journal lists what the engine did, in order: runs, requests for units, compiler calls, and requests
for a run that came while one was active.
-/

namespace HotSchema

inductive Phase where
  | idle
  | compiling
  | healing
  | regenerating
  | succeeded
  | unrecoverable
  deriving DecidableEq

def Phase.word : Phase → String
  | idle => "idle"
  | compiling => "compiling"
  | healing => "healing"
  | regenerating => "regenerating"
  | succeeded => "succeeded"
  | unrecoverable => "unrecoverable"

/-- A unit before its spans were checked. -/
structure UnitDraft where
  name : String
  text : String
  spans : List SourceSpan
  deriving DecidableEq

def UnitDraft.build (d : UnitDraft) : Except SourceError SourceUnit :=
  SourceUnit.ofSpans d.name d.text d.spans

/-- What a service hands out beside the schema's own batch. -/
structure Supplement where
  drafts : List UnitDraft
  removed : List String

/-- The schema as a service that hands out units. Beside the schema's own batch it can hand out others,
so that the batches may be any whatsoever, and it can be made to fail. -/
structure Service where
  schema : Schema
  failing : Nat
  drafts : List UnitDraft
  extraRemoved : List String
  /-- What goes out beside the schema's batch in the requests after the next, one for each. -/
  later : List Supplement

namespace Service

def new (schema : Schema) : Service := ⟨schema, 0, [], [], []⟩

/-- Gets ready for the next request, once a batch went out. -/
def advance (s : Service) : Service :=
  match s.later with
  | [] => { s with drafts := [], extraRemoved := [] }
  | next :: rest => { s with drafts := next.drafts, extraRemoved := next.removed, later := rest }

def buildAll : List UnitDraft → Except SourceError (List SourceUnit)
  | [] => .ok []
  | d :: rest =>
    match d.build with
    | .error e => .error e
    | .ok unit =>
      match buildAll rest with
      | .error e => .error e
      | .ok units => .ok (unit :: units)

/-- Hands out the schema's batch with the extra units and removals behind it. Extra units are tried
once; extra removals wait until a batch goes out. -/
def request (s : Service) : Except EngineError SourceBatch × Service :=
  if 0 < s.failing then (.error (.schemaService "injected"), { s with failing := s.failing - 1 })
  else
    let s' := { s with drafts := [] }
    match buildAll s.drafts with
    | .error e => (.error (.source e), s')
    | .ok units =>
      match s.schema.request with
      | (.error e, schema) => (.error (.source e), { s' with schema })
      | (.ok batch, schema) =>
        (.ok ⟨batch.units ++ units, batch.removed ++ s.extraRemoved⟩, { s' with schema }.advance)

end Service

/-- What becomes of a request for a run. -/
inductive Admission where
  /-- The run that is active serves the request, or one that ended meanwhile did. -/
  | coalesced
  /-- The lock is the asker's now, who is to make the run. -/
  | admitted
  deriving DecidableEq

inductive Finding where
  | done
  | edited (result : EditResult)
  | requested (admission : Admission)
  | phase (phase : Phase)
  | instantiated (result : Except EngineError LoadedType)

inductive JournalEntry where
  | began (origin : Option String)
  | askedForUnits
  | coalesced (origin : Option String)
  | called (call : CompilerCall) (during : List Finding)

/-- What may change while a compiler runs. -/
structure Surroundings where
  service : Service
  toolchain : Toolchain
  /-- The caller of the active run withdrew. -/
  withdrawn : Bool
  /-- A run was asked for that no run has served yet. -/
  pending : Bool
  journal : List JournalEntry
  /-- Somebody holds the lock, as all do that run. -/
  locked : Bool

namespace Surroundings

def log (w : Surroundings) (entry : JournalEntry) : Surroundings :=
  { w with journal := w.journal ++ [entry] }

/-! ### The lock -/

def tryLock (w : Surroundings) : Option Surroundings :=
  if w.locked then none else some { w with locked := true }

def unlock (w : Surroundings) : Surroundings := { w with locked := false }

/-- Takes back the note that a run was asked for, and tells whether there was one. -/
def takePending (w : Surroundings) : Bool × Surroundings := (w.pending, { w with pending := false })

/-- What becomes of a request that was taken note of: it waits for the active run to end, if there is one. Else the
asker takes the lock, and the note back. -/
def tryEnter (origin : Option String) (w : Surroundings) : Admission × Surroundings :=
  match w.tryLock with
  | none => (.coalesced, w.log (.coalesced origin))
  | some w =>
    match w.takePending with
    | (true, w) => (.admitted, w)
    -- A run that ended after the note was taken served it.
    | (false, w) => (.coalesced, w.unlock)

def requestRun (origin : Option String) (w : Surroundings) : Admission × Surroundings :=
  tryEnter origin { w with pending := true }

/-! ### Compiler calls -/

/-- What an interjection does. -/
def interject (phase : Phase) (stores : Stores) (w : Surroundings) :
    Interjection → Finding × Surroundings
  | .edit edit =>
    let (result, schema) := w.service.schema.edit edit
    (.edited result, { w with service := { w.service with schema } })
  | .requestCompile origin =>
    let (admission, w) := w.requestRun origin
    (.requested admission, w)
  | .withdraw => (.done, { w with withdrawn := true })
  | .askPhase => (.phase phase, w)
  | .instantiate name => (.instantiated (stores.instantiate name), w)

def interjectAll (phase : Phase) (stores : Stores) :
    List Interjection → Surroundings → List Finding × Surroundings
  | [], w => ([], w)
  | i :: rest, w =>
    let (finding, w) := w.interject phase stores i
    let (findings, w) := interjectAll phase stores rest w
    (finding :: findings, w)

/-- A compiler call: the next turn of the script, with all that happens while it runs. -/
def call (budget : Nat) (phase : Phase) (stores : Stores) (c : CompilerCall) (w : Surroundings) :
    CallEnd × Surroundings :=
  let (turn, toolchain) := w.toolchain.next
  let (findings, w) := interjectAll phase stores turn.during { w with toolchain }
  let w := w.log (.called c findings)
  (⟨(turn.respond w.toolchain.compiler c).settle budget w.withdrawn, w.withdrawn⟩, w)

end Surroundings

structure Engine where
  settings : Settings
  stores : Stores
  around : Surroundings
  phase : Phase

namespace Engine

def new (settings : Settings) (host : HostTypes) (schema : Schema) (toolchain : Toolchain) :
    Except EngineError Engine :=
  match settings.validate with
  | .error e => .error (.settings e)
  | .ok () =>
    .ok
      { settings
        stores := Stores.new host
        around := ⟨Service.new schema, toolchain, false, false, [], false⟩
        phase := .idle }

def schema (e : Engine) : Schema := e.around.service.schema

def pipeline (e : Engine) : Pipeline :=
  Pipeline.standard (LegacySignatures.ofTexts e.settings.legacyMethods)

def edit (e : Engine) (edit : Edit) : EditResult × Engine :=
  let (result, schema) := e.schema.edit edit
  (result, { e with around := { e.around with service := { e.around.service with schema } } })

def instantiate (e : Engine) (name : String) : Except EngineError LoadedType :=
  e.stores.instantiate name

/-- Drops all compiled state: what is staged and recorded, the compiled units and the registry's
entries. -/
def reset (e : Engine) : Engine :=
  { e with
    stores := { e.stores with
      staging := .empty
      registry := e.stores.registry.reset
      library := ∅ }
    phase := .idle }

end Engine

end HotSchema
