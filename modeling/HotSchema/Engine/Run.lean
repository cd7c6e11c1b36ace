import HotSchema.Engine.Basic
/-!
# Runs

A run compiles until the schema compiles or nothing more can be done. Each pass asks the schema service
for units, stages them, and compiles what changed. If the pass fails, a healing pass repairs the schema;
with no repair the run ends without success, and else everything is generated and compiled again, up to
the number of cycles that the settings allow. A pass that ends in an error puts its batch back.

Who runs holds a lock, so requests that come while a run is active do not start a run of their own. When the
run is over, one more is made for all of them, and so on until a run ends with no request left.
-/

namespace HotSchema

structure HealReport where
  success : Bool
  /-- Compile passes made. -/
  cycles : Nat
  generation : Nat
  loaded : List String
  retired : List String
  /-- Diagnostics of the last pass if it failed. -/
  diagnostics : List Token
  repairs : List Repair
  /-- The cycles were used up before the schema compiled. -/
  exhausted : Bool
  deriving DecidableEq

def HealReport.start : HealReport := ⟨false, 0, 0, [], [], [], [], false⟩

/-- What a request for a run comes to. -/
inductive RunOutcome where
  | completed (report : HealReport)
  | coalesced
  deriving DecidableEq

namespace Engine

/-- Takes a batch in and takes the whole request out. -/
def stage (e : Engine) (batch : SourceBatch) : CompileRequest × Engine :=
  let staging := e.stores.staging.take batch.units batch.removed
  let (units, staging) := staging.takeDirty
  let (removed, staging) := staging.takeRemoved
  (⟨units, removed⟩, { e with stores := { e.stores with staging } })

/-- Puts the batch of a pass that ended in an error back, so that the next run tries it again. -/
def restage (e : Engine) (r : CompileRequest) : Engine :=
  { e with stores := { e.stores with staging := e.stores.staging.take r.units r.removed } }

def askForUnits (e : Engine) : Except EngineError SourceBatch × Engine :=
  let (batch, service) := e.around.service.request
  (batch, { e with around := { e.around.log .askedForUnits with service } })

def compile (e : Engine) (origin : Option String) (r : CompileRequest) :
    Except EngineError CompileOutcome × Engine :=
  let invoke := Surroundings.call e.settings.timeoutSecs e.phase
  let (outcome, stores, around) :=
    Stores.compile e.settings.scope invoke r origin e.around.withdrawn e.stores e.around
  (outcome, { e with stores, around })

def pass (e : Engine) (origin : Option String) : Except EngineError CompileOutcome × Engine :=
  match e.askForUnits with
  | (.error error, e) => (.error error, e)
  | (.ok batch, e) =>
    let (request, e) := e.stage batch
    match e.compile origin request with
    | (.error error, e) => (.error error, e.restage request)
    | (.ok outcome, e) => (.ok outcome, e)

def heal (e : Engine) (tokens : List Token) : List Repair × Engine :=
  let (repairs, schema) := e.pipeline.heal tokens e.schema
  (repairs, { e with around := { e.around with service := { e.around.service with schema } } })

/-- Makes the next pass generate and compile everything. -/
def regenerate (e : Engine) : Engine :=
  { e with
    phase := .regenerating
    stores := { e.stores with staging := e.stores.staging.requestFullRebuild }
    around := { e.around with
      service := { e.around.service with schema := e.schema.notifyChanged } } }

def cycles (origin : Option String) :
    Nat → HealReport → Engine → Except EngineError HealReport × Engine
  | 0, report, e => (.ok { report with exhausted := true }, { e with phase := .unrecoverable })
  | left + 1, report, e =>
    match pass { e with phase := .compiling } origin with
    | (.error error, e) => (.error error, e)
    | (.ok outcome, e) =>
      let report := { report with cycles := report.cycles + 1, generation := outcome.generation }
      if outcome.success then
        (.ok { report with
            success := true
            diagnostics := []
            loaded := report.loaded ++ outcome.loaded
            retired := report.retired ++ outcome.retired },
          { e with phase := .succeeded })
      else
        match heal { e with phase := .healing } outcome.diagnostics with
        | ([], e) =>
          (.ok { report with diagnostics := outcome.diagnostics }, { e with phase := .unrecoverable })
        | (repairs, e) =>
          cycles origin left
            { report with
              diagnostics := outcome.diagnostics
              repairs := report.repairs ++ repairs }
            e.regenerate

/-- One run; an error leaves the engine idle. -/
def runOnce (e : Engine) (origin : Option String) : Except EngineError HealReport × Engine :=
  let e := { e with around := { e.around.log (.began origin) with pending := false } }
  match cycles origin e.settings.maxHealCycles .start e with
  | (.error error, e) => (.error error, { e with phase := .idle })
  | (.ok report, e) => (.ok report, e)

def release (e : Engine) : Engine := { e with around := e.around.unlock }

@[simp] theorem pending_release (e : Engine) : e.release.around.pending = e.around.pending := rfl

@[simp] theorem journal_release (e : Engine) : e.release.around.journal = e.around.journal := rfl

/-- Further runs for requests that came during the run before, and the end of the call, which releases the lock. Only
a turn of the script makes such a request, so there are at most as many runs as turns are left, and one more. -/
def serve (origin : Option String) :
    Nat → HealReport → Engine → Except EngineError HealReport × Engine
  | 0, report, e => (.ok report, e.release)
  | more + 1, report, e =>
    if e.around.pending then
      match e.runOnce origin with
      | (.error error, e) => (.error error, e.release)
      | (.ok report, e) => serve origin more report e
    else
      let e := e.release
      -- A request that came before the lock was free again found it held, and would be served by nobody else.
      if e.around.pending then
        match e.around.tryLock with
        | none => (.ok report, e)
        | some around => serve origin more report { e with around }
      else (.ok report, e)

/-- What the holder of the lock does: a run, and more for what is asked for meanwhile. -/
def exclusive (e : Engine) (origin : Option String) : Except EngineError HealReport × Engine :=
  match e.runOnce origin with
  | (.error error, e) => (.error error, e.release)
  | (.ok report, e) => serve origin (e.around.toolchain.script.length + 1) report e

/-- The engine that a call runs, once the caller holds the lock. `withdrawn` tells that the caller withdrew before. -/
def called (e : Engine) (withdrawn : Bool) : Engine :=
  { e with around := { e.around with withdrawn, locked := true } }

/-- Waits for the lock, and runs. -/
def run (e : Engine) (origin : Option String) (withdrawn : Bool) :
    Except EngineError HealReport × Engine :=
  (e.called withdrawn).exclusive origin

/-- Asks for a run, and makes it unless one is active. -/
def requestCompile (e : Engine) (origin : Option String) (withdrawn : Bool) :
    Except EngineError RunOutcome × Engine :=
  match e.around.requestRun origin with
  | (.coalesced, around) => (.ok .coalesced, { e with around })
  | (.admitted, around) =>
    let (result, e) := exclusive { e with around := { around with withdrawn } } origin
    (result.map .completed, e)

end Engine

end HotSchema
