import HotSchema.Engine.Run
/-!
# Histories

A history is what happens to an engine from outside, one event after the other. A call of the engine
makes one run and then one more for as long as requests came meanwhile; a run makes one pass or several.
Runs and passes are recorded here with the engine before and after each, so that a statement can be about
any of them, and not only about the last run of a call.
-/

namespace HotSchema

structure PassRecord where
  before : Engine
  result : Except EngineError CompileOutcome
  after : Engine

structure RunRecord where
  origin : Option String
  before : Engine
  passes : List PassRecord
  result : Except EngineError HealReport
  after : Engine

def RunRecord.journal (r : RunRecord) : List JournalEntry :=
  r.after.around.journal.drop r.before.around.journal.length

/-- One thing that happens to an engine while no run is active. -/
inductive Event where
  | edit (edit : Edit)
  | script (turns : List (Option Turn))
  | failRequests (count : Nat)
  | subscribe (session : String)
  | unsubscribe (number : Nat)
  | receive (number : Nat)
  /-- Somebody calls for a run, perhaps after withdrawing already. -/
  | run (origin : Option String) (withdrawn : Bool)
  | reset

namespace Engine

/-! ### Recording -/

/-- The engine at the start of a run: what was asked for before is what the run serves. -/
def begin (e : Engine) (origin : Option String) : Engine :=
  { e with around := { e.around.log (.began origin) with pending := false } }

/-- The passes of a run that has `left` cycles to go. -/
def passes (origin : Option String) : Nat → Engine → List PassRecord
  | 0, _ => []
  | left + 1, e =>
    let before := { e with phase := .compiling }
    let (result, after) := before.pass origin
    ⟨before, result, after⟩ ::
      match result with
      | .error _ => []
      | .ok outcome =>
        if outcome.success then []
        else
          match heal { after with phase := .healing } outcome.diagnostics with
          | ([], _) => []
          | (_, e) => passes origin left e.regenerate

def record (e : Engine) (origin : Option String) : RunRecord :=
  let (result, after) := e.runOnce origin
  ⟨origin, e, passes origin e.settings.maxHealCycles (e.begin origin), result, after⟩

def servingRuns (origin : Option String) : Nat → Engine → List RunRecord
  | 0, _ => []
  | more + 1, e =>
    if e.around.pending then
      let r := e.record origin
      r ::
        match r.result with
        | .error _ => []
        | .ok _ => servingRuns origin more r.after
    else []

def runs (e : Engine) (origin : Option String) (withdrawn : Bool) : List RunRecord :=
  let r := (e.called withdrawn).record origin
  r ::
    match r.result with
    | .error _ => []
    | .ok _ => servingRuns origin (r.after.around.toolchain.script.length + 1) r.after

/-! ### Events -/

def withHub (e : Engine) (hub : Hub) : Engine := { e with stores := { e.stores with hub } }

def take (e : Engine) : Event → Engine
  | .edit edit => (e.edit edit).2
  | .script turns =>
    let toolchain := e.around.toolchain
    { e with around := { e.around with
        toolchain := { toolchain with script := toolchain.script ++ turns } } }
  | .failRequests count =>
    { e with around := { e.around with service := { e.around.service with failing := count } } }
  | .subscribe session => e.withHub (e.stores.hub.subscribe session).2
  | .unsubscribe number => e.withHub (e.stores.hub.drop number)
  | .receive number => e.withHub (e.stores.hub.receive number).2
  | .run origin withdrawn => (e.run origin withdrawn).2
  | .reset => e.reset

def after (e : Engine) (history : List Event) : Engine := history.foldl take e

def runsOf (e : Engine) : Event → List RunRecord
  | .run origin withdrawn => e.runs origin withdrawn
  | _ => []

def runsIn (e : Engine) : List Event → List RunRecord
  | [] => []
  | event :: rest => e.runsOf event ++ (e.take event).runsIn rest

end Engine

end HotSchema
