import HotSchema.Engine.History
import HotSchema.Proofs.Engine.Pass
/-!
# Runs of the engine

A cycle of a run can go in four ways: its pass ends in an error, its pass succeeds, healing finds nothing
to repair, or the schema was repaired and the next cycle follows. What holds along a whole run is proved
over these four, together with what the run's record says of its passes: what the steps of a run keep, a run
keeps. A call ends with the last of its runs, and what runs keep, calls keep, and so do histories.
-/

namespace HotSchema

namespace Engine

def fresh (settings : Settings) (host : HostTypes) (schema : Schema) (toolchain : Toolchain) : Engine :=
  ⟨settings, .new host, ⟨.new schema, toolchain, false, false, [], false⟩, .idle⟩

theorem new_eq_ok {settings : Settings} {host : HostTypes} {schema : Schema} {toolchain : Toolchain}
    {e : Engine} (h : Engine.new settings host schema toolchain = .ok e) :
    settings.validate = .ok () ∧ e = fresh settings host schema toolchain := by
  unfold Engine.new at h
  split at h
  · cases h
  · next hvalid =>
    cases h
    exact ⟨hvalid, rfl⟩

/-! ### Steps of a cycle -/

section

variable {origin : Option String} {result : Except EngineError CompileOutcome} {phase : Phase}
  {tokens : List Token} {repairs : List Repair} {e e' : Engine}

theorem follows_heal (e : Engine) (tokens : List Token) :
    e.around.service.Follows (e.heal tokens).2.around.service :=
  ⟨e.pipeline.keepsTrack_heal tokens e.schema, rfl, rfl, rfl⟩

theorem stores_of_heal (hheal : heal { e with phase } tokens = (repairs, e')) : e'.stores = e.stores := by
  cases hheal
  rfl

theorem continues_of_pass (hpass : pass { e with phase } origin = (result, e')) :
    ∃ entries, e.around.Continues e'.around (.askedForUnits :: entries) := by
  have hpassed := continues_pass { e with phase } origin
  rwa [hpass] at hpassed

theorem continues_of_heal (hheal : heal { e with phase } tokens = (repairs, e')) :
    e.around.Continues e'.around [] := by
  cases hheal
  exact .nil rfl rfl rfl rfl

theorem continues_regenerate (e : Engine) : e.around.Continues e.regenerate.around [] :=
  .nil rfl rfl rfl rfl

end

/-! ### Cycles -/

/-- What every step of the cycles of a run keeps true. -/
structure KeptByCycles (P : Engine → Prop) : Prop where
  phase : ∀ e phase, P e → P { e with phase }
  pass : ∀ e origin, P e → P (e.pass origin).2
  heal : ∀ e tokens, P e → P (e.heal tokens).2
  regenerate : ∀ e, P e → P e.regenerate

/-- What every step of a run keeps true. -/
structure KeptByRuns (P : Engine → Prop) : Prop extends KeptByCycles P where
  begin : ∀ e origin, P e → P (e.begin origin)

section

variable {P : Engine → Prop} (hkept : KeptByCycles P) {e e' : Engine} (he : P e)
include hkept he

theorem KeptByCycles.of_pass {origin : Option String} {result : Except EngineError CompileOutcome}
    (hpass : e.pass origin = (result, e')) : P e' := by
  have hpassed := hkept.pass e origin he
  rwa [hpass] at hpassed

theorem KeptByCycles.of_heal {tokens : List Token} {repairs : List Repair}
    (hheal : e.heal tokens = (repairs, e')) : P e' := by
  have hhealed := hkept.heal e tokens he
  rwa [hheal] at hhealed

end

theorem keptByRuns_inStep : KeptByRuns InStep where
  phase := fun _ _ he => ⟨he.stores, he.plain⟩
  begin := fun _ _ he => ⟨he.stores, he.plain⟩
  pass := fun _ origin he => (he.pass origin).1
  heal := fun e tokens he => he.of_follows rfl (e.follows_heal tokens)
  regenerate := fun e he => by
    have hkeeps : e.schema.KeepsTrack e.regenerate.schema := .of_eq rfl rfl rfl
    exact ⟨(he.stores.keepsTrack hkeeps).of_same rfl rfl rfl rfl rfl, he.plain.drafts, he.plain.extraRemoved,
      he.plain.later⟩

theorem keptByRuns_settings (settings : Settings) : KeptByRuns (fun e => e.settings = settings) where
  phase := fun _ _ he => he
  begin := fun _ _ he => he
  pass := fun e origin he => (e.settings_pass origin).trans he
  heal := fun _ _ he => he
  regenerate := fun _ he => he

/-- The report with one more pass counted. -/
def passed (report : HealReport) (outcome : CompileOutcome) : HealReport :=
  { report with cycles := report.cycles + 1, generation := outcome.generation }

/-- How a run goes: the cycles that are left, the report and the engine so far, what the run comes to, and
the passes it still makes. -/
inductive Cycles (origin : Option String) : Nat → HealReport → Engine →
    Except EngineError HealReport × Engine → List PassRecord → Prop where
  | exhausted {report : HealReport} {e : Engine} :
      Cycles origin 0 report e (.ok { report with exhausted := true }, { e with phase := .unrecoverable }) []
  | error {left : Nat} {report : HealReport} {e after : Engine} {error : EngineError}
      (hpass : pass { e with phase := .compiling } origin = (.error error, after)) :
      Cycles origin (left + 1) report e (.error error, after)
        [⟨{ e with phase := .compiling }, .error error, after⟩]
  | succeeded {left : Nat} {report : HealReport} {e after : Engine} {outcome : CompileOutcome}
      (hpass : pass { e with phase := .compiling } origin = (.ok outcome, after))
      (hsuccess : outcome.success = true) :
      Cycles origin (left + 1) report e
        (.ok { passed report outcome with
            success := true
            diagnostics := []
            loaded := report.loaded ++ outcome.loaded
            retired := report.retired ++ outcome.retired },
          { after with phase := .succeeded })
        [⟨{ e with phase := .compiling }, .ok outcome, after⟩]
  | unhealed {left : Nat} {report : HealReport} {e after healed : Engine} {outcome : CompileOutcome}
      (hpass : pass { e with phase := .compiling } origin = (.ok outcome, after))
      (hfails : outcome.success = false)
      (hheal : heal { after with phase := .healing } outcome.diagnostics = ([], healed)) :
      Cycles origin (left + 1) report e
        (.ok { passed report outcome with diagnostics := outcome.diagnostics },
          { healed with phase := .unrecoverable })
        [⟨{ e with phase := .compiling }, .ok outcome, after⟩]
  | healed {left : Nat} {report : HealReport} {e after healed : Engine} {outcome : CompileOutcome}
      {repairs : List Repair} {end_ : Except EngineError HealReport × Engine} {rest : List PassRecord}
      (hpass : pass { e with phase := .compiling } origin = (.ok outcome, after))
      (hfails : outcome.success = false)
      (hheal : heal { after with phase := .healing } outcome.diagnostics = (repairs, healed))
      (hrepairs : repairs ≠ [])
      (hrest : Cycles origin left
        { passed report outcome with
          diagnostics := outcome.diagnostics
          repairs := report.repairs ++ repairs } healed.regenerate end_ rest) :
      Cycles origin (left + 1) report e end_ (⟨{ e with phase := .compiling }, .ok outcome, after⟩ :: rest)

theorem cycles_cycles (origin : Option String) (left : Nat) (report : HealReport) (e : Engine) :
    Cycles origin left report e (cycles origin left report e) (passes origin left e) := by
  induction left generalizing report e with
  | zero => exact .exhausted
  | succ left ih =>
    unfold cycles passes
    dsimp only
    rcases hpass : pass { e with phase := .compiling } origin with ⟨error | outcome, after⟩
    · exact .error hpass
    · dsimp only
      by_cases hsuccess : outcome.success = true
      · rw [if_pos hsuccess, if_pos hsuccess]
        exact .succeeded hpass hsuccess
      · rw [if_neg hsuccess, if_neg hsuccess]
        have hfails : outcome.success = false := by simpa using hsuccess
        rcases hheal : heal { after with phase := .healing } outcome.diagnostics with
          ⟨_ | ⟨repair, repairs⟩, healed⟩
        · exact .unhealed hpass hfails hheal
        · exact .healed hpass hfails hheal (List.cons_ne_nil _ _) (ih _ _)

section

variable {origin : Option String} {left : Nat} {report : HealReport} {e : Engine}
  {end_ : Except EngineError HealReport × Engine} {records : List PassRecord}

/-- What the steps of a run keep, a run keeps; it holds before each of its passes, which are recorded as they
went. -/
theorem Cycles.preserves {P : Engine → Prop} (hkept : KeptByCycles P)
    (h : Cycles origin left report e end_ records) (he : P e) :
    P end_.2 ∧ ∀ p ∈ records, P p.before ∧ p.before.pass origin = (p.result, p.after) := by
  induction h with
  | exhausted => exact ⟨hkept.phase _ _ he, by simp⟩
  | error hpass =>
    have hbefore := hkept.phase _ .compiling he
    exact ⟨hkept.of_pass hbefore hpass, List.forall_mem_singleton.2 ⟨hbefore, hpass⟩⟩
  | succeeded hpass _ =>
    have hbefore := hkept.phase _ .compiling he
    have hafter := hkept.of_pass hbefore hpass
    exact ⟨hkept.phase _ _ hafter, List.forall_mem_singleton.2 ⟨hbefore, hpass⟩⟩
  | unhealed hpass _ hheal =>
    have hbefore := hkept.phase _ .compiling he
    have hafter := hkept.of_pass hbefore hpass
    have hhealed := hkept.of_heal (hkept.phase _ .healing hafter) hheal
    exact ⟨hkept.phase _ _ hhealed, List.forall_mem_singleton.2 ⟨hbefore, hpass⟩⟩
  | healed hpass _ hheal _ _ ih =>
    have hbefore := hkept.phase _ .compiling he
    have hafter := hkept.of_pass hbefore hpass
    have hhealed := hkept.of_heal (hkept.phase _ .healing hafter) hheal
    obtain ⟨hend, hrest⟩ := ih (hkept.regenerate _ hhealed)
    exact ⟨hend, List.forall_mem_cons.2 ⟨⟨hbefore, hpass⟩, hrest⟩⟩

/-- A run that succeeds ends with its last pass, which succeeded. -/
theorem Cycles.succeeded_last (h : Cycles origin left report e end_ records) (hreport : report.success = false)
    {report' : HealReport} (hok : end_.1 = .ok report') (hsuccess : report'.success = true) :
    ∃ p outcome, records.getLast? = some p ∧ p.result = .ok outcome ∧ outcome.success = true ∧
      end_.2 = { p.after with phase := .succeeded } := by
  induction h with
  | exhausted =>
    cases hok
    simp [hreport] at hsuccess
  | error => cases hok
  | succeeded _ houtcome => exact ⟨_, _, rfl, rfl, houtcome, rfl⟩
  | unhealed =>
    cases hok
    simp [passed, hreport] at hsuccess
  | healed _ _ _ _ _ ih =>
    obtain ⟨p, outcome, hp, hrest⟩ := ih hreport hok
    exact ⟨p, outcome, by rw [List.getLast?_cons, hp, Option.getD_some], hrest⟩

theorem Cycles.continues (h : Cycles origin left report e end_ records) :
    ∃ entries, e.around.Continues end_.2.around entries ∧
      (0 < left → ∃ rest, entries = .askedForUnits :: rest) := by
  induction h with
  | exhausted => exact ⟨[], .nil rfl rfl rfl rfl, by simp⟩
  | error hpass | succeeded hpass _ =>
    obtain ⟨entries, hpassed⟩ := continues_of_pass hpass
    exact ⟨_, hpassed, fun _ => ⟨_, rfl⟩⟩
  | unhealed hpass _ hheal =>
    obtain ⟨entries, hpassed⟩ := continues_of_pass hpass
    have hhealed := hpassed.trans (continues_of_heal hheal)
    exact ⟨_, hhealed, fun _ => ⟨_, rfl⟩⟩
  | healed hpass _ hheal _ _ ih =>
    obtain ⟨entries, hpassed⟩ := continues_of_pass hpass
    obtain ⟨rest, hrest, -⟩ := ih
    have hhealed := hpassed.trans (continues_of_heal hheal)
    have hregenerated := hhealed.trans (continues_regenerate _)
    exact ⟨_, hregenerated.trans hrest, fun _ => ⟨_, rfl⟩⟩

end

/-! ### One run -/

theorem eq_ok_of_toOption {ε α : Type} {x : Except ε α} {a : α} (h : x.toOption = some a) : x = .ok a := by
  cases x with
  | error => cases h
  | ok => exact congrArg Except.ok (Option.some.inj h)

/-- A run is its cycles; an error leaves the engine idle. -/
theorem runOnce_cases (e : Engine) (origin : Option String) :
    ∃ result e', Cycles origin e.settings.maxHealCycles .start (e.begin origin) (result, e')
        (e.record origin).passes ∧
      ((∃ report, result = .ok report ∧ e.runOnce origin = (.ok report, e')) ∨
        ∃ error, result = .error error ∧ e.runOnce origin = (.error error, { e' with phase := .idle })) := by
  have hcycles := cycles_cycles origin e.settings.maxHealCycles .start (e.begin origin)
  rcases hresult : cycles origin e.settings.maxHealCycles .start (e.begin origin) with ⟨error | report, e'⟩ <;>
    rw [hresult] at hcycles <;> rw [Engine.begin] at hresult
  · exact ⟨_, _, hcycles, Or.inr ⟨error, rfl, by simp only [runOnce, hresult]⟩⟩
  · exact ⟨_, _, hcycles, Or.inl ⟨report, rfl, by simp only [runOnce, hresult]⟩⟩

theorem cycles_of_report {e : Engine} {origin : Option String} {report : HealReport}
    (hok : (e.record origin).result = .ok report) : Cycles origin e.settings.maxHealCycles .start (e.begin origin)
      (.ok report, (e.record origin).after) (e.record origin).passes := by
  have hok : (e.runOnce origin).1 = .ok report := hok
  show Cycles origin _ .start _ (.ok report, (e.runOnce origin).2) _
  obtain ⟨result, e', hcycles, ⟨report', rfl, hrun⟩ | ⟨error, -, hrun⟩⟩ := e.runOnce_cases origin <;>
    rw [hrun] at hok ⊢ <;> cases hok
  exact hcycles

theorem cycles_of_error {e : Engine} {origin : Option String} {error : EngineError}
    (hfails : (e.record origin).result = .error error) :
    ∃ e', Cycles origin e.settings.maxHealCycles .start (e.begin origin) (.error error, e') (e.record origin).passes ∧
      (e.record origin).after = { e' with phase := .idle } := by
  have hfails : (e.runOnce origin).1 = .error error := hfails
  show ∃ e', _ ∧ (e.runOnce origin).2 = _
  obtain ⟨result, e', hcycles, ⟨report, -, hrun⟩ | ⟨error', rfl, hrun⟩⟩ := e.runOnce_cases origin <;>
    rw [hrun] at hfails ⊢ <;> cases hfails
  exact ⟨e', hcycles, rfl⟩

theorem runOnce_preserves {P : Engine → Prop} (hkept : KeptByRuns P) {e : Engine} (he : P e)
    (origin : Option String) : P (e.runOnce origin).2 := by
  obtain ⟨result, e', hcycles, ⟨report, -, hrun⟩ | ⟨error, -, hrun⟩⟩ := e.runOnce_cases origin <;>
    rw [hrun] <;> have hend := (hcycles.preserves hkept.toKeptByCycles (hkept.begin e origin he)).1
  · exact hend
  · exact hkept.phase _ _ hend

theorem forall_passes {P : Engine → Prop} (hkept : KeptByRuns P) {e : Engine} (he : P e)
    (origin : Option String) :
    ∀ p ∈ (e.record origin).passes, P p.before ∧ p.before.pass origin = (p.result, p.after) := by
  obtain ⟨result, e', hcycles, -⟩ := e.runOnce_cases origin
  exact (hcycles.preserves hkept.toKeptByCycles (hkept.begin e origin he)).2

theorem succeeded_record {e : Engine} {origin : Option String} {report : HealReport}
    (hok : (e.record origin).result = .ok report) (hsuccess : report.success = true) :
    ∃ p outcome, (e.record origin).passes.getLast? = some p ∧ p.result = .ok outcome ∧ outcome.success = true ∧
      (e.record origin).after = { p.after with phase := .succeeded } :=
  (cycles_of_report hok).succeeded_last rfl rfl hsuccess

theorem InStep.converged_record {e : Engine} (h : e.InStep) {origin : Option String} {report : HealReport}
    (hok : (e.record origin).result = .ok report) (hsuccess : report.success = true) :
    ∃ p, (e.record origin).passes.getLast? = some p ∧ (p.result, p.after) = p.before.pass origin ∧
      (e.record origin).after = { p.after with phase := .succeeded } ∧
      p.after.stores.Converged p.before.schema.live := by
  obtain ⟨p, outcome, hp, hresult, houtcome, hafter⟩ := succeeded_record hok hsuccess
  obtain ⟨hbefore, hpass⟩ := forall_passes keptByRuns_inStep h origin p (List.mem_of_getLast? hp)
  have hconverged := (hbefore.pass origin).2
  rw [hpass] at hconverged
  exact ⟨p, hp, hpass.symm, hafter, hconverged outcome hresult houtcome⟩

/-- Nobody takes the lock from who runs. -/
theorem keptByRuns_locked : KeptByRuns fun e => e.around.locked = true where
  phase := fun _ _ he => he
  begin := fun _ _ he => he
  pass := fun e origin he => by
    obtain ⟨entries, hcontinues⟩ := e.continues_pass origin
    exact hcontinues.locked he
  heal := fun _ _ he => he
  regenerate := fun _ he => he

/-- An engine that runs: the settings grant it a cycle, and the lock is held. -/
structure Ready (e : Engine) : Prop where
  granted : 0 < e.settings.maxHealCycles
  locked : e.around.locked = true

/-- What a run enters into the journal: that it began, that it asked for units, and the rest. It leaves the
surroundings pending exactly if a request is among that. -/
structure Ran (e : Engine) (origin : Option String) (e' : Engine) : Prop where
  settings : e'.settings = e.settings
  ready : e'.Ready
  journal : ∃ rest, e'.around.journal = e.around.journal ++ .began origin :: .askedForUnits :: rest ∧
    e'.around.pending = coalescedIn rest
  script : e'.around.pending = true → e'.around.toolchain.script.length < e.around.toolchain.script.length

theorem ran_runOnce {e : Engine} (h : e.Ready) (origin : Option String) :
    e.Ran origin (e.runOnce origin).2 := by
  obtain ⟨result, e', hcycles, hrun⟩ := e.runOnce_cases origin
  obtain ⟨entries, hcontinues, hasked⟩ := hcycles.continues
  obtain ⟨rest, rfl⟩ := hasked h.granted
  have hpending : e'.around.pending = coalescedIn rest := by
    rw [hcontinues.pending h.locked]
    simp [Engine.begin, JournalEntry.isCoalesced]
  have hsettings := (hcycles.preserves (keptByRuns_settings e.settings).toKeptByCycles rfl).1
  have hlocked := (hcycles.preserves keptByRuns_locked.toKeptByCycles h.locked).1
  have hran : e.Ran origin e' := by
    refine ⟨hsettings, ⟨hsettings ▸ h.granted, hlocked⟩, ⟨rest, ?_, hpending⟩, fun hp => ?_⟩
    · rw [hcontinues.journal]
      simp [Engine.begin, Surroundings.log]
    · exact hcontinues.spent (by simpa [JournalEntry.isCoalesced] using hpending.symm.trans hp)
  obtain ⟨report, -, hrun⟩ | ⟨error, -, hrun⟩ := hrun <;> rw [hrun]
  · exact hran
  · exact ⟨hran.settings, ⟨hran.ready.granted, hran.ready.locked⟩, hran.journal, hran.script⟩

/-! ### Calls -/

/-- A property of engines that every run preserves holds before each further run of a call. -/
theorem forall_servingRuns {P : Engine → Prop} {origin : Option String}
    (hrun : ∀ e, P e → P (e.runOnce origin).2) {fuel : Nat} {e : Engine} (he : P e) :
    ∀ r ∈ servingRuns origin fuel e, P r.before ∧ r = r.before.record origin := by
  induction fuel generalizing e with
  | zero => simp [servingRuns]
  | succ fuel ih =>
    unfold servingRuns
    split
    · intro r hr
      rcases List.mem_cons.1 hr with rfl | hr
      · exact ⟨he, rfl⟩
      · revert hr
        split
        · simp
        · exact ih (hrun e he) r
    · simp

/-- A call makes a first run, and serves what came meanwhile unless that run ended in an error. -/
theorem run_cases (e : Engine) (origin : Option String) (withdrawn : Bool) :
    ((∃ error, ((e.called withdrawn).record origin).result = .error error ∧
        e.run origin withdrawn = (.error error, ((e.called withdrawn).record origin).after.release)) ∧
      e.runs origin withdrawn = [(e.called withdrawn).record origin]) ∨
    ∃ report, ((e.called withdrawn).record origin).result = .ok report ∧
      let after := ((e.called withdrawn).record origin).after
      let fuel := after.around.toolchain.script.length + 1
      e.run origin withdrawn = serve origin fuel report after ∧
        e.runs origin withdrawn = (e.called withdrawn).record origin :: servingRuns origin fuel after := by
  unfold run exclusive runs record
  dsimp only
  rcases (e.called withdrawn).runOnce origin with ⟨error | report, e'⟩
  · exact Or.inl ⟨⟨error, rfl, rfl⟩, rfl⟩
  · exact Or.inr ⟨report, rfl, rfl, rfl⟩

theorem forall_runs {P : Engine → Prop} {origin : Option String} (hrun : ∀ e, P e → P (e.runOnce origin).2)
    {e : Engine} {withdrawn : Bool} (he : P (e.called withdrawn)) :
    ∀ r ∈ e.runs origin withdrawn, P r.before ∧ r = r.before.record origin := by
  intro r hr
  rcases e.run_cases origin withdrawn with ⟨-, hruns⟩ | ⟨report, -, -, hruns⟩ <;> rw [hruns] at hr
  · cases List.mem_singleton.1 hr
    exact ⟨he, rfl⟩
  · rcases List.mem_cons.1 hr with rfl | hr
    · exact ⟨he, rfl⟩
    · exact forall_servingRuns hrun (hrun _ he) r hr

/-- All runs of a call are made while the caller holds the lock. -/
theorem locked_of_mem_runs {e : Engine} {origin : Option String} {withdrawn : Bool} {r : RunRecord}
    (hr : r ∈ e.runs origin withdrawn) : r.before.around.locked = true :=
  (forall_runs (P := fun e => e.around.locked = true)
    (fun _ he => runOnce_preserves keptByRuns_locked he origin) rfl r hr).1

/-- One round of serving: a further run if one is pending, and else the end. No request comes while the lock is
released, so nobody takes it again. -/
theorem serve_succ (origin : Option String) (fuel : Nat) (report : HealReport) (e : Engine) :
    serve origin (fuel + 1) report e =
      if e.around.pending then
        match e.runOnce origin with
        | (.error error, e) => (.error error, e.release)
        | (.ok report, e) => serve origin fuel report e
      else (.ok report, e.release) := by
  rw [serve]
  split
  · rfl
  · next hidle =>
    have hreleased : ¬ e.release.around.pending = true := hidle
    dsimp only
    rw [if_neg hreleased]

theorem serve_eq_last (origin : Option String) (fuel : Nat) (report : HealReport) (e : Engine) :
    serve origin fuel report e =
      ((servingRuns origin fuel e).getLast?.map fun r => (r.result, r.after.release)).getD (.ok report, e.release) := by
  induction fuel generalizing report e with
  | zero => rfl
  | succ fuel ih =>
    rw [serve_succ]
    unfold servingRuns record
    dsimp only
    split
    · rcases e.runOnce origin with ⟨error | report', e'⟩
      · rfl
      · dsimp only
        rw [ih, List.getLast?_cons, Option.map_some, Option.getD_some]
        rcases (servingRuns origin fuel e').getLast? <;> rfl
    · rfl

/-- A call ends as its last run does, and releases the lock. -/
theorem run_eq_last (e : Engine) (origin : Option String) (withdrawn : Bool) :
    ∃ r, (e.runs origin withdrawn).getLast? = some r ∧ e.run origin withdrawn = (r.result, r.after.release) := by
  rcases e.run_cases origin withdrawn with ⟨⟨error, hresult, hrun⟩, hruns⟩ | ⟨report, hresult, hrun, hruns⟩ <;>
    rw [hrun, hruns]
  · exact ⟨_, rfl, Prod.ext hresult.symm rfl⟩
  · rw [serve_eq_last, ← hresult, List.getLast?_cons]
    rcases (servingRuns origin _ _).getLast? <;> exact ⟨_, rfl, rfl⟩

theorem run_preserves {P : Engine → Prop} {origin : Option String} (hrun : ∀ e, P e → P (e.runOnce origin).2)
    (hrelease : ∀ e, P e → P e.release) {e : Engine} {withdrawn : Bool} (he : P (e.called withdrawn)) :
    P (e.run origin withdrawn).2 := by
  obtain ⟨r, hlast, hr⟩ := e.run_eq_last origin withdrawn
  obtain ⟨hbefore, hrecord⟩ := forall_runs hrun he r (List.mem_of_getLast? hlast)
  rw [hr, hrecord]
  exact hrelease _ (hrun r.before hbefore)

/-! ### Histories -/

/-- What every event keeps true, and every step of the runs. -/
structure KeptByEvents (P : Engine → Prop) : Prop extends KeptByRuns P where
  called : ∀ e withdrawn, P e → P (e.called withdrawn)
  release : ∀ e, P e → P e.release
  edit : ∀ e edit, P e → P (e.edit edit).2
  script : ∀ e turns, P e → P (e.take (.script turns))
  failRequests : ∀ e count, P e → P (e.take (.failRequests count))
  hub : ∀ e hub, P e → P (e.withHub hub)
  reset : ∀ e, P e → P e.reset

theorem keptByEvents_settings (settings : Settings) : KeptByEvents fun e => e.settings = settings where
  toKeptByRuns := keptByRuns_settings settings
  called := fun _ _ he => he
  release := fun _ he => he
  edit := fun _ _ he => he
  script := fun _ _ he => he
  failRequests := fun _ _ he => he
  hub := fun _ _ he => he
  reset := fun _ he => he

section

variable {P : Engine → Prop} (hkept : KeptByEvents P) {e : Engine} (he : P e)
include hkept he

theorem take_preserves (event : Event) : P (e.take event) := by
  cases event with
  | edit edit => exact hkept.edit e edit he
  | script turns => exact hkept.script e turns he
  | failRequests count => exact hkept.failRequests e count he
  | subscribe _ | unsubscribe _ | receive _ => exact hkept.hub e _ he
  | run origin withdrawn =>
    have hrun (e : Engine) (he : P e) : P (e.runOnce origin).2 := runOnce_preserves hkept.toKeptByRuns he origin
    exact run_preserves hrun hkept.release (e := e) (hkept.called e withdrawn he)
  | reset => exact hkept.reset e he

theorem after_preserves (history : List Event) : P (e.after history) := by
  induction history generalizing e with
  | nil => exact he
  | cons event rest ih => exact ih (take_preserves hkept he event)

/-- Each run of a history is recorded as it went. -/
theorem forall_runsIn (history : List Event) :
    ∀ r ∈ e.runsIn history, P r.before ∧ r = r.before.record r.origin := by
  induction history generalizing e with
  | nil => simp [runsIn]
  | cons event rest ih =>
    intro r hr
    rcases List.mem_append.1 hr with hr | hr
    · cases event with
      | run origin withdrawn =>
        have hrun (e : Engine) (he : P e) : P (e.runOnce origin).2 :=
          runOnce_preserves hkept.toKeptByRuns he origin
        obtain ⟨hbefore, hrecord⟩ := forall_runs hrun (hkept.called e withdrawn he) r hr
        exact ⟨hbefore, by rw [hrecord]; rfl⟩
      | _ => simp [runsOf] at hr
    · exact ih (take_preserves hkept he event) r hr

end

theorem locked_of_mem_runsIn {e : Engine} {history : List Event} {r : RunRecord} (hr : r ∈ e.runsIn history) :
    r.before.around.locked = true := by
  induction history generalizing e with
  | nil => cases hr
  | cons event rest ih =>
    rcases List.mem_append.1 hr with hr | hr
    · cases event with
      | run origin withdrawn => exact locked_of_mem_runs hr
      | _ => cases hr
    · exact ih hr

theorem runsIn_append (e : Engine) (before later : List Event) :
    e.runsIn (before ++ later) = e.runsIn before ++ (e.after before).runsIn later := by
  induction before generalizing e with
  | nil => rfl
  | cons event rest ih => rw [List.cons_append, runsIn, runsIn, ih, List.append_assoc]; rfl

theorem record_mem_runsIn (e : Engine) (before : List Event) (origin : Option String) (withdrawn : Bool) :
    ((e.after before).called withdrawn).record origin ∈ e.runsIn (before ++ [.run origin withdrawn]) := by
  rw [runsIn_append]
  exact List.mem_append_right _ List.mem_cons_self

end Engine

end HotSchema
