import HotSchema.Proofs.Engine.Run
import HotSchema.Proofs.Toolchain.Wording
/-!
# Runs with and without failure classes

The statement compiler says the same whether it names failure classes or not. So a run goes the same way with
both, step by step, as long as every message of a class fits the pattern of that class: then healing plans the
same repairs. A name that the pattern does not accept makes a difference, and there the class is needed.
-/

namespace HotSchema

def CompilerOutput.unclassified (o : CompilerOutput) : CompilerOutput :=
  { o with diagnostics := o.diagnostics.map Diagnostic.unclassified }

def CallEnd.unclassified (call : CallEnd) : CallEnd :=
  { call with result := call.result.map CompilerOutput.unclassified }

def CompileOutcome.unclassified (o : CompileOutcome) : CompileOutcome :=
  { o with diagnostics := o.diagnostics.map Token.unclassified }

def HealReport.unclassified (report : HealReport) : HealReport :=
  { report with diagnostics := report.diagnostics.map Token.unclassified }

/-! ### The compiler -/

namespace Statements

theorem diagnose_unclassified (unit : String) (methods defined : List String) (line : UInt32) (texts : List String) :
    diagnose false unit methods defined line texts =
      (diagnose true unit methods defined line texts).map Diagnostic.unclassified := by
  induction texts generalizing defined line with
  | nil => rfl
  | cons text rest ih =>
    rw [diagnose, diagnose, ih, List.map_append, List.map_append, List.map_map]
    congr 2
    split <;> rfl

theorem output_unclassified (batch : List SourceUnit) : output false batch = (output true batch).unclassified := by
  have hdiagnostics : batch.flatMap (diagnoseUnit false) =
      (batch.flatMap (diagnoseUnit true)).map Diagnostic.unclassified := by
    rw [List.map_flatMap]
    exact congrArg batch.flatMap (funext fun unit => diagnose_unclassified ..)
  unfold output CompilerOutput.unclassified
  rw [hdiagnostics]
  simp only [List.any_map]
  rfl

end Statements

/-! ### Passes -/

namespace Stores

theorem errorTokens_unclassified (batch : List SourceUnit) (diagnostics : List Diagnostic) :
    errorTokens batch (diagnostics.map Diagnostic.unclassified) =
      (errorTokens batch diagnostics).map Token.unclassified := by
  unfold errorTokens
  rw [List.filter_map, List.map_map, List.map_map]
  rfl

/-- What installs has no diagnostics. -/
theorem install_unclassified (s : Stores) (r : CompileRequest) (produced : List CompiledUnit)
    (origin : Option String) :
    (s.install r produced origin).1.map CompileOutcome.unclassified = (s.install r produced origin).1 := by
  unfold install
  split
  · rfl
  · dsimp only
    split
    · rfl
    · split <;> rfl

theorem conclude_unclassified (s : Stores) (r : CompileRequest) (origin : Option String) (call : CallEnd) :
    s.conclude r origin call.unclassified =
      ((s.conclude r origin call).1.map CompileOutcome.unclassified, (s.conclude r origin call).2) := by
  obtain ⟨error | output, withdrawn⟩ := call
  · rfl
  · have herrors := errorTokens_unclassified r.units output.diagnostics
    unfold conclude CallEnd.unclassified CompilerOutput.unclassified
    simp only [Except.map]
    rw [herrors]
    rcases errorTokens r.units output.diagnostics with _ | ⟨token, tokens⟩
    · cases withdrawn with
      | true => rfl
      | false => exact Prod.ext (s.install_unclassified r output.units origin).symm rfl
    · rfl

end Stores

/-- Every error of the pass that has a class has a message that fits the pattern of the class. -/
def PassRecord.isLegible (p : PassRecord) : Bool :=
  match p.result with
  | .error _ => true
  | .ok outcome => outcome.diagnostics.all Token.isLegible

namespace Engine

/-- The engine with the statement compiler for its toolchain. -/
def compiledBy (e : Engine) (classify : Bool) : Engine :=
  { e with around := { e.around with toolchain := ⟨.statements classify, []⟩ } }

/-- The toolchain of the engine is the statement compiler with failure classes. -/
def Classifies (e : Engine) : Prop := e.around.toolchain = ⟨.statements true, []⟩

variable {e : Engine} {origin : Option String}

theorem call_statements {w : Surroundings} {classify : Bool} (h : w.toolchain = ⟨.statements classify, []⟩)
    (budget : Nat) (phase : Phase) (stores : Stores) (c : CompilerCall) :
    w.call budget phase stores c =
      (⟨.ok (Statements.output classify c.batch), w.withdrawn⟩, w.log (.called c [])) := by
  obtain ⟨service, toolchain, withdrawn, pending, journal, locked⟩ := w
  obtain rfl : toolchain = ⟨.statements classify, []⟩ := h
  rfl

theorem compile_unclassified (h : e.Classifies) (r : CompileRequest) :
    (e.compiledBy false).compile origin r =
      ((e.compile origin r).1.map CompileOutcome.unclassified, (e.compile origin r).2.compiledBy false) := by
  obtain ⟨settings, stores, ⟨service, toolchain, withdrawn, pending, journal, locked⟩, phase⟩ := e
  obtain rfl : toolchain = ⟨.statements true, []⟩ := h
  unfold compile compiledBy Stores.compile
  dsimp only
  split_ifs with hempty hunits hwithdrawn
  · rfl
  · have hconclude := stores.conclude_unclassified r origin ⟨.ok .empty, withdrawn⟩
    have hfirst : (stores.conclude r origin ⟨.ok .empty, withdrawn⟩).1 =
        (stores.conclude r origin ⟨.ok .empty, withdrawn⟩).1.map CompileOutcome.unclassified :=
      congrArg Prod.fst hconclude
    exact Prod.ext hfirst rfl
  · rfl
  · have hconclude := stores.conclude_unclassified r origin ⟨.ok (Statements.output true r.units), withdrawn⟩
    rw [call_statements rfl, call_statements rfl, Statements.output_unclassified]
    dsimp only [CallEnd.unclassified, Except.map] at hconclude ⊢
    rw [hconclude]
    rfl

theorem keptByRuns_classifies : KeptByRuns Classifies where
  phase := fun _ _ he => he
  begin := fun _ _ he => he
  pass := fun e origin he => by
    have hasked : e.askForUnits.2.around.toolchain = ⟨.statements true, []⟩ := he
    rcases e.around_pass origin with hsame | ⟨call, hcall⟩
    · rwa [Classifies, hsame]
    · rw [Classifies, hcall, call_statements hasked]
      exact hasked
  heal := fun _ _ he => he
  regenerate := fun _ he => he

/-- The errors that a pass ends with are the compiler's, about the units of the request. -/
theorem diagnosed_of_ended (h : e.Classifies) {r : CompileRequest} {outcome : CompileOutcome} {s : Stores}
    (hended : e.stores.Ended r (e.output r) (.ok outcome) s) :
    ∀ token ∈ outcome.diagnostics, ∃ unit ∈ r.units, token.toDiagnostic ∈ Statements.diagnoseUnit true unit := by
  intro token htoken
  obtain ⟨d, hd, rfl⟩ := List.mem_map.1 (hended.mem_errorTokens htoken)
  have hreported := List.mem_of_mem_filter hd
  unfold output Stores.compilerOutput at hreported
  split at hreported
  · cases hreported
  · rw [call_statements h] at hreported
    exact List.mem_flatMap.1 hreported

theorem Classifies.stage (h : e.Classifies) {batch : SourceBatch} {e' : Engine}
    (hasked : e.askForUnits = (.ok batch, e')) : (e'.stage batch).2.Classifies := by
  have htoolchain : e'.around.toolchain = e.around.toolchain := congrArg (·.2.around.toolchain) hasked.symm
  exact htoolchain.trans h

theorem pass_unclassified (h : e.Classifies) (origin : Option String) :
    (e.compiledBy false).pass origin =
      ((e.pass origin).1.map CompileOutcome.unclassified, (e.pass origin).2.compiledBy false) := by
  have hasked : (e.compiledBy false).askForUnits = (e.askForUnits.1, e.askForUnits.2.compiledBy false) := rfl
  unfold pass
  rw [hasked]
  rcases hanswer : e.askForUnits with ⟨error | batch, e₁⟩
  · rfl
  · have hstaged : (e₁.compiledBy false).stage batch = ((e₁.stage batch).1, (e₁.stage batch).2.compiledBy false) := rfl
    dsimp only
    rw [hstaged]
    dsimp only
    rw [compile_unclassified (h.stage hanswer)]
    rcases (e₁.stage batch).2.compile origin (e₁.stage batch).1 with ⟨error | outcome, e₂⟩ <;> rfl

/-- The errors of a pass are the compiler's, about what was staged. -/
theorem diagnosed_of_pass (h : e.Classifies) {outcome : CompileOutcome} {e' : Engine}
    (hpass : e.pass origin = (.ok outcome, e')) : ∃ batch e₁, e.askForUnits = (.ok batch, e₁) ∧
      ∀ token ∈ outcome.diagnostics,
        ∃ unit ∈ (e₁.stage batch).1.units, token.toDiagnostic ∈ Statements.diagnoseUnit true unit := by
  have hpassed := e.passed_pass origin
  rw [hpass] at hpassed
  cases hpassed with
  | compiled hasked hcompile => exact ⟨_, _, hasked, diagnosed_of_ended (h.stage hasked) (ended_of_compile hcompile)⟩

/-- They are in the wordings of their classes. -/
theorem worded_pass (h : e.Classifies) {outcome : CompileOutcome} {e' : Engine}
    (hpass : e.pass origin = (.ok outcome, e')) : ∀ token ∈ outcome.diagnostics, token.Worded := by
  obtain ⟨batch, e₁, -, hdiagnosed⟩ := diagnosed_of_pass h hpass
  intro token htoken
  obtain ⟨unit, -, hunit⟩ := hdiagnosed token htoken
  exact Statements.worded_diagnose _ _ _ _ _ _ _ hunit

/-! ### Runs -/

/-- A healing pass makes the same repairs without the classes. -/
theorem heal_unclassified (e : Engine) {tokens : List Token} (htokens : ∀ t ∈ tokens, t.Worded ∧ t.isLegible = true) :
    (e.compiledBy false).heal (tokens.map Token.unclassified) =
      ((e.heal tokens).1, (e.heal tokens).2.compiledBy false) := by
  have hpatterns : e.pipeline.HasClassPatterns := Pipeline.hasClassPatterns_standard _
  have hheal := Pipeline.heal_unclassified hpatterns htokens e.schema
  have hpipeline : (e.compiledBy false).pipeline = e.pipeline := rfl
  have hschema : (e.compiledBy false).schema = e.schema := rfl
  unfold heal
  rw [hpipeline, hschema, hheal]
  rfl

theorem pass_of_pass {result : Except EngineError CompileOutcome} {after : Engine} (he : e.Classifies)
    (hpass : pass { e with phase := .compiling } origin = (result, after)) :
    pass { e.compiledBy false with phase := .compiling } origin =
      (result.map CompileOutcome.unclassified, after.compiledBy false) := by
  have hplain := pass_unclassified (keptByRuns_classifies.phase e .compiling he) origin
  rwa [hpass] at hplain

theorem heal_of_pass {outcome : CompileOutcome} {after healed : Engine} {repairs : List Repair} (he : e.Classifies)
    (hpass : pass { e with phase := .compiling } origin = (.ok outcome, after))
    (hlegible : PassRecord.isLegible ⟨{ e with phase := .compiling }, .ok outcome, after⟩ = true)
    (hheal : heal { after with phase := .healing } outcome.diagnostics = (repairs, healed)) :
    heal { after.compiledBy false with phase := .healing } outcome.unclassified.diagnostics =
      (repairs, healed.compiledBy false) := by
  have hworded := worded_pass (keptByRuns_classifies.phase e .compiling he) hpass
  have htokens : ∀ t ∈ outcome.diagnostics, t.Worded ∧ t.isLegible = true := fun t ht =>
    ⟨hworded t ht, List.all_eq_true.1 hlegible t ht⟩
  have hplain := heal_unclassified { after with phase := .healing } htokens
  rwa [hheal] at hplain

/-- Over all cycles of a run: it goes the same way without the classes. -/
theorem Cycles.unclassified {left : Nat} {report : HealReport} {end_ : Except EngineError HealReport × Engine}
    {records : List PassRecord} (h : Cycles origin left report e end_ records) (he : e.Classifies)
    (hlegible : ∀ p ∈ records, p.isLegible = true) :
    cycles origin left report.unclassified (e.compiledBy false) =
      (end_.1.map HealReport.unclassified, end_.2.compiledBy false) := by
  induction h with
  | exhausted => rfl
  | error hpass =>
    rw [cycles, pass_of_pass he hpass]
    rfl
  | succeeded hpass hsuccess =>
    rw [cycles, pass_of_pass he hpass]
    dsimp only [Except.map]
    rw [if_pos (show CompileOutcome.success (CompileOutcome.unclassified _) = true from hsuccess)]
    rfl
  | unhealed hpass hfails hheal =>
    have hhealed := heal_of_pass he hpass (hlegible _ List.mem_cons_self) hheal
    rw [cycles, pass_of_pass he hpass]
    dsimp only [Except.map]
    rw [if_neg (by simpa [CompileOutcome.unclassified] using hfails), hhealed]
    rfl
  | @healed left report e after healed outcome repairs end_ rest hpass hfails hheal hrepairs _ ih =>
    have hhealed := heal_of_pass he hpass (hlegible _ List.mem_cons_self) hheal
    have hclassifies : healed.regenerate.Classifies := by
      have hafter := keptByRuns_classifies.of_pass (keptByRuns_classifies.phase e .compiling he) hpass
      exact keptByRuns_classifies.regenerate _
        (keptByRuns_classifies.of_heal (keptByRuns_classifies.phase _ .healing hafter) hheal)
    have hrest := ih hclassifies fun p hp => hlegible p (List.mem_cons_of_mem _ hp)
    obtain ⟨repair, others, rfl⟩ := List.exists_cons_of_ne_nil hrepairs
    rw [cycles, pass_of_pass he hpass]
    dsimp only [Except.map]
    rw [if_neg (by simpa [CompileOutcome.unclassified] using hfails), hhealed]
    exact hrest

theorem runOnce_unclassified (he : e.Classifies) (hlegible : ∀ p ∈ (e.record origin).passes, p.isLegible = true) :
    (e.compiledBy false).runOnce origin =
      ((e.runOnce origin).1.map HealReport.unclassified, (e.runOnce origin).2.compiledBy false) := by
  obtain ⟨result, e', hcycles, hrun⟩ := e.runOnce_cases origin
  have hplain := hcycles.unclassified (keptByRuns_classifies.begin e origin he) hlegible
  have hplain : cycles origin (e.compiledBy false).settings.maxHealCycles .start ((e.compiledBy false).begin origin) =
      (result.map HealReport.unclassified, e'.compiledBy false) := hplain
  unfold Engine.begin at hplain
  obtain ⟨report, rfl, hrun⟩ | ⟨error, rfl, hrun⟩ := hrun <;> rw [hrun]
  all_goals
    rw [runOnce]
    simp only [hplain]
    rfl

theorem serve_unclassified {fuel : Nat} (report : HealReport) (he : e.Classifies)
    (hlegible : ∀ r ∈ servingRuns origin fuel e, ∀ p ∈ r.passes, p.isLegible = true) :
    serve origin fuel report.unclassified (e.compiledBy false) =
      ((serve origin fuel report e).1.map HealReport.unclassified, (serve origin fuel report e).2.compiledBy false) := by
  induction fuel generalizing report e with
  | zero => rfl
  | succ fuel ih =>
    have hrun : e.runOnce origin = ((e.record origin).result, (e.record origin).after) := rfl
    have hafter : (e.record origin).after.Classifies := runOnce_preserves keptByRuns_classifies he origin
    have hpending : (e.compiledBy false).around.pending = e.around.pending := rfl
    unfold servingRuns at hlegible
    rw [serve_succ, serve_succ, hpending]
    split_ifs at hlegible ⊢ with hasked
    · obtain ⟨hfirst, hothers⟩ := List.forall_mem_cons.1 hlegible
      rw [runOnce_unclassified he hfirst, hrun]
      rcases hresult : (e.record origin).result with error | report' <;> rw [hresult] at hothers
      · rfl
      · exact ih report' hafter hothers
    · rfl

/-- An engine with the statement compiler runs in the same way without failure classes as with them, if all
messages fit the patterns of their classes in the run with classes: the two runs differ in nothing but the
classes of the diagnostics that they report. -/
theorem run_unclassified (e : Engine) (origin : Option String) (withdrawn : Bool)
    (hlegible : ∀ r ∈ (e.compiledBy true).runs origin withdrawn, ∀ p ∈ r.passes, p.isLegible = true) :
    let classified := (e.compiledBy true).run origin withdrawn
    (e.compiledBy false).run origin withdrawn =
      (classified.1.map HealReport.unclassified, classified.2.compiledBy false) := by
  have hcalled : ((e.compiledBy true).called withdrawn).Classifies := rfl
  have hsame : (e.compiledBy false).called withdrawn = ((e.compiledBy true).called withdrawn).compiledBy false := by
    unfold called compiledBy
    rfl
  intro classified
  rw [run, exclusive, hsame]
  rcases (e.compiledBy true).run_cases origin withdrawn with
    ⟨⟨error, hresult, hrun⟩, hruns⟩ | ⟨report, hresult, hrun, hruns⟩ <;>
    rw [hruns] at hlegible <;>
    obtain ⟨hfirst, hothers⟩ := List.forall_mem_cons.1 hlegible
  · have honce : ((e.compiledBy true).called withdrawn).runOnce origin = (.error error, _) := Prod.ext hresult rfl
    rw [runOnce_unclassified hcalled hfirst, honce]
    exact (congrArg (fun c => (c.1.map HealReport.unclassified, c.2.compiledBy false)) hrun).symm
  · let after := (((e.compiledBy true).called withdrawn).record origin).after
    have honce : ((e.compiledBy true).called withdrawn).runOnce origin = (.ok report, after) := Prod.ext hresult rfl
    have hafter : after.Classifies := runOnce_preserves keptByRuns_classifies hcalled origin
    have hfuel : (after.compiledBy false).around.toolchain.script.length = after.around.toolchain.script.length := by
      rw [hafter]
      rfl
    have hserve := serve_unclassified report hafter hothers
    rw [runOnce_unclassified hcalled hfirst, honce]
    show serve origin ((after.compiledBy false).around.toolchain.script.length + 1) report.unclassified
      (after.compiledBy false) = _
    rw [hfuel, hserve]
    exact (congrArg (fun c => (c.1.map HealReport.unclassified, c.2.compiledBy false)) hrun).symm

/-- A type with an import of a package that is not known. -/
def importing (package : String) : Schema :=
  Schema.empty.upsert ⟨"app.Order", "type Order", [⟨.import, "i", "tax", "import " ++ package⟩]⟩

/-- The import is deleted, without the classes too. -/
theorem dotted_import_heals_unclassified :
    let e := fresh .default none (importing "billing.tax") ⟨.echo, []⟩
    let classified := (e.compiledBy true).run none false
    classified.1.toOption.map (fun report => (report.success, report.repairs.map Repair.target)) = some (true, ["i"]) ∧
      (e.compiledBy false).run none false =
        (classified.1.map HealReport.unclassified, classified.2.compiledBy false) := by
  intro e
  refine ⟨?_, run_unclassified e none false ?_⟩ <;> decide +kernel

/-- No pattern accepts a hyphen in a name. The import is deleted if the compiler names the class of its error;
without the class it stays, and the run does not succeed. -/
theorem hyphenated_import_needs_class :
    let e := fresh .default none (importing "billing-tax") ⟨.echo, []⟩
    ((e.compiledBy true).run none false).1.toOption.map (fun report => (report.success, report.repairs.map Repair.target)) =
        some (true, ["i"]) ∧
      ((e.compiledBy false).run none false).1.toOption.map (fun report => (report.success, report.repairs)) =
        some (false, []) := by
  intro e
  constructor <;> decide +kernel

end Engine

end HotSchema
