import HotSchema.Engine.Run
import HotSchema.Proofs.Compile.InStep
import HotSchema.Proofs.Engine.Surroundings
/-!
# Passes of the engine

An engine is in step when its stores are in step with its schema, and when its service hands out nothing
but what the schema asks for. A pass keeps that, whether it ends in an error or not; and one that succeeds
leaves the stores converged to the types that were live before it. Each pass enters its request for units
into the journal before all else.
-/

namespace HotSchema

structure Service.Plain (s : Service) : Prop where
  drafts : s.drafts = []
  extraRemoved : s.extraRemoved = []
  later : s.later = []

theorem Service.Plain.follows {s s' : Service} (h : s.Plain) (hfollows : s.Follows s') : s'.Plain where
  drafts := hfollows.drafts.trans h.drafts
  extraRemoved := hfollows.extraRemoved.trans h.extraRemoved
  later := hfollows.later.trans h.later

/-- A plain service hands out what the schema does, or nothing, and then the schema is as before. -/
theorem Service.Plain.request_cases {s : Service} (h : s.Plain) :
    (∃ error s', s.request = (.error error, s') ∧ s.Follows s') ∨
      ∃ batch schema, s.schema.request = (.ok batch, schema) ∧ s.request = (.ok batch, { s with schema }) := by
  obtain ⟨schema, failing, drafts, extraRemoved, later⟩ := s
  obtain ⟨rfl, rfl, rfl⟩ : drafts = [] ∧ extraRemoved = [] ∧ later = [] := ⟨h.drafts, h.extraRemoved, h.later⟩
  unfold Service.request
  dsimp only
  split
  · exact Or.inl ⟨_, _, rfl, .refl _, rfl, rfl, rfl⟩
  · rw [buildAll]
    rcases hrequest : schema.request with ⟨error | batch, schema'⟩
    · exact Or.inl ⟨_, _, rfl, Schema.request_eq_error hrequest ▸ .refl _, rfl, rfl, rfl⟩
    · exact Or.inr ⟨batch, schema', rfl, by simp [advance]⟩

namespace Stores

section

variable {s s' : Stores} {r : CompileRequest} {live : List TypeModel} {schema : Schema}
  {output : CompilerOutput}

theorem Taken.ended_error {error : EngineError} (h : s.Taken r live)
    (htracks : ∀ name ∈ live.map TypeModel.name, schema.Tracks name)
    (hended : s.Ended r output (.error error) s') :
    InStep { s' with staging := s'.staging.take r.units r.removed } schema := by
  cases hended with
  | error _ hfailed => exact h.restage htracks hfailed

theorem Taken.ended_ok {outcome : CompileOutcome} (h : s.Taken r live)
    (hnodup : (live.map TypeModel.name).Nodup)
    (htracks : ∀ name ∈ live.map TypeModel.name, schema.Tracks name)
    (hended : s.Ended r output (.ok outcome) s') :
    s'.InStep schema ∧ (outcome.success = true → s'.Converged live) := by
  cases hended with
  | nothing hempty =>
    exact ⟨h.inStep_of_isEmpty htracks hempty, fun _ => h.converged_of_isEmpty hnodup hempty⟩
  | rejected _ hrejected => exact ⟨h.rejected htracks hrejected, by simp⟩
  | installed _ hinstalled =>
    exact ⟨h.inStep_installed htracks hinstalled, fun _ => h.converged_installed hnodup hinstalled⟩

/-- A pass that fails located its errors within live types. -/
theorem Taken.owner_of_ended {outcome : CompileOutcome} (h : s.Taken r live)
    (hended : s.Ended r output (.ok outcome) s') (hfails : outcome.success = false) {token : Token}
    (htoken : token ∈ outcome.diagnostics) {e : EntityRef} (he : token.entity = some e) :
    e.owner ∈ live.map TypeModel.name := by
  rw [(hended.diagnostics hfails).1] at htoken
  exact h.owner_of_mem_errorTokens htoken he

end

end Stores

namespace Engine

structure InStep (e : Engine) : Prop where
  stores : e.stores.InStep e.schema
  plain : e.around.service.Plain

theorem InStep.of_follows {e e' : Engine} (h : e.InStep) (hstores : e'.stores = e.stores)
    (hfollows : e.around.service.Follows e'.around.service) : e'.InStep where
  stores := hstores ▸ h.stores.keepsTrack hfollows.schema
  plain := h.plain.follows hfollows

/-! ### The compiler call of a pass -/

/-- What the compiler tells a pass over the request. -/
def output (e : Engine) (r : CompileRequest) : CompilerOutput :=
  Stores.compilerOutput e.settings.scope (Surroundings.call e.settings.timeoutSecs e.phase) r e.stores e.around

/-- The stores end in one of the four ways, and the surroundings see at most one call. -/
theorem compile_cases (e : Engine) (origin : Option String) (r : CompileRequest) :
    e.stores.Ended r (e.output r) (e.compile origin r).1 (e.compile origin r).2.stores ∧
      ((e.compile origin r).2.around = e.around ∨
        ∃ call, (e.compile origin r).2.around =
          (Surroundings.call e.settings.timeoutSecs e.phase e.stores call e.around).2) := by
  rcases hcompile : Stores.compile e.settings.scope (Surroundings.call e.settings.timeoutSecs e.phase)
    r origin e.around.withdrawn e.stores e.around with ⟨outcome, stores, around⟩
  have h : e.compile origin r = (outcome, { e with stores, around }) := by
    simp only [compile, hcompile]
  rw [h]
  exact Stores.compile_cases hcompile

theorem ended_of_compile {e e' : Engine} {origin : Option String} {r : CompileRequest}
    {result : Except EngineError CompileOutcome} (hcompile : e.compile origin r = (result, e')) :
    e.stores.Ended r (e.output r) result e'.stores := by
  have hended := (e.compile_cases origin r).1
  rwa [hcompile] at hended

theorem follows_compile (e : Engine) (origin : Option String) (r : CompileRequest) :
    e.around.service.Follows (e.compile origin r).2.around.service := by
  rcases (e.compile_cases origin r).2 with h | ⟨call, h⟩ <;> rw [h]
  · exact .refl _
  · exact Surroundings.follows_call ..

theorem continues_compile (e : Engine) (origin : Option String) (r : CompileRequest) :
    ∃ entries, e.around.Continues (e.compile origin r).2.around entries := by
  rcases (e.compile_cases origin r).2 with h | ⟨call, h⟩ <;> rw [h]
  · exact ⟨[], .nil rfl rfl rfl rfl⟩
  · exact Surroundings.continues_call ..

/-! ### The pass -/

/-- How a pass goes: it gets no batch; or it takes one in and compiles what then waits, and puts that back if an
error ended the compilation. -/
inductive Passed (e : Engine) (origin : Option String) : Except EngineError CompileOutcome × Engine → Prop where
  | refused {e₁ : Engine} {error : EngineError} (hasked : e.askForUnits = (.error error, e₁)) :
      Passed e origin (.error error, e₁)
  | aborted {batch : SourceBatch} {e₁ e₂ : Engine} {error : EngineError} (hasked : e.askForUnits = (.ok batch, e₁))
      (hcompile : (e₁.stage batch).2.compile origin (e₁.stage batch).1 = (.error error, e₂)) :
      Passed e origin (.error error, e₂.restage (e₁.stage batch).1)
  | compiled {batch : SourceBatch} {e₁ e₂ : Engine} {outcome : CompileOutcome}
      (hasked : e.askForUnits = (.ok batch, e₁))
      (hcompile : (e₁.stage batch).2.compile origin (e₁.stage batch).1 = (.ok outcome, e₂)) :
      Passed e origin (.ok outcome, e₂)

theorem passed_pass (e : Engine) (origin : Option String) : e.Passed origin (e.pass origin) := by
  unfold pass
  rcases hasked : e.askForUnits with ⟨error | batch, e₁⟩
  · exact .refused hasked
  · dsimp only
    rcases hcompile : (e₁.stage batch).2.compile origin (e₁.stage batch).1 with ⟨error | outcome, e₂⟩
    · exact .aborted hasked hcompile
    · exact .compiled hasked hcompile

/-- The engine of a pass that got a batch, with the batch taken in and the request taken out. -/
def staged (e : Engine) (batch : SourceBatch) (schema : Schema) : Engine :=
  { e with
    stores := (e.stores.stage batch).2
    around := { e.around.log .askedForUnits with service := { e.around.service with schema } } }

/-- A pass gets no batch, or it compiles what the schema asked for and puts it back after an error. -/
theorem pass_cases {e : Engine} (h : e.around.service.Plain) (origin : Option String) :
    (∃ error e', e.pass origin = (.error error, e') ∧ e'.stores = e.stores ∧
        e.around.service.Follows e'.around.service) ∨
      ∃ batch schema, e.schema.request = (.ok batch, schema) ∧
        e.pass origin =
          let r := (e.stores.stage batch).1
          match (e.staged batch schema).compile origin r with
          | (.error error, e') => (.error error, e'.restage r)
          | (.ok outcome, e') => (.ok outcome, e') := by
  unfold pass
  rcases h.request_cases with ⟨error, service, hrequest, hfollows⟩ | ⟨batch, schema, hschema, hrequest⟩
  · refine Or.inl ⟨error, { e with around := { e.around.log .askedForUnits with service } }, ?_, rfl, hfollows⟩
    simp only [askForUnits, hrequest]
  · refine Or.inr ⟨batch, schema, hschema, ?_⟩
    simp only [askForUnits, hrequest]
    rfl

/-- A pass keeps the engine in step, and if it succeeds the stores have converged. -/
theorem InStep.pass {e : Engine} (h : e.InStep) (origin : Option String) :
    (e.pass origin).2.InStep ∧
      ∀ outcome, (e.pass origin).1 = .ok outcome → outcome.success = true →
        (e.pass origin).2.stores.Converged e.schema.live := by
  rcases pass_cases h.plain origin with ⟨error, e', hpass, hstores, hfollows⟩ | ⟨batch, schema, hrequest, hpass⟩
  · rw [hpass]
    exact ⟨h.of_follows hstores hfollows, by simp⟩
  · obtain ⟨-, -, hschema⟩ := Schema.request_eq_ok hrequest
    have htaken : (e.staged batch schema).stores.Taken (e.stores.stage batch).1 e.schema.live :=
      h.stores.stage hrequest
    have hplain : (e.staged batch schema).around.service.Plain := ⟨h.plain.drafts, h.plain.extraRemoved, h.plain.later⟩
    have hfollows := (e.staged batch schema).follows_compile origin (e.stores.stage batch).1
    have hended := ((e.staged batch schema).compile_cases origin (e.stores.stage batch).1).1
    rw [hpass]
    dsimp only
    rcases hcompile : (e.staged batch schema).compile origin (e.stores.stage batch).1 with
      ⟨error | outcome, e'⟩ <;> rw [hcompile] at hended hfollows
    all_goals
      have htracks (name : String) (hlive : name ∈ e.schema.live.map TypeModel.name) : e'.schema.Tracks name :=
        hfollows.schema name (hschema ▸ Or.inl hlive)
    · exact ⟨⟨htaken.ended_error htracks hended, hplain.follows hfollows⟩, by simp⟩
    · obtain ⟨hstores, hconverged⟩ := htaken.ended_ok e.schema.nodup_liveNames htracks hended
      refine ⟨⟨hstores, hplain.follows hfollows⟩, ?_⟩
      rintro _ ⟨⟩ hsuccess
      exact hconverged hsuccess

/-- The stores that a compiler sees which the next pass calls. -/
def observed (e : Engine) : Stores :=
  match e.askForUnits with
  | (.error _, e) => e.stores
  | (.ok batch, e) => (e.stage batch).2.stores

/-- Beside its request for units a pass does to the surroundings what one compiler call does, or nothing. -/
theorem around_pass (e : Engine) (origin : Option String) :
    (e.pass origin).2.around = e.askForUnits.2.around ∨
      ∃ call, (e.pass origin).2.around =
        (Surroundings.call e.settings.timeoutSecs e.phase e.observed call e.askForUnits.2.around).2 := by
  unfold observed
  have hpassed := e.passed_pass origin
  generalize e.pass origin = end_ at hpassed
  cases hpassed with
  | refused hasked =>
    rw [hasked]
    exact Or.inl rfl
  | @aborted batch e₁ _ _ hasked hcompile | @compiled batch e₁ _ _ hasked hcompile =>
    have hsettings : e₁.settings = e.settings := congrArg (·.2.settings) hasked.symm
    have hphase : e₁.phase = e.phase := congrArg (·.2.phase) hasked.symm
    have hcalled := ((e₁.stage batch).2.compile_cases origin (e₁.stage batch).1).2
    rw [hcompile] at hcalled
    rw [hasked, ← hsettings, ← hphase]
    exact hcalled

theorem continues_askForUnits (e : Engine) : e.around.Continues e.askForUnits.2.around [.askedForUnits] where
  locked := id
  journal := rfl
  pending := fun _ => (Bool.or_false _).symm
  script := Nat.le_refl _
  spent := by simp [JournalEntry.isCoalesced]

theorem continues_pass (e : Engine) (origin : Option String) :
    ∃ entries, e.around.Continues (e.pass origin).2.around (.askedForUnits :: entries) := by
  have hasking := e.continues_askForUnits
  have hpassed := e.passed_pass origin
  generalize e.pass origin = end_ at hpassed
  cases hpassed with
  | refused hasked =>
    rw [hasked] at hasking
    exact ⟨[], hasking⟩
  | @aborted batch e₁ _ _ hasked hcompile | @compiled batch e₁ _ _ hasked hcompile =>
    obtain ⟨entries, hcompiled⟩ := (e₁.stage batch).2.continues_compile origin (e₁.stage batch).1
    rw [hasked] at hasking
    rw [hcompile] at hcompiled
    exact ⟨entries, hasking.trans hcompiled⟩

theorem settings_pass (e : Engine) (origin : Option String) : (e.pass origin).2.settings = e.settings := by
  have hpassed := e.passed_pass origin
  generalize e.pass origin = end_ at hpassed
  cases hpassed with
  | refused hasked => exact congrArg (·.2.settings) hasked.symm
  | aborted hasked hcompile | compiled hasked hcompile =>
    have hcompiled := congrArg (·.2.settings) hcompile.symm
    exact hcompiled.trans (congrArg (·.2.settings) hasked.symm)

theorem diagnostics_of_pass {e e' e₁ : Engine} {origin : Option String} {batch : SourceBatch} {outcome : CompileOutcome}
    (hpass : e.pass origin = (.ok outcome, e')) (hfails : outcome.success = false)
    (hasked : e.askForUnits = (.ok batch, e₁)) :
    outcome.diagnostics =
        Stores.errorTokens (e₁.stage batch).1.units ((e₁.stage batch).2.output (e₁.stage batch).1).diagnostics ∧
      outcome.diagnostics ≠ [] := by
  have hpassed := e.passed_pass origin
  rw [hpass] at hpassed
  cases hpassed with
  | compiled hanswered hcompile =>
    cases hanswered.symm.trans hasked
    exact (ended_of_compile hcompile).diagnostics hfails

end Engine

end HotSchema
