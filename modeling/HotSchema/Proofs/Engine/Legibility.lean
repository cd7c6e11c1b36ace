import HotSchema.Proofs.Engine.Batches
import HotSchema.Proofs.Engine.Classes
import HotSchema.Proofs.Healing.Log
import HotSchema.Proofs.Source.Attribution
/-!
# Schemas whose errors are legible

An error without a class is healed only if its message fits the pattern of the class that it would have, and only the
characters of a name can keep it from that. So it depends on the texts of the schema. What a run compiles are lines of
these texts, or of units that waited before it, and repairs only take lines away: if the names in all of them are made
of characters that the patterns accept, then every error of the run is legible, and classes make no difference.
-/

namespace HotSchema

def SourceUnit.WellNamed (unit : SourceUnit) : Prop := ∀ line ∈ Text.linesOf unit.text, Statements.WellNamed line

def TypeModel.WellNamed (t : TypeModel) : Prop :=
  ∀ b ∈ t.blocks, ∀ line ∈ b.lines, Statements.WellNamed (String.ofList (Text.withoutReturn line))

instance (unit : SourceUnit) : Decidable unit.WellNamed := inferInstanceAs (Decidable (∀ line ∈ _, _))

instance (t : TypeModel) : Decidable t.WellNamed := inferInstanceAs (Decidable (∀ b ∈ _, _))

theorem TypeModel.WellNamed.generate {t : TypeModel} (h : t.WellNamed) {unit : SourceUnit}
    (hunit : t.generate = .ok unit) : unit.WellNamed := by
  have htext : unit.text = t.text := SourceUnit.text_of_ofSpans hunit
  intro line hline
  rw [htext, Text.linesOf, lines_text] at hline
  obtain ⟨letters, hletters, rfl⟩ := List.mem_map.1 hline
  obtain ⟨b, hb, hletters⟩ := List.mem_flatMap.1 hletters
  obtain ⟨written, hwritten, rfl⟩ := List.mem_map.1 hletters
  exact h b hb written hwritten

theorem TypeModel.WellNamed.thinned {t t' : TypeModel} (h : t.WellNamed) (hthinned : t.Thinned t') : t'.WellNamed := by
  obtain ⟨name, header, members⟩ := t
  obtain ⟨name', header', members'⟩ := t'
  obtain ⟨hname, hheader, hmembers⟩ := hthinned
  obtain rfl : name' = name := hname
  obtain rfl : header' = header := hheader
  exact fun b hb => h b ((hmembers.map _).cons_cons _ |>.subset hb)

/-- What the compiler says about such a unit fits the patterns. -/
theorem SourceUnit.WellNamed.isLegible {unit : SourceUnit} (h : unit.WellNamed) {token : Token}
    (htoken : token.toDiagnostic ∈ Statements.diagnoseUnit true unit) : token.isLegible = true := by
  unfold Token.isLegible
  split
  · rfl
  · next f hf => exact Statements.fits_of_diagnose h _ _ _ _ _ _ htoken f hf

/-! ### The service -/

theorem Schema.types_request (s : Schema) : s.request.2.types = s.types := by
  unfold request
  split <;> rfl

theorem Service.schema_advance (s : Service) : s.advance.schema = s.schema := by
  unfold advance
  split <;> rfl

theorem Service.types_request (s : Service) : s.request.2.schema.types = s.schema.types := by
  have hschema := s.schema.types_request
  unfold request
  dsimp only
  split
  · rfl
  · split
    · rfl
    · split <;> next hrequest =>
        rw [hrequest] at hschema
        simpa only [schema_advance] using hschema

theorem Service.Plain.request {s : Service} (h : s.Plain) : s.request.2.Plain := by
  rcases h.request_cases with ⟨error, s', hrequest, hfollows⟩ | ⟨batch, schema, -, hrequest⟩ <;> rw [hrequest]
  · exact h.follows hfollows
  · exact ⟨h.drafts, h.extraRemoved, h.later⟩

namespace Engine

/-! ### What can be compiled -/

/-- The names in all texts that a run may compile are made of characters that the patterns accept. -/
structure WellNamed (e : Engine) : Prop where
  types : ∀ t ∈ e.schema.types.toList, t.WellNamed
  staged : ∀ unit ∈ e.stores.staging.staged.toList, unit.WellNamed
  plain : e.around.service.Plain

variable {e e' : Engine} {origin : Option String}

theorem WellNamed.of_same (h : e.WellNamed) (hservice : e'.around.service = e.around.service)
    (hstaged : e'.stores.staging.staged = e.stores.staging.staged) : e'.WellNamed where
  types := by
    have hschema : e'.schema = e.schema := congrArg Service.schema hservice
    rw [hschema]
    exact h.types
  staged := hstaged ▸ h.staged
  plain := hservice ▸ h.plain

theorem WellNamed.stage (h : e.WellNamed) {batch : SourceBatch} (hasked : e.askForUnits = (.ok batch, e')) :
    ∀ unit ∈ (e'.stage batch).1.units, unit.WellNamed := by
  have hstores : e'.stores = e.stores := congrArg (·.2.stores) hasked.symm
  obtain ⟨hunits, -, -⟩ := Schema.request_eq_ok (request_of_askForUnits h.plain hasked)
  intro unit hunit
  rcases Staging.mem_staged_take hunit with hgenerated | ⟨-, hwaited⟩
  · obtain ⟨t, ht, hgenerate⟩ := Schema.exists_of_generated hunits hgenerated
    exact (h.types t (List.mem_of_mem_filter ht)).generate hgenerate
  · exact h.staged unit (hstores ▸ hwaited)

/-- The compiler does nothing to the schema. -/
theorem service_pass (h : e.Classifies) (origin : Option String) :
    (e.pass origin).2.around.service = e.around.service.request.2 := by
  have hasked : e.askForUnits.2.around.toolchain = ⟨.statements true, []⟩ := h
  rcases e.around_pass origin with hsame | ⟨call, hcall⟩
  · rw [hsame]
    rfl
  · rw [hcall, call_statements hasked]
    rfl

theorem WellNamed.staged_pass (h : e.WellNamed) (origin : Option String) :
    ∀ unit ∈ (e.pass origin).2.stores.staging.staged.toList, unit.WellNamed := by
  have hpassed := e.passed_pass origin
  generalize e.pass origin = end_ at hpassed
  cases hpassed with
  | @refused e₁ _ hasked =>
    have hstores : e₁.stores = e.stores := congrArg (·.2.stores) hasked.symm
    rw [hstores]
    exact h.staged
  | aborted hasked hcompile =>
    have hidle := (ended_of_compile hcompile).idle rfl
    intro unit hunit
    rcases Staging.mem_staged_take hunit with hcompiled | ⟨-, hwaited⟩
    · exact h.stage hasked unit hcompiled
    · rw [hidle] at hwaited
      cases hwaited
  | compiled hasked hcompile =>
    have hidle := (ended_of_compile hcompile).idle rfl
    rw [hidle]
    exact List.forall_mem_nil _

theorem keptByRuns_wellNamed : KeptByRuns fun e => e.Classifies ∧ e.WellNamed where
  phase := fun e phase he => ⟨keptByRuns_classifies.phase e phase he.1, he.2.of_same rfl rfl⟩
  begin := fun e origin he => ⟨keptByRuns_classifies.begin e origin he.1, he.2.of_same rfl rfl⟩
  pass := fun e origin ⟨hclassifies, hnamed⟩ => by
    have hservice := service_pass hclassifies origin
    have htypes : (e.pass origin).2.schema.types = e.schema.types :=
      (congrArg (·.schema.types) hservice).trans e.around.service.types_request
    refine ⟨keptByRuns_classifies.pass e origin hclassifies, ?_, hnamed.staged_pass origin, ?_⟩
    · rw [htypes]
      exact hnamed.types
    · rw [hservice]
      exact hnamed.plain.request
  heal := fun e tokens ⟨hclassifies, hnamed⟩ => by
    have hthins : e.schema.Thins (e.heal tokens).2.schema := (e.pipeline.healInOrder_replays _ e.schema).thins
    refine ⟨keptByRuns_classifies.heal e tokens hclassifies, ?_, hnamed.staged,
      hnamed.plain.follows (e.follows_heal tokens)⟩
    obtain ⟨thin, hthin, htypes⟩ := hthins
    rw [htypes, List.forall_mem_map]
    exact fun t ht => (hnamed.types t ht).thinned (hthin t)
  regenerate := fun e ⟨hclassifies, hnamed⟩ =>
    ⟨keptByRuns_classifies.regenerate e hclassifies, hnamed.types, hnamed.staged, hnamed.plain.drafts,
      hnamed.plain.extraRemoved, hnamed.plain.later⟩

/-! ### Runs -/

theorem WellNamed.isLegible_pass (h : e.WellNamed) (he : e.Classifies) {result : Except EngineError CompileOutcome}
    (hpass : e.pass origin = (result, e')) : PassRecord.isLegible ⟨e, result, e'⟩ = true := by
  rcases result with error | outcome
  · rfl
  · obtain ⟨batch, e₁, hasked, hdiagnosed⟩ := diagnosed_of_pass he hpass
    refine List.all_eq_true.2 fun token htoken => ?_
    obtain ⟨unit, hunit, hsaid⟩ := hdiagnosed token htoken
    exact (h.stage hasked unit hunit).isLegible hsaid

/-- If the texts of the schema and those that wait use only names of characters that the patterns accept, every message
of every run fits the pattern of its class. -/
theorem legible_of_wellNamed (h : e.WellNamed) (origin : Option String) (withdrawn : Bool) :
    ∀ r ∈ (e.compiledBy true).runs origin withdrawn, ∀ p ∈ r.passes, p.isLegible = true := by
  have hcalled : ((e.compiledBy true).called withdrawn).Classifies ∧ ((e.compiledBy true).called withdrawn).WellNamed :=
    ⟨rfl, h.of_same rfl rfl⟩
  have hrun (e : Engine) (he : e.Classifies ∧ e.WellNamed) :
      (e.runOnce origin).2.Classifies ∧ (e.runOnce origin).2.WellNamed :=
    runOnce_preserves keptByRuns_wellNamed he origin
  intro r hr p hp
  obtain ⟨hbefore, hrecord⟩ := forall_runs hrun hcalled r hr
  rw [hrecord] at hp
  obtain ⟨⟨hclassifies, hnamed⟩, hpass⟩ := forall_passes keptByRuns_wellNamed hbefore origin p hp
  exact hnamed.isLegible_pass hclassifies hpass

end Engine

end HotSchema
