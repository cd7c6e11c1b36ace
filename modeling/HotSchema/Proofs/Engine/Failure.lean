import HotSchema.Proofs.Engine.Run
/-!
# Runs that do not succeed

Readers see the registry, the library and the events of their sessions. None of that changes until a pass
installs, and a pass that installs succeeds and with it the run. So a run that ends in any other way leaves
readers with what they saw before, however many passes it made and whatever the batches and the compiler
were. It is enough that a request never names a unit twice: the registry would refuse that after the library
has taken in what was produced.
-/

namespace HotSchema

namespace Stores

/-- Readers see the same of both. -/
structure SameToReaders (s s' : Stores) : Prop where
  registry : s'.registry = s.registry
  library : s'.library = s.library
  hub : s'.hub = s.hub

theorem SameToReaders.refl (s : Stores) : s.SameToReaders s := ⟨rfl, rfl, rfl⟩

theorem SameToReaders.trans {s₁ s₂ s₃ : Stores} (h₁ : s₁.SameToReaders s₂) (h₂ : s₂.SameToReaders s₃) :
    s₁.SameToReaders s₃ where
  registry := h₂.registry.trans h₁.registry
  library := h₂.library.trans h₁.library
  hub := h₂.hub.trans h₁.hub

theorem SameToReaders.withStaging {s s' : Stores} (h : s.SameToReaders s') (staging : Staging) :
    s.SameToReaders { s' with staging } :=
  ⟨h.registry, h.library, h.hub⟩

theorem Ended.sameToReaders {s s' : Stores} {r : CompileRequest} {output : CompilerOutput}
    {result : Except EngineError CompileOutcome} (hended : s.Ended r output result s') (hnodup : r.names.Nodup)
    (hfails : ∀ outcome, result = .ok outcome → outcome.success = false) : s.SameToReaders s' := by
  cases hended with
  | nothing => exact .refl s
  | error _ hfailed => exact ⟨hfailed.registry, hfailed.library hnodup, hfailed.hub⟩
  | rejected _ hrejected =>
    subst hrejected
    exact (SameToReaders.refl s).withStaging _
  | installed hsuccess =>
    have hfails := hfails _ rfl
    simp [hsuccess] at hfails

end Stores

namespace Engine

variable {origin : Option String} {e e' : Engine} {result : Except EngineError CompileOutcome}

theorem sameToReaders_of_pass (hpass : e.pass origin = (result, e'))
    (hfails : ∀ outcome, result = .ok outcome → outcome.success = false) :
    e.stores.SameToReaders e'.stores := by
  have hpassed := e.passed_pass origin
  rw [hpass] at hpassed
  cases hpassed with
  | refused hasked =>
    have hstores : e'.stores = e.stores := congrArg (·.2.stores) hasked.symm
    rw [hstores]
    exact .refl _
  | @aborted batch e₁ e₂ _ hasked hcompile | @compiled batch e₁ e₂ _ hasked hcompile =>
    have hstores : e₁.stores = e.stores := congrArg (·.2.stores) hasked.symm
    -- The request names every unit once, since it is taken out of a roster.
    have hnodup : (e₁.stage batch).1.names.Nodup := Stores.nodup_stage e₁.stores batch
    have hstaged : e.stores.SameToReaders (e₁.stage batch).2.stores := by
      rw [← hstores]
      exact (Stores.SameToReaders.refl _).withStaging _
    have hcompiled := (ended_of_compile hcompile).sameToReaders hnodup hfails
    exact (hstaged.trans hcompiled).withStaging _

theorem Cycles.sameToReaders {left : Nat} {report : HealReport}
    {end_ : Except EngineError HealReport × Engine} {records : List PassRecord}
    (h : Cycles origin left report e end_ records)
    (hfails : ∀ report', end_.1 = .ok report' → report'.success = false) :
    e.stores.SameToReaders end_.2.stores := by
  induction h with
  | exhausted => exact .refl _
  | error hpass =>
    have hpassed := sameToReaders_of_pass hpass (by simp)
    exact hpassed
  | succeeded =>
    have hfails := hfails _ rfl
    simp at hfails
  | unhealed hpass houtcome hheal =>
    have hpassed := sameToReaders_of_pass hpass (by rintro _ ⟨⟩; exact houtcome)
    rw [← stores_of_heal hheal] at hpassed
    exact hpassed
  | healed hpass houtcome hheal _ _ ih =>
    have hpassed := sameToReaders_of_pass hpass (by rintro _ ⟨⟩; exact houtcome)
    rw [← stores_of_heal hheal] at hpassed
    exact (hpassed.withStaging _).trans (ih hfails)

/-- A run that ends in an error, or in a report of no success, leaves the registry, the library and the
events of the sessions as they were when it began. -/
theorem unsuccessful_run_unseen (e : Engine) (origin : Option String)
    (hfails : ∀ report, (e.record origin).result = .ok report → report.success = false) :
    e.stores.SameToReaders (e.record origin).after.stores := by
  have hfails : ∀ report, (e.runOnce origin).1 = .ok report → report.success = false := hfails
  show e.stores.SameToReaders (e.runOnce origin).2.stores
  obtain ⟨result, e', hcycles, ⟨report, rfl, hrun⟩ | ⟨error, rfl, hrun⟩⟩ := e.runOnce_cases origin <;>
    rw [hrun] at hfails ⊢
  all_goals
    have hsame := hcycles.sameToReaders hfails
    exact ⟨hsame.registry, hsame.library, hsame.hub⟩

/-- A type that compiled, another one that was defined later, and a compiler that reports an error in it
which no handler knows. -/
def brokenLater : List Event :=
  [.edit (.upsert ⟨"app.Old", "type Old", []⟩), .run none false,
    .edit (.upsert ⟨"app.New", "type New", []⟩),
    .script [some ⟨[], .immediate, .reports [⟨.error, "app.New", 1, "syntax error", none⟩] [] none⟩]]

/-- The run ends without success, and the type that compiled stays as it was. -/
theorem broken_type_unseen :
    let e := (fresh .default none .empty ⟨.echo, []⟩).after brokenLater
    e.stores.registry.registered = ["app.Old"] ∧
      ∃ report, (e.record none).result = .ok report ∧ report.success = false ∧
        e.stores.SameToReaders (e.record none).after.stores := by
  intro e
  have hrun : (e.record none).result.toOption.map HealReport.success = some false := by decide +kernel
  obtain ⟨report, hreport, hfails⟩ := Option.map_eq_some_iff.1 hrun
  have hresult : (e.record none).result = .ok report := eq_ok_of_toOption hreport
  refine ⟨rfl, report, hresult, hfails, unsuccessful_run_unseen e none fun report' hok => ?_⟩
  cases hresult.symm.trans hok
  exact hfails

end Engine

end HotSchema
