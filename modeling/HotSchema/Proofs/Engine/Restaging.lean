import HotSchema.Proofs.Engine.Acceptance
/-!
# Batches that are put back

A pass that ends in an error puts its batch back, and with it the run ends. It offers the units and stages the
removals as if they came anew, so what would keep them out has to be ruled out. Nothing waits any more when they
come. No unit has the name of a removal, since no name waits twice. And no unit has the text last compiled, unless
everything is to be compiled again, since a unit waits only if it has to be compiled, and a pass that ends in an
error records nothing. So all of the batch waits again as it did, in its order.
-/

namespace HotSchema

namespace Staging

/-- What a request took out waits again, and the rest is as it was before. -/
structure PutBack (before : Staging) (r : CompileRequest) (after : Staging) : Prop where
  staged : after.staged.toList = r.units
  removed : after.removed.toList = r.removed
  compiled : after.compiled = before.compiled
  fullRebuild : after.fullRebuild = before.fullRebuild

/-! ### What a staging without units takes in -/

theorem offerAll_of_due {s : Staging} {units : List SourceUnit} (hnodup : (units.map SourceUnit.name).Nodup)
    (hdue : ∀ unit ∈ units, s.Due unit.name unit.digest) (hnew : ∀ unit ∈ units, unit.name ∉ s.staged.names)
    (hkept : ∀ unit ∈ units, unit.name ∉ s.removed.names) :
    s.offerAll units = { s with staged := s.staged.insertAll units } := by
  induction units generalizing s with
  | nil => rfl
  | cons unit rest ih =>
    rw [List.map_cons, List.nodup_cons] at hnodup
    obtain ⟨hdueFirst, hdue⟩ := List.forall_mem_cons.1 hdue
    obtain ⟨hnewFirst, hnew⟩ := List.forall_mem_cons.1 hnew
    obtain ⟨hkeptFirst, hkept⟩ := List.forall_mem_cons.1 hkept
    have hfree : (s.staged.find? unit.name).map SourceUnit.digest ≠ some unit.digest := by
      rw [Roster.find?_eq_none_iff.2 hnewFirst]
      simp
    have hoffer : (s.offer unit).2 = { s with staged := s.staged.insert unit } := by
      rw [offer_of_due hdueFirst hfree, Roster.erase_of_not_mem hkeptFirst]
    have hnewRest (other : SourceUnit) (hother : other ∈ rest) : other.name ∉ (s.staged.insert unit).names := by
      intro hmem
      rcases Roster.mem_names_insert.1 hmem with hsame | hwaited
      · exact hnodup.1 (List.mem_map.2 ⟨other, hother, hsame⟩)
      · exact hnew other hother hwaited
    rw [offerAll_cons, hoffer]
    exact ih hnodup.2 hdue hnewRest hkept

theorem putBack_of_idle {s : Staging} (hstaged : s.staged = ∅) (hremoved : s.removed = ∅) {r : CompileRequest}
    (hadmissible : r.Admissible) (hdue : ∀ unit ∈ r.units, s.Due unit.name unit.digest) :
    s.PutBack r (s.take r.units r.removed) := by
  have hnames : (r.removed.map Named.name).Nodup := by
    rw [map_name_strings]
    exact hadmissible.removed
  have hretired : (s.removed.insertAll r.removed).toList = r.removed := by
    rw [Roster.toList_insertAll_of_nodup hnames (by simp [hremoved]), hremoved]
    rfl
  have hnothing : s.staged.eraseAll r.removed = ∅ := by
    refine Roster.ext ?_
    rw [Roster.toList_eraseAll, hstaged]
    rfl
  have htake : s.take r.units r.removed =
      { s with staged := (∅ : Roster SourceUnit).insertAll r.units, removed := s.removed.insertAll r.removed } := by
    rw [take_eq, stageRemovals_eq, hnothing]
    refine offerAll_of_due hadmissible.names hdue (fun _ _ => List.not_mem_nil) fun unit hunit hretires => ?_
    rw [← mem_toList_iff] at hretires
    rw [hretired] at hretires
    exact hadmissible.disjoint unit.name (List.mem_map_of_mem hunit) hretires
  have hcompiled : (Roster.insertAll (∅ : Roster SourceUnit) r.units).toList = r.units :=
    Roster.toList_insertAll_of_nodup hadmissible.names fun _ _ => List.not_mem_nil
  rw [htake]
  exact ⟨hcompiled, hretired, rfl, rfl⟩

end Staging

namespace Engine

variable {e e₁ after : Engine} {origin : Option String} {batch : SourceBatch} {error : EngineError}

/-! ### Passes and runs -/

theorem putBack_of_pass (hseparate : e.stores.staging.Separate) (hdue : e.stores.staging.AllDue)
    (hasked : e.askForUnits = (.ok batch, e₁)) (hpass : e.pass origin = (.error error, after)) :
    e.stores.staging.PutBack (e₁.stage batch).1 after.stores.staging := by
  have hstores : e₁.stores = e.stores := congrArg (·.2.stores) hasked.symm
  rw [← hstores] at hseparate hdue ⊢
  have hadmissible : (e₁.stage batch).1.Admissible :=
    (Staging.keptByOffers_separate.take hseparate _ _).admissible
  have htaken : (e₁.stores.staging.take batch.units batch.removed).AllDue :=
    Staging.keptByOffers_allDue.take hdue _ _
  have hpassed := e.passed_pass origin
  rw [hpass] at hpassed
  cases hpassed with
  | refused hrefused => cases hrefused.symm.trans hasked
  | @aborted _ _ e₂ _ hanswered hcompile =>
    cases hanswered.symm.trans hasked
    -- What the request was taken out of has nothing waiting any more, and the pass left it so.
    have hemptied : e₂.stores.staging = (e₁.stage batch).2.stores.staging := (ended_of_compile hcompile).failed.staging
    have hput := Staging.putBack_of_idle (s := (e₁.stage batch).2.stores.staging) rfl rfl hadmissible htaken
    rw [← hemptied] at hput
    refine ⟨hput.staged, hput.removed, hput.compiled.trans ?_, hput.fullRebuild.trans ?_⟩
    · rw [hemptied]
      exact Staging.compiled_take ..
    · rw [hemptied]
      exact Staging.fullRebuild_take ..

theorem Cycles.last_of_error {left : Nat} {report : HealReport} {end_ : Except EngineError HealReport × Engine}
    {records : List PassRecord} (h : Cycles origin left report e end_ records) {p : PassRecord} (hp : p ∈ records)
    (hfails : p.result = .error error) : records.getLast? = some p ∧ end_ = (.error error, p.after) := by
  induction h with
  | exhausted => cases hp
  | error =>
    cases List.mem_singleton.1 hp
    cases hfails
    exact ⟨rfl, rfl⟩
  | succeeded | unhealed =>
    cases List.mem_singleton.1 hp
    cases hfails
  | healed _ _ _ _ _ ih =>
    rcases List.mem_cons.1 hp with rfl | hp
    · cases hfails
    · obtain ⟨hlast, hend⟩ := ih hp
      exact ⟨by rw [List.getLast?_cons, hlast, Option.getD_some], hend⟩

theorem record_of_error {p : PassRecord} (hp : p ∈ (e.record origin).passes) (hfails : p.result = .error error) :
    (e.record origin).passes.getLast? = some p ∧ (e.record origin).result = .error error ∧
      (e.record origin).after = { p.after with phase := .idle } := by
  show _ ∧ (e.runOnce origin).1 = _ ∧ (e.runOnce origin).2 = _
  obtain ⟨result, e', hcycles, hrun⟩ := e.runOnce_cases origin
  obtain ⟨hlast, hend⟩ := hcycles.last_of_error hp hfails
  cases hend
  obtain ⟨report, hok, -⟩ | ⟨error', herror, hrun⟩ := hrun
  · cases hok
  · cases herror
    rw [hrun]
    exact ⟨hlast, rfl, rfl⟩

/-! ### Histories -/

/-- Whatever batches a service hands out, a pass that got one and ends in an error ends its run, and when the run is
over, all that the pass took out waits again. -/
theorem aborted_batch_put_back {settings : Settings} {host : HostTypes} {schema : Schema} {toolchain : Toolchain}
    {start : Engine} (hnew : Engine.new settings host schema toolchain = .ok start) (service : Service)
    (history : List Event) {r : RunRecord} (hr : r ∈ (start.withService service).runsIn history) {p : PassRecord}
    (hp : p ∈ r.passes) (hasked : p.before.askForUnits = (.ok batch, e)) (hfails : p.result = .error error) :
    r.result = .error error ∧ r.passes.getLast? = some p ∧
      p.before.stores.staging.PutBack (e.stage batch).1 r.after.stores.staging := by
  obtain ⟨-, rfl⟩ := new_eq_ok hnew
  have hseparateKept := keptByEvents_of_offers Staging.keptByOffers_separate
  have hdueKept := keptByEvents_of_offers Staging.keptByOffers_allDue
  obtain ⟨hseparate, hrecord⟩ := forall_runsIn hseparateKept (Staging.separate_of_idle rfl) history r hr
  obtain ⟨hdue, -⟩ := forall_runsIn hdueKept (Staging.allDue_of_idle rfl) history r hr
  rw [hrecord] at hp ⊢
  obtain ⟨hseparateBefore, hpass⟩ := forall_passes hseparateKept.toKeptByRuns hseparate r.origin p hp
  obtain ⟨hdueBefore, -⟩ := forall_passes hdueKept.toKeptByRuns hdue r.origin p hp
  obtain ⟨hlast, hresult, hafter⟩ := record_of_error hp hfails
  refine ⟨hresult, hlast, ?_⟩
  rw [hfails] at hpass
  have hput := putBack_of_pass hseparateBefore hdueBefore hasked hpass
  rw [hafter]
  exact hput

/-- One of two compiled types is deleted, and a third is defined with a duplicate property. The run for that repairs
the property and compiles everything again, but then the compiler does not answer. -/
def stalledRepair : List Event :=
  [.edit (.upsert ⟨"app.Old", "type Old", []⟩), .edit (.upsert ⟨"app.Kept", "type Kept", []⟩), .run none false,
    .edit (.removeType "app.Old"),
    .edit (.upsert ⟨"app.Order", "type Order", [⟨.property, "p", "total", "total: int"⟩]⟩),
    .script [some ⟨[], .immediate,
        .reports [⟨.error, "app.Order", 2, "duplicate definition", some .duplicateDefinition⟩] [] none⟩,
      some ⟨[], .endless, .compiled⟩]]

/-- The type that did not change waits again as well, since everything was to be compiled again. -/
theorem stalled_repair_put_back :
    ∃ start, Engine.new .default none .empty ⟨.echo, []⟩ = .ok start ∧
      ∃ r ∈ (start.withService (.new .empty)).runsIn (stalledRepair ++ [.run none false]), ∃ p ∈ r.passes,
        (∃ error, r.result = .error error) ∧ ∃ batch e, p.before.askForUnits = (.ok batch, e) ∧
          (e.stage batch).1.names = ["app.Kept", "app.Order"] ∧ (e.stage batch).1.removed = ["app.Old"] ∧
          (e.stage batch).1.units.map (fun unit =>
            decide (p.before.stores.staging.compiledDigest? unit.name = some unit.digest)) = [true, false] ∧
          p.before.stores.staging.PutBack (e.stage batch).1 r.after.stores.staging := by
  have hnew : Engine.new .default none .empty ⟨.echo, []⟩ = .ok (fresh .default none .empty ⟨.echo, []⟩) := rfl
  let start := (fresh .default none .empty ⟨.echo, []⟩).withService (.new .empty)
  let r := ((start.after stalledRepair).called false).record none
  have hr : r ∈ start.runsIn (stalledRepair ++ [.run none false]) := record_mem_runsIn ..
  have hmade : r.passes.getLast?.map (fun p => (p.result.toOption.isNone,
      p.before.askForUnits.1.toOption.map fun batch =>
        let request := (p.before.askForUnits.2.stage batch).1
        (request.names, request.removed, request.units.map fun unit =>
          decide (p.before.stores.staging.compiledDigest? unit.name = some unit.digest)))) =
      some (true, some (["app.Kept", "app.Order"], ["app.Old"], [true, false])) := by decide +kernel
  obtain ⟨p, hp, hpass⟩ := Option.map_eq_some_iff.1 hmade
  obtain ⟨hstalled, hanswer⟩ := Prod.mk.inj hpass
  obtain ⟨batch, hbatch, hrequest⟩ := Option.map_eq_some_iff.1 hanswer
  obtain ⟨hnames, hretired⟩ := Prod.mk.inj hrequest
  obtain ⟨hremoved, hunchanged⟩ := Prod.mk.inj hretired
  have hasked : p.before.askForUnits = (.ok batch, p.before.askForUnits.2) := Prod.ext (eq_ok_of_toOption hbatch) rfl
  have hmem := List.mem_of_getLast? hp
  rcases hresult : p.result with error | outcome
  · obtain ⟨hends, -, hput⟩ := aborted_batch_put_back hnew (.new .empty) _ hr hmem hasked hresult
    exact ⟨_, hnew, r, hr, p, hmem, ⟨error, hends⟩, batch, _, hasked, hnames, hremoved, hunchanged, hput⟩
  · rw [hresult] at hstalled
    cases hstalled

end Engine

end HotSchema
