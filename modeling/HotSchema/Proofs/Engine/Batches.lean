import HotSchema.Proofs.Engine.Acceptance
import HotSchema.Proofs.Engine.Serving
import HotSchema.Proofs.Engine.Termination
/-!
# Batches are exact

A pass compiles what changed and nothing else. Whatever earlier runs left behind, a unit is in the request of
a pass exactly if its type is live and its text is not the one last compiled, or if everything is to be
compiled again; and every registered name that is no longer live is in its removals.

A run that succeeds leaves nothing to do. Until the schema changes, the next run calls no compiler and
publishes nothing, and it succeeds after one pass.
-/

namespace HotSchema

/-- The request is for what changed since the stores last compiled it, and for nothing else. -/
structure CompileRequest.Exact (r : CompileRequest) (s : Stores) (schema : Schema) : Prop where
  names : r.names.Nodup
  units : ∀ name, name ∈ r.names ↔
    ∃ t ∈ schema.live, t.name = name ∧ ∃ unit, t.generate = .ok unit ∧ s.staging.Due name unit.digest
  texts : ∀ unit ∈ r.units, ∃ t ∈ schema.live, t.name = unit.name ∧
    ∃ current, t.generate = .ok current ∧ unit.digest = current.digest
  removed : r.removed.Nodup
  dead : ∀ name ∈ r.removed, name ∉ schema.liveNames
  retires : ∀ name ∈ s.registry.registered, name ∉ schema.liveNames → name ∈ r.removed

/-- Nothing waits, and all of some types were compiled as they generate now. -/
structure Staging.Settled (s : Staging) (live : List TypeModel) : Prop where
  staged : s.staged = ∅
  removed : s.removed = ∅
  partial_ : s.fullRebuild = true → live = []
  digests : ∀ t ∈ live, ∃ unit, t.generate = .ok unit ∧ s.compiledDigest? t.name = some unit.digest

theorem Schema.generateAll_of_forall {l : List TypeModel} (h : ∀ t ∈ l, ∃ unit, t.generate = .ok unit) :
    ∃ units, generateAll l = .ok units := by
  induction l with
  | nil => exact ⟨[], rfl⟩
  | cons t rest ih =>
    obtain ⟨⟨unit, hunit⟩, hothers⟩ := List.forall_mem_cons.1 h
    obtain ⟨units, hunits⟩ := ih hothers
    exact ⟨unit :: units, by rw [generateAll, hunit, hunits]⟩

namespace Staging

theorem offer_of_settled {s : Staging} (hstaged : s.staged = ∅) (hremoved : s.removed = ∅)
    (hpartial : s.fullRebuild = false) {unit : SourceUnit}
    (hcompiled : s.compiledDigest? unit.name = some unit.digest) : (s.offer unit).2 = s := by
  obtain ⟨staged, removed, compiled, fullRebuild⟩ := s
  obtain ⟨rfl, rfl, rfl⟩ : staged = ∅ ∧ removed = ∅ ∧ fullRebuild = false := ⟨hstaged, hremoved, hpartial⟩
  unfold offer
  dsimp only
  split_ifs with hwaits hdone
  · cases hwaits
  · rfl
  · exact absurd (decide_eq_true hcompiled) hdone

theorem Settled.take {s : Staging} {live : List TypeModel} (h : s.Settled live) {units : List SourceUnit}
    (hunits : List.Forall₂ (fun t unit => t.generate = .ok unit) live units) : s.take units [] = s := by
  show s.offerAll units = s
  rcases hfull : s.fullRebuild with _ | _
  · have hcompiled : ∀ unit ∈ units, s.compiledDigest? unit.name = some unit.digest := by
      intro unit hunit
      obtain ⟨t, ht, hgenerate⟩ := Schema.exists_of_generated hunits hunit
      obtain ⟨unit', hgenerate', hdigest⟩ := h.digests t ht
      cases hgenerate.symm.trans hgenerate'
      rwa [TypeModel.name_of_generate hgenerate]
    clear hunits
    induction units with
    | nil => rfl
    | cons unit rest ih =>
      obtain ⟨hunit, hrest⟩ := List.forall_mem_cons.1 hcompiled
      rw [offerAll_cons, offer_of_settled h.staged h.removed hfull hunit]
      exact ih hrest
  · -- Everything is to be compiled again, but there is nothing.
    have hnone := h.partial_ hfull
    subst hnone
    cases hunits
    rfl

/-- The schema hands out nothing that was not compiled. -/
theorem Settled.request {s : Staging} {schema : Schema} (h : s.Settled schema.live) (hremoved : schema.removed = []) :
    ∃ batch, schema.request = (.ok batch, schema) ∧ s.take batch.units batch.removed = s := by
  have hgenerate : ∀ t ∈ schema.live, ∃ unit, t.generate = .ok unit := by
    intro t ht
    obtain ⟨unit, hunit, -⟩ := h.digests t ht
    exact ⟨unit, hunit⟩
  obtain ⟨units, hunits⟩ := Schema.generateAll_of_forall hgenerate
  have hkept : { schema with removed := [] } = schema := by rw [← hremoved]
  refine ⟨⟨units, []⟩, ?_, h.take (Schema.generateAll_eq_ok hunits)⟩
  rw [Schema.request, hunits, hremoved, hkept]

end Staging

namespace Stores

variable {s s' : Stores} {r : CompileRequest} {live : List TypeModel} {schema schema' : Schema}
  {batch : SourceBatch} {output : CompilerOutput}

/-! ### Requests -/

theorem InStep.exact_stage (h : s.InStep schema) (hdue : s.staging.AllDue)
    (hrequest : schema.request = (.ok batch, schema')) : (s.stage batch).1.Exact s schema := by
  have htaken := h.stage hrequest
  obtain ⟨hunits, -, -⟩ := Schema.request_eq_ok hrequest
  have hwaiting : (s.staging.take batch.units batch.removed).AllDue := Staging.keptByOffers_allDue.take hdue _ _
  refine ⟨htaken.nodup, fun name => ⟨fun hname => ?_, ?_⟩, ?_, ?_, htaken.dead, ?_⟩
  · obtain ⟨t, ht, rfl⟩ := List.mem_map.1 (htaken.name_asked hname)
    obtain ⟨unit, hgenerate, ⟨u, hu, huname, hdigest⟩ | ⟨hnot, -⟩⟩ := htaken.held t ht
    · have hdue : s.staging.Due u.name u.digest := Staging.due_take.1 (hwaiting u hu)
      rw [huname, hdigest] at hdue
      exact ⟨t, ht, rfl, unit, hgenerate, hdue⟩
    · exact absurd hname hnot
  · rintro ⟨t, ht, rfl, unit, hgenerate, hdue⟩
    obtain ⟨unit', hgenerate', ⟨u, hu, huname, -⟩ | ⟨-, hcompiled⟩⟩ := htaken.held t ht
    · exact List.mem_map.2 ⟨u, hu, huname⟩
    · -- The text is the one last compiled, so everything is compiled again.
      cases hgenerate.symm.trans hgenerate'
      have hcompiled : s.staging.compiledDigest? t.name = some unit.digest := by
        rwa [Staging.compiledDigest?, ← Staging.compiled_take s.staging batch.units batch.removed]
      have hfull := hdue.resolve_right (not_not.2 hcompiled)
      obtain ⟨offered, hoffered, hsame⟩ := Schema.exists_generated hunits ht
      have hname : t.name ∈ batch.units.map SourceUnit.name :=
        List.mem_map.2 ⟨offered, hoffered, TypeModel.name_of_generate hsame⟩
      exact Staging.mem_names_take hfull batch.removed hname
  · intro unit hunit
    obtain ⟨t, ht, hname⟩ := List.mem_map.1 (htaken.asked unit hunit).2
    obtain ⟨current, hgenerate, ⟨u, hu, huname, hdigest⟩ | ⟨hnot, -⟩⟩ := htaken.held t ht
    · have hsame : u = unit := List.inj_on_of_nodup_map htaken.nodup hu hunit (huname.trans hname)
      exact ⟨t, ht, hname, current, hgenerate, hsame ▸ hdigest⟩
    · exact absurd (List.mem_map.2 ⟨unit, hunit, hname.symm⟩) hnot
  · exact (s.staging.take batch.units batch.removed).removed.nodup_strings
  · exact fun name hname hdead => (htaken.registered name hname).resolve_right hdead

theorem stage_of_settled (h : s.staging.Settled live)
    (htake : s.staging.take batch.units batch.removed = s.staging) : s.stage batch = (⟨[], []⟩, s) := by
  have hidle : Staging.mk ∅ ∅ s.staging.compiled s.staging.fullRebuild = s.staging := by
    rw [← h.staged, ← h.removed]
  unfold stage
  rw [htake]
  dsimp only
  rw [hidle, h.staged, h.removed]
  rfl

/-! ### What a success leaves to do -/

theorem forgetAll_idle {s : Staging} (hpartial : s.fullRebuild = false) (hremoved : s.removed = ∅)
    (names : List String) : (s.forgetAll names).fullRebuild = false ∧ (s.forgetAll names).removed = ∅ := by
  induction names generalizing s with
  | nil => exact ⟨hpartial, hremoved⟩
  | cons name rest ih =>
    refine ih hpartial ?_
    show s.removed.erase name = ∅
    rw [hremoved]
    rfl

/-- A pass that succeeds leaves nothing to do. -/
theorem Taken.settled (h : s.Taken r live) (hnodup : (live.map TypeModel.name).Nodup)
    (hfull : s.staging.fullRebuild = true → ∀ t ∈ live, t.name ∈ r.names) {outcome : CompileOutcome}
    (hended : s.Ended r output (.ok outcome) s') (hsuccess : outcome.success = true) :
    s'.staging.Settled live := by
  have hidle := hended.idle h.staged
  cases hended with
  | nothing hempty =>
    have hconverged := h.converged_of_isEmpty hnodup hempty
    refine ⟨hidle, h.removed, fun hrebuild => ?_, hconverged.digests⟩
    rw [List.eq_nil_iff_forall_not_mem]
    intro t ht
    have hasked := hfull hrebuild t ht
    simp only [CompileRequest.isEmpty, Bool.and_eq_true, List.isEmpty_iff] at hempty
    simp [CompileRequest.names, hempty.1] at hasked
  | rejected => cases hsuccess
  | installed _ hinstalled =>
    have hconverged := h.converged_installed hnodup hinstalled
    have hstaging := hinstalled.staging
    obtain ⟨hpartial, hremoved⟩ :=
      forgetAll_idle (s := s.staging.markCompiled r.units) rfl h.removed r.retiring
    rw [← hstaging] at hpartial hremoved
    exact ⟨hidle, hremoved, by simp [hpartial], hconverged.digests⟩

end Stores

/-! ### The service -/

theorem Service.failing_of_request {s s' : Service} {batch : SourceBatch} (h : s.request = (.ok batch, s')) :
    s.failing = 0 ∧ s'.failing = 0 := by
  unfold request at h
  split at h
  · cases h
  · next hworks =>
    have hworks : s.failing = 0 := Nat.eq_zero_of_not_pos hworks
    dsimp only at h
    split at h
    · cases h
    · split at h
      · cases h
      · cases h
        unfold advance
        split <;> exact ⟨hworks, hworks⟩

theorem Service.Plain.request_of_works {s : Service} (h : s.Plain) (hworks : s.failing = 0) {batch : SourceBatch}
    (hrequest : s.schema.request = (.ok batch, s.schema)) : s.request = (.ok batch, s) := by
  obtain ⟨schema, failing, drafts, extraRemoved, later⟩ := s
  obtain ⟨rfl, rfl, rfl⟩ : drafts = [] ∧ extraRemoved = [] ∧ later = [] := ⟨h.drafts, h.extraRemoved, h.later⟩
  obtain rfl : failing = 0 := hworks
  have hrequest : schema.request = (.ok batch, schema) := hrequest
  unfold request
  simp [buildAll, hrequest, advance]

theorem Surroundings.failing_interjectAll (phase : Phase) (stores : Stores) (is : List Interjection)
    (w : Surroundings) : (interjectAll phase stores is w).2.service.failing = w.service.failing := by
  induction is generalizing w with
  | nil => rfl
  | cons i rest ih =>
    rw [interjectAll_cons, ih]
    cases i with
    | requestCompile origin => rw [interject, service_requestRun]
    | edit _ | withdraw | askPhase | instantiate _ => rfl

theorem Surroundings.failing_call (budget : Nat) (phase : Phase) (stores : Stores) (c : CompilerCall)
    (w : Surroundings) : (w.call budget phase stores c).2.service.failing = w.service.failing :=
  failing_interjectAll phase stores _ { w with toolchain := w.toolchain.next.2 }

namespace Engine

/-! ### Passes -/

variable {e e' : Engine} {origin : Option String}

theorem asked_of_pass {outcome : CompileOutcome} (hpass : e.pass origin = (.ok outcome, e')) :
    ∃ batch, e.askForUnits = (.ok batch, e.askForUnits.2) := by
  have hpassed := e.passed_pass origin
  rw [hpass] at hpassed
  cases hpassed with
  | @compiled batch _ _ _ hasked _ =>
    have hanswer : e.askForUnits.1 = .ok batch := congrArg Prod.fst hasked
    exact ⟨batch, Prod.ext hanswer rfl⟩

theorem failing_pass {outcome : CompileOutcome} (hpass : e.pass origin = (.ok outcome, e')) :
    e'.around.service.failing = 0 := by
  obtain ⟨batch, hasked⟩ := asked_of_pass hpass
  have hanswer : e.around.service.request.1 = .ok batch := congrArg Prod.fst hasked
  have hrequest : e.around.service.request = (.ok batch, e.askForUnits.2.around.service) := Prod.ext hanswer rfl
  obtain ⟨-, hfailing⟩ := Service.failing_of_request hrequest
  have haround := e.around_pass origin
  rw [hpass] at haround
  rcases haround with hsame | ⟨call, hcall⟩
  · rwa [hsame]
  · rw [hcall, Surroundings.failing_call, hfailing]

/-- A plain service hands out what the schema does. -/
theorem request_of_askForUnits (hplain : e.around.service.Plain) {batch : SourceBatch}
    (hasked : e.askForUnits = (.ok batch, e')) : e.schema.request = (.ok batch, e'.schema) := by
  have hbatch : e.around.service.request.1 = .ok batch := congrArg Prod.fst hasked
  have hanswer : e.around.service.request = (.ok batch, e'.around.service) :=
    Prod.ext hbatch (congrArg (·.2.around.service) hasked)
  rcases hplain.request_cases with ⟨error, service, hfailed, -⟩ | ⟨batch', schema, hschema, hanswered⟩
  · cases hfailed.symm.trans hanswer
  · obtain ⟨hsameBatch, hservice⟩ := Prod.mk.inj (hanswered.symm.trans hanswer)
    cases hsameBatch
    have hsame : schema = e'.schema := congrArg Service.schema hservice
    rwa [← hsame]

theorem InStep.exact_stage (h : e.InStep) (hdue : e.stores.staging.AllDue) {batch : SourceBatch}
    (hasked : e.askForUnits = (.ok batch, e')) : (e'.stage batch).1.Exact e.stores e.schema := by
  have hstores : e'.stores = e.stores := congrArg (·.2.stores) hasked.symm
  have hexact := h.stores.exact_stage hdue (request_of_askForUnits h.plain hasked)
  rwa [← hstores] at hexact ⊢

theorem InStep.settled_pass (h : e.InStep) (hdue : e.stores.staging.AllDue) {outcome : CompileOutcome}
    (hpass : e.pass origin = (.ok outcome, e')) (hsuccess : outcome.success = true) :
    e'.stores.staging.Settled e.schema.live := by
  rcases pass_cases h.plain origin with ⟨error, e₁, hfailed, -⟩ | ⟨batch, schema, hrequest, hcompiled⟩
  · rw [hfailed] at hpass
    cases hpass
  · have htaken : (e.staged batch schema).stores.Taken (e.stores.stage batch).1 e.schema.live :=
      h.stores.stage hrequest
    have hexact := h.stores.exact_stage hdue hrequest
    have hfull : (e.staged batch schema).stores.staging.fullRebuild = true →
        ∀ t ∈ e.schema.live, t.name ∈ (e.stores.stage batch).1.names := by
      intro hrebuild t ht
      have hrebuild : e.stores.staging.fullRebuild = true :=
        (e.stores.staging.fullRebuild_take batch.units batch.removed).symm.trans hrebuild
      obtain ⟨unit, hgenerate, -⟩ := htaken.held t ht
      exact (hexact.units t.name).2 ⟨t, ht, rfl, unit, hgenerate, Or.inl hrebuild⟩
    have hended := ((e.staged batch schema).compile_cases origin (e.stores.stage batch).1).1
    rw [hcompiled] at hpass
    dsimp only at hpass
    rcases hcompile : (e.staged batch schema).compile origin (e.stores.stage batch).1 with
      ⟨error | outcome', e₂⟩ <;> rw [hcompile] at hpass hended <;> cases hpass
    exact htaken.settled e.schema.nodup_liveNames hfull hended hsuccess

/-! ### Runs with nothing to do -/

/-- Nothing is left to do for some types, and nothing keeps a run from finding that out. -/
structure AtRest (e : Engine) (live : List TypeModel) : Prop where
  settled : e.stores.staging.Settled live
  plain : e.around.service.Plain
  failing : e.around.service.failing = 0
  granted : 0 < e.settings.maxHealCycles

theorem AtRest.pass (h : e.AtRest e.schema.live) (hremoved : e.schema.removed = []) (origin : Option String) :
    e.pass origin =
      (.ok (.noop e.stores.registry.generation), { e with around := e.around.log .askedForUnits }) := by
  obtain ⟨batch, hrequest, htake⟩ := h.settled.request hremoved
  let asked : Engine := { e with around := e.around.log .askedForUnits }
  have hasked : e.askForUnits = (.ok batch, asked) := by
    unfold askForUnits
    rw [h.plain.request_of_works h.failing hrequest]
    rfl
  have hstaged : asked.stage batch = (⟨[], []⟩, asked) := by
    have hnothing : asked.stores.stage batch = (⟨[], []⟩, asked.stores) := Stores.stage_of_settled h.settled htake
    show ((asked.stores.stage batch).1, { asked with stores := (asked.stores.stage batch).2 }) = _
    rw [hnothing]
  unfold Engine.pass
  rw [hasked]
  dsimp only
  rw [hstaged]
  rfl

end Engine

/-- A run that found nothing to do: it called no compiler and published nothing, and it succeeded after one
pass. -/
structure RunRecord.Idle (r : RunRecord) : Prop where
  result : r.result = .ok ⟨true, 1, r.before.stores.registry.generation, [], [], [], [], false⟩
  journal : r.journal = [.began r.origin, .askedForUnits]
  stores : r.after.stores = r.before.stores

namespace Engine

variable {e e' : Engine} {origin : Option String}

theorem AtRest.record (h : e.AtRest e.schema.live) (hremoved : e.schema.removed = []) (origin : Option String) :
    (e.record origin).Idle := by
  let started : Engine := { e.begin origin with phase := .compiling }
  have hstarted : started.AtRest started.schema.live := ⟨h.settled, h.plain, h.failing, h.granted⟩
  have hpass := hstarted.pass hremoved origin
  obtain ⟨left, hleft⟩ := Nat.exists_eq_succ_of_ne_zero (Nat.ne_of_gt h.granted)
  have hcycles : cycles origin e.settings.maxHealCycles .start (e.begin origin) =
      (.ok ⟨true, 1, e.stores.registry.generation, [], [], [], [], false⟩,
        { started with around := started.around.log .askedForUnits, phase := .succeeded }) := by
    rw [hleft, cycles, hpass]
    rfl
  have hrun : e.runOnce origin =
      (.ok ⟨true, 1, e.stores.registry.generation, [], [], [], [], false⟩,
        { started with around := started.around.log .askedForUnits, phase := .succeeded }) := by
    rw [Engine.begin] at hcycles
    simp only [runOnce, hcycles]
  refine ⟨congrArg Prod.fst hrun, ?_, congrArg (·.2.stores) hrun⟩
  show (e.runOnce origin).2.around.journal.drop e.around.journal.length = _
  rw [hrun]
  show List.drop e.around.journal.length (e.around.journal ++ [.began origin] ++ [.askedForUnits]) = _
  rw [List.append_assoc, List.drop_left]
  rfl

/-! ### Histories -/

end Engine

/-- What may happen between two runs without taking an engine from its rest: edits count only by what they leave
to compile. -/
def Event.isHarmless : Event → Bool
  | failRequests _ | run _ _ | reset => false
  | _ => true

def Event.isEdit : Event → Bool
  | edit _ => true
  | _ => false

/-- The second schema has the same to compile, and no more to retire than what was handed out. -/
structure Schema.Unedited (s s' : Schema) : Prop where
  types : s'.types = s.types
  blacklist : s'.blacklist = s.blacklist
  removed : s'.removed = []

theorem Schema.Unedited.live_eq {s s' : Schema} (h : s.Unedited s') : s'.live = s.live := by
  simp only [live, isBlacklisted, h.types, h.blacklist]

namespace Engine

variable {e e' : Engine} {origin : Option String}

theorem AtRest.after {live : List TypeModel} (h : e.AtRest live) {between : List Event}
    (hbetween : ∀ event ∈ between, event.isHarmless = true) : (e.after between).AtRest live := by
  induction between generalizing e with
  | nil => exact h
  | cons event rest ih =>
    obtain ⟨hevent, hrest⟩ := List.forall_mem_cons.1 hbetween
    refine ih ?_ hrest
    cases event with
    | edit _ | script _ | subscribe _ | unsubscribe _ | receive _ =>
      exact ⟨h.settled, ⟨h.plain.drafts, h.plain.extraRemoved, h.plain.later⟩, h.failing, h.granted⟩
    | failRequests _ | run _ _ | reset => cases hevent

theorem schema_after {between : List Event} (hbetween : ∀ event ∈ between, event.isHarmless = true)
    (hquiet : ∀ event ∈ between, event.isEdit = false) : (e.after between).schema = e.schema := by
  induction between generalizing e with
  | nil => rfl
  | cons event rest ih =>
    obtain ⟨hevent, hrest⟩ := List.forall_mem_cons.1 hbetween
    obtain ⟨hfirst, hothers⟩ := List.forall_mem_cons.1 hquiet
    refine (ih hrest hothers).trans ?_
    cases event with
    | script _ | subscribe _ | unsubscribe _ | receive _ => rfl
    | edit _ => cases hfirst
    | failRequests _ | run _ _ | reset => cases hevent

/-- If nobody edits the schema, neither while the compiler of a pass runs nor afterwards, there is nothing new to
compile. -/
theorem unedited_of_quiet {p : PassRecord} (hplain : p.before.around.service.Plain)
    (hpass : p.before.pass origin = (p.result, p.after)) {outcome : CompileOutcome} (hok : p.result = .ok outcome)
    (hquiet : ∀ entry ∈ p.journal, entry.hasEdit = false) (hsame : e.schema = p.after.schema) {between : List Event}
    (hbetween : ∀ event ∈ between, event.isHarmless = true) (hnone : ∀ event ∈ between, event.isEdit = false) :
    p.before.schema.Unedited (e.after between).schema := by
  obtain ⟨batch, hasked⟩ := asked_of_pass (hok ▸ hpass)
  obtain ⟨-, -, hrequested⟩ := Schema.request_eq_ok (request_of_askForUnits hplain hasked)
  have hschema : p.after.schema = p.before.askForUnits.2.schema :=
    congrArg Service.schema (p.service_of_quiet hpass hquiet)
  rw [schema_after hbetween hnone, hsame, hschema, hrequested]
  exact ⟨rfl, rfl, rfl⟩

/-- A run that succeeds leaves the engine at rest. -/
theorem InStep.atRest_record (h : e.InStep) (hdue : e.stores.staging.AllDue) (hpos : 0 < e.settings.maxHealCycles)
    {report : HealReport} (hok : (e.record origin).result = .ok report) (hsuccess : report.success = true) :
    ∃ p, (e.record origin).passes.getLast? = some p ∧ (e.record origin).after = { p.after with phase := .succeeded } ∧
      (e.record origin).after.AtRest p.before.schema.live := by
  obtain ⟨p, outcome, hp, hresult, houtcome, hafter⟩ := succeeded_record hok hsuccess
  have hmem := List.mem_of_getLast? hp
  obtain ⟨hbefore, hpass⟩ := forall_passes keptByRuns_inStep h origin p hmem
  have hdueBefore := (forall_passes
    (keptByEvents_of_offers Staging.keptByOffers_allDue).toKeptByRuns hdue origin p hmem).1
  have hsettings := (forall_passes (keptByRuns_settings e.settings) rfl origin p hmem).1
  have hstep := (hbefore.pass origin).1
  have hkept := p.before.settings_pass origin
  rw [hresult] at hpass
  rw [hpass] at hstep hkept
  have hgranted : 0 < p.after.settings.maxHealCycles := by rwa [hkept, hsettings]
  have hrest : p.after.AtRest p.before.schema.live :=
    ⟨hbefore.settled_pass hdueBefore hpass houtcome, hstep.plain, failing_pass hpass, hgranted⟩
  rw [hafter]
  exact ⟨p, hp, rfl, hrest.settled, hrest.plain, hrest.failing, hrest.granted⟩

/-- The request of every pass is exact. After a run that succeeded, as long as there is the same to compile as
at its last request, a run finds nothing to do. -/
theorem batches_exact {settings : Settings} {host : HostTypes} {schema : Schema} {toolchain : Toolchain}
    {start : Engine} (hnew : Engine.new settings host schema toolchain = .ok start) (history : List Event) :
    ∀ r ∈ start.runsIn history,
      (∀ p ∈ r.passes, ∀ batch e, p.before.askForUnits = (.ok batch, e) →
        (e.stage batch).1.Exact p.before.stores p.before.schema) ∧
      ∀ report, r.result = .ok report → report.success = true →
        ∃ p, r.passes.getLast? = some p ∧ r.after = { p.after with phase := .succeeded } ∧
          ∀ between : List Event, (∀ event ∈ between, event.isHarmless = true) →
            let e := r.after.after between
            p.before.schema.Unedited e.schema →
              ∀ origin withdrawn, ((e.called withdrawn).record origin).Idle := by
  have hpos := pos_of_new hnew
  obtain ⟨-, rfl⟩ := new_eq_ok hnew
  have hdueKept := keptByEvents_of_offers Staging.keptByOffers_allDue
  intro r hr
  obtain ⟨hbefore, hrecord⟩ := forall_runsIn keptByEvents_inStep (inStep_fresh ..) history r hr
  obtain ⟨hdue, -⟩ := forall_runsIn hdueKept (Staging.allDue_of_idle rfl) history r hr
  constructor
  · intro p hp batch e hasked
    rw [hrecord] at hp
    obtain ⟨hstep, -⟩ := forall_passes keptByRuns_inStep hbefore r.origin p hp
    obtain ⟨hdueBefore, -⟩ := forall_passes hdueKept.toKeptByRuns hdue r.origin p hp
    exact hstep.exact_stage hdueBefore hasked
  · intro report hok hsuccess
    obtain ⟨hsettings, -⟩ := forall_runsIn (keptByEvents_settings settings) rfl history r hr
    have hgranted : 0 < r.before.settings.maxHealCycles := by
      rw [hsettings]
      exact hpos
    rw [hrecord] at hok
    obtain ⟨p, hp, hafter, hrest⟩ := hbefore.atRest_record hdue hgranted hok hsuccess
    rw [← hrecord] at hp hafter hrest
    refine ⟨p, hp, hafter, fun between hbetween hsame origin withdrawn => ?_⟩
    have hlater := hrest.after hbetween
    rw [← hsame.live_eq] at hlater
    have hcalled : ((r.after.after between).called withdrawn).AtRest (r.after.after between).schema.live :=
      ⟨hlater.settled, hlater.plain, hlater.failing, hlater.granted⟩
    exact hcalled.record hsame.removed origin

/-- A type is compiled; it gets another text, but the run for that is withdrawn from; then it gets its first text
back. -/
def revertedType : List Event :=
  [.edit (.upsert ⟨"app.Old", "type Old", []⟩), .run none false, .edit (.upsert ⟨"app.Old", "type Older", []⟩),
    .run none true, .edit (.upsert ⟨"app.Old", "type Old", []⟩), .run none false]

/-- The text that was left waiting is not compiled, and nothing is left to do. -/
theorem reverted_type_not_compiled :
    ∃ start, Engine.new .default none .empty ⟨.echo, []⟩ = .ok start ∧
      ∃ r ∈ start.runsIn revertedType, (∃ p ∈ r.passes, p.before.stores.staging.staged.names = ["app.Old"] ∧
        ∃ batch e, p.before.askForUnits = (.ok batch, e) ∧ (e.stage batch).1.names = [] ∧
          (e.stage batch).1.Exact p.before.stores p.before.schema) ∧
        ((r.after.called false).record none).Idle := by
  have hnew : Engine.new .default none .empty ⟨.echo, []⟩ = .ok (fresh .default none .empty ⟨.echo, []⟩) := rfl
  let before := (fresh .default none .empty ⟨.echo, []⟩).after (revertedType.take 5)
  let e := before.called false
  have hr : e.record none ∈ (fresh .default none .empty ⟨.echo, []⟩).runsIn revertedType := by
    have hlast : e.record none ∈ before.runsIn [.run none false] := List.mem_cons_self
    have hsplit := runsIn_append (fresh .default none .empty ⟨.echo, []⟩) (revertedType.take 5) [.run none false]
    exact hsplit ▸ List.mem_append_right _ hlast
  obtain ⟨hexact, hrest⟩ := batches_exact hnew revertedType _ hr
  refine ⟨_, hnew, _, hr, ?_, ?_⟩
  · have hwaits : (e.record none).passes.head?.map (fun p => (p.before.stores.staging.staged.names,
        p.before.askForUnits.1.toOption.map fun batch => (p.before.askForUnits.2.stage batch).1.names)) =
          some (["app.Old"], some []) := by decide +kernel
    obtain ⟨p, hp, hpass⟩ := Option.map_eq_some_iff.1 hwaits
    obtain ⟨hstaged, hasked⟩ := Prod.mk.inj hpass
    obtain ⟨batch, hbatch, hnames⟩ := Option.map_eq_some_iff.1 hasked
    have hasked : p.before.askForUnits = (.ok batch, p.before.askForUnits.2) := Prod.ext (eq_ok_of_toOption hbatch) rfl
    have hmem := List.mem_of_head? hp
    exact ⟨p, hmem, hstaged, batch, _, hasked, hnames, hexact p hmem batch _ hasked⟩
  · have hsucceeds : (e.record none).result.toOption.map HealReport.success = some true := by decide +kernel
    obtain ⟨report, hreport, hsuccess⟩ := Option.map_eq_some_iff.1 hsucceeds
    obtain ⟨p, hp, hafter, hidle⟩ := hrest report (eq_ok_of_toOption hreport) hsuccess
    have hmem := List.mem_of_getLast? hp
    have hstep : e.InStep :=
      keptByEvents_inStep.called _ _ (after_preserves keptByEvents_inStep (inStep_fresh ..) _)
    obtain ⟨hbefore, hpass⟩ := forall_passes keptByRuns_inStep hstep none p hmem
    have hok : ∀ p ∈ (e.record none).passes, p.result.toOption.isSome = true := by decide +kernel
    have hquiet : ∀ p ∈ (e.record none).passes, ∀ entry ∈ p.journal, entry.hasEdit = false := by decide +kernel
    obtain ⟨outcome, houtcome⟩ := Option.isSome_iff_exists.1 (hok p hmem)
    have hsame : (e.record none).after.schema = p.after.schema := by rw [hafter]; rfl
    have hunedited := unedited_of_quiet hbefore.plain hpass (eq_ok_of_toOption houtcome) (hquiet p hmem) hsame
      (List.forall_mem_nil _) (List.forall_mem_nil _)
    exact hidle [] (List.forall_mem_nil _) hunedited none false

end Engine

end HotSchema
