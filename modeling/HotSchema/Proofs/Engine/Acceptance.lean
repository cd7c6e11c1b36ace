import HotSchema.Proofs.Engine.Convergence
import HotSchema.Proofs.Source.Waiting
/-!
# Requests that the registry accepts

A request is taken out of a staging, in which no name waits twice. So it names every unit once and never asks
to compile and to retire the same name, whatever batches the service hands out. Such a request installs as
soon as all its units were produced: the loader finds each of them, and the registry has nothing to refuse.
An error of the registry can therefore end a run only if the compiler itself answered with one.
-/

namespace HotSchema

structure CompileRequest.Admissible (r : CompileRequest) : Prop where
  names : r.names.Nodup
  removed : r.removed.Nodup
  disjoint : ∀ name ∈ r.names, name ∉ r.removed

/-- All that waits, to be compiled and to be retired. -/
def Staging.waiting (s : Staging) : CompileRequest := ⟨s.takeDirty.1, s.takeRemoved.1⟩

theorem Staging.Separate.admissible {s : Staging} (h : s.Separate) : s.waiting.Admissible where
  names := s.staged.nodup
  removed := s.removed.nodup_strings
  disjoint := fun name hname hretired => h name hname (mem_toList_iff.1 hretired)

namespace Stores

variable {s s' : Stores} {r : CompileRequest}

/-! ### Installing an admissible request -/

theorem install_of_admissible (h : r.Admissible) (s : Stores) {produced : List CompiledUnit}
    (hproduced : ∀ name ∈ r.names, name ∈ produced.map CompiledUnit.name) (origin : Option String) :
    ∃ outcome, (s.install r produced origin).1 = .ok outcome ∧ outcome.success = true := by
  obtain ⟨loaded, hload, hnames, hretiring⟩ := exists_loaded hproduced s.library s.host
  unfold install
  simp only [find?_missing_eq_none.2 hproduced, hload, Registry.install_of_nodup (hnames ▸ h.names) hretiring]
  exact ⟨_, rfl, rfl⟩

theorem install_error (h : r.Admissible) {produced : List CompiledUnit} {origin : Option String}
    {error : EngineError} (hfails : (s.install r produced origin).1 = .error error) :
    ∃ missing, error = .loaderInconsistency missing := by
  by_cases hproduced : ∀ name ∈ r.names, name ∈ produced.map CompiledUnit.name
  · obtain ⟨outcome, hok, -⟩ := install_of_admissible h s hproduced origin
    cases hok.symm.trans hfails
  · obtain ⟨missing, hmissing⟩ := s.install_of_missing hproduced origin
    rw [hmissing] at hfails
    exact ⟨missing, (Except.error.inj hfails).symm⟩

/-- A pass over an admissible request gets an error of the registry from its compiler or not at all. -/
theorem conclude_error (h : r.Admissible) {origin : Option String} {call : CallEnd} {error : RegistryError}
    (hfails : (s.conclude r origin call).1 = .error (.registry error)) :
    call.result = .error (.registry error) := by
  unfold conclude at hfails
  rcases hresult : call.result with error' | output <;> rw [hresult] at hfails <;> dsimp only at hfails
  · rw [Except.error.inj hfails]
  · split at hfails
    · split at hfails
      · cases hfails
      · obtain ⟨missing, hmissing⟩ := install_error h hfails
        cases hmissing
    · cases hfails

theorem compile_error (h : r.Admissible) {ω : Type} {scope : String}
    {invoke : Stores → CompilerCall → ω → CallEnd × ω} {origin : Option String} {withdrawn : Bool} {w : ω}
    {error : RegistryError} (hfails : (compile scope invoke r origin withdrawn s w).1 = .error (.registry error)) :
    (invoke s ⟨r.units, s.library.listUnder scope⟩ w).1.result = .error (.registry error) := by
  unfold compile at hfails
  split_ifs at hfails
  · have hconcluded : (s.conclude r origin ⟨.ok .empty, withdrawn⟩).1 = .error (.registry error) := hfails
    cases conclude_error h hconcluded
  · cases hfails
  · have hconcluded : (s.conclude r origin (invoke s ⟨r.units, s.library.listUnder scope⟩ w).1).1 =
        .error (.registry error) := hfails
    exact conclude_error h hconcluded

/-! ### What waits after a pass -/

/-- If nothing waited when a pass began, nothing but removals waits when it is over. -/
theorem Ended.idle {output : CompilerOutput} {result : Except EngineError CompileOutcome}
    (hended : s.Ended r output result s') (hidle : s.staging.staged = ∅) : s'.staging.staged = ∅ := by
  have hnone (unit : SourceUnit) : unit ∉ s.staging.staged.toList := by
    rw [hidle]
    exact List.not_mem_nil
  cases hended with
  | nothing => exact hidle
  | error _ hfailed => rw [hfailed.staging, hidle]
  | rejected _ hrejected =>
    subst hrejected
    refine Roster.ext (List.eq_nil_iff_forall_not_mem.2 fun unit hunit => ?_)
    exact hnone unit (Staging.mem_staged_stageRemovals.1 hunit).2
  | installed _ hinstalled =>
    refine Roster.ext (List.eq_nil_iff_forall_not_mem.2 fun unit hunit => ?_)
    rw [hinstalled.staging, Staging.mem_staged_forgetAll] at hunit
    exact hnone unit hunit.2

end Stores

theorem Service.request_ne_registry (s : Service) (error : RegistryError) :
    s.request.1 ≠ .error (.registry error) := by
  unfold request
  dsimp only
  split_ifs
  · simp
  · split
    · simp
    · split <;> simp

namespace Engine

/-! ### What waits in an engine -/

theorem pass_preserves {Q : Staging → Prop} (hkept : Staging.KeptByOffers Q) {e : Engine}
    (he : Q e.stores.staging) (origin : Option String) : Q (e.pass origin).2.stores.staging := by
  have hpassed := e.passed_pass origin
  generalize e.pass origin = end_ at hpassed
  cases hpassed with
  | @refused e₁ _ hasked =>
    have hstores : e₁.stores = e.stores := congrArg (·.2.stores) hasked.symm
    rwa [← hstores] at he
  | aborted hasked hcompile => exact hkept.take (hkept.idle _ ((ended_of_compile hcompile).idle rfl)) ..
  | compiled hasked hcompile => exact hkept.idle _ ((ended_of_compile hcompile).idle rfl)

/-- What holds of a staging at rest, and is kept while units wait, holds of every engine's staging, whatever
its service hands out. -/
theorem keptByEvents_of_offers {Q : Staging → Prop} (hkept : Staging.KeptByOffers Q) :
    KeptByEvents fun e => Q e.stores.staging where
  phase := fun _ _ he => he
  begin := fun _ _ he => he
  pass := fun _ origin he => pass_preserves hkept he origin
  heal := fun _ _ he => he
  regenerate := fun _ he => hkept.requestFullRebuild _ he
  called := fun _ _ he => he
  release := fun _ he => he
  edit := fun _ _ he => he
  script := fun _ _ he => he
  failRequests := fun _ _ he => he
  hub := fun _ _ he => he
  reset := fun _ _ => hkept.idle _ rfl

/-! ### Errors of the registry -/

/-- What the compiler answers if the next pass calls it. -/
def answer (e : Engine) : Option (Except EngineError CompilerOutput) :=
  match e.askForUnits with
  | (.error _, _) => none
  | (.ok batch, e) =>
    let (request, e) := e.stage batch
    let call : CompilerCall := ⟨request.units, e.stores.library.listUnder e.settings.scope⟩
    some (Surroundings.call e.settings.timeoutSecs e.phase e.stores call e.around).1.result

theorem pass_error {e : Engine} (hseparate : e.stores.staging.Separate) {origin : Option String}
    {error : RegistryError} (hfails : (e.pass origin).1 = .error (.registry error)) :
    e.answer = some (.error (.registry error)) := by
  have hpassed := e.passed_pass origin
  generalize e.pass origin = end_ at hpassed hfails
  unfold answer
  cases hpassed with
  | refused hasked =>
    have hrequest := congrArg Prod.fst hasked
    cases hfails
    exact absurd hrequest (e.around.service.request_ne_registry error)
  | @aborted batch e₁ _ _ hasked hcompile =>
    have hstores : e₁.stores = e.stores := congrArg (·.2.stores) hasked.symm
    rw [← hstores] at hseparate
    have hadmissible : (e₁.stage batch).1.Admissible :=
      (Staging.keptByOffers_separate.take hseparate _ _).admissible
    have hcompiled : ((e₁.stage batch).2.compile origin (e₁.stage batch).1).1 = .error (.registry error) := by
      rw [hcompile]
      exact hfails
    rw [hasked]
    exact congrArg some (Stores.compile_error hadmissible hcompiled)
  | compiled => cases hfails

/-- A run that ends in an error ends with the error of its last pass. -/
theorem Cycles.error_last {origin : Option String} {left : Nat} {report : HealReport} {e : Engine}
    {end_ : Except EngineError HealReport × Engine} {records : List PassRecord}
    (h : Cycles origin left report e end_ records) {error : EngineError} (hfails : end_.1 = .error error) :
    ∃ p ∈ records, p.result = .error error := by
  induction h with
  | exhausted | succeeded | unhealed => cases hfails
  | error =>
    cases hfails
    exact ⟨_, List.mem_cons_self, rfl⟩
  | healed _ _ _ _ _ ih =>
    obtain ⟨p, hp, hresult⟩ := ih hfails
    exact ⟨p, List.mem_cons_of_mem _ hp, hresult⟩

theorem error_record {e : Engine} {origin : Option String} {error : EngineError}
    (hfails : (e.record origin).result = .error error) :
    ∃ p ∈ (e.record origin).passes, p.result = .error error := by
  obtain ⟨e', hcycles, -⟩ := cycles_of_error hfails
  exact hcycles.error_last rfl

/-! ### Histories -/

def withService (e : Engine) (service : Service) : Engine := { e with around := { e.around with service } }

/-- No name waits twice, and whatever batch comes next, its request is admissible and installs into any stores
once all its units were produced. -/
structure Accepting (e : Engine) : Prop where
  staged : e.stores.staging.staged.names.Nodup
  removed : e.stores.staging.removed.names.Nodup
  separate : e.stores.staging.Separate
  admissible : ∀ batch, (e.stage batch).1.Admissible
  installs : ∀ batch (stores : Stores) produced origin,
    (∀ name ∈ (e.stage batch).1.names, name ∈ produced.map CompiledUnit.name) →
      ∃ outcome, (stores.install (e.stage batch).1 produced origin).1 = .ok outcome ∧ outcome.success = true

theorem accepting_of_separate {e : Engine} (h : e.stores.staging.Separate) : e.Accepting := by
  have hadmissible (batch : SourceBatch) : (e.stage batch).1.Admissible :=
    (Staging.keptByOffers_separate.take h _ _).admissible
  exact ⟨e.stores.staging.staged.nodup, e.stores.staging.removed.nodup, h, hadmissible,
    fun batch stores _ origin hproduced => Stores.install_of_admissible (hadmissible batch) stores hproduced origin⟩

/-- Whatever is done to a staging, no name waits twice in it, so that what waits can be asked for. And whatever batches
a service hands out, no pass has a request that the registry refuses or that does not load once all was produced; and
no run ends in an error of the registry, unless the compiler answered with it. -/
theorem requests_accepted {settings : Settings} {host : HostTypes} {schema : Schema} {toolchain : Toolchain}
    {start : Engine} (hnew : Engine.new settings host schema toolchain = .ok start) (service : Service)
    (history : List Event) :
    let start := start.withService service
    (∀ calls : List StagingCall, let s := calls.foldl Staging.perform .empty
      s.staged.names.Nodup ∧ s.removed.names.Nodup ∧ s.Separate ∧ s.waiting.Admissible) ∧
      (start.after history).Accepting ∧
      ∀ r ∈ start.runsIn history, (∀ p ∈ r.passes, p.before.Accepting) ∧
        ∀ error, r.result = .error (.registry error) →
          ∃ p ∈ r.passes, p.before.answer = some (.error (.registry error)) := by
  obtain ⟨-, rfl⟩ := new_eq_ok hnew
  have hkept := keptByEvents_of_offers Staging.keptByOffers_separate
  have hstart : ((fresh settings host schema toolchain).withService service).stores.staging.Separate :=
    Staging.separate_of_idle rfl
  refine ⟨fun calls => ?_, accepting_of_separate (after_preserves hkept hstart history), fun r hr => ?_⟩
  · have hseparate := Staging.separate_performed calls
    exact ⟨Roster.nodup _, Roster.nodup _, hseparate, hseparate.admissible⟩
  obtain ⟨hbefore, hrecord⟩ := forall_runsIn hkept hstart history r hr
  have hpasses := forall_passes hkept.toKeptByRuns hbefore r.origin
  rw [← hrecord] at hpasses
  refine ⟨fun p hp => accepting_of_separate (hpasses p hp).1, fun error hfails => ?_⟩
  rw [hrecord] at hfails
  obtain ⟨p, hp, hresult⟩ := error_record hfails
  rw [← hrecord] at hp
  obtain ⟨hseparate, hpass⟩ := hpasses p hp
  exact ⟨p, hp, pass_error hseparate ((congrArg Prod.fst hpass).trans hresult)⟩

/-- Two texts for one name, which is to be retired as well, and a second name that is to be retired twice. -/
def contradictory : Service :=
  ⟨.empty, 0, [⟨"app.Twice", "old", []⟩, ⟨"app.Twice", "new", []⟩], ["app.Gone", "app.Twice", "app.Gone"], []⟩

/-- The first name is only compiled, and the second is retired once. -/
theorem contradictory_batch_accepted :
    ∃ start, Engine.new .default none .empty ⟨.echo, []⟩ = .ok start ∧
      ∃ r ∈ (start.withService contradictory).runsIn [.run none false], ∃ p ∈ r.passes, p.before.Accepting ∧
        ∃ batch, p.before.askForUnits.1 = .ok batch ∧
          (p.before.stage batch).1.names = ["app.Twice"] ∧ (p.before.stage batch).1.removed = ["app.Gone"] := by
  have hnew : Engine.new .default none .empty ⟨.echo, []⟩ = .ok (fresh .default none .empty ⟨.echo, []⟩) := rfl
  let start := (fresh .default none .empty ⟨.echo, []⟩).withService contradictory
  have hr : (start.called false).record none ∈ start.runsIn [.run none false] := List.mem_cons_self
  have hrequest : ((start.called false).record none).passes.head?.map (fun p =>
      p.before.askForUnits.1.toOption.map fun batch =>
        ((p.before.stage batch).1.names, (p.before.stage batch).1.removed)) =
      some (some (["app.Twice"], ["app.Gone"])) := by decide +kernel
  obtain ⟨p, hp, hasked⟩ := Option.map_eq_some_iff.1 hrequest
  obtain ⟨batch, hbatch, hnames⟩ := Option.map_eq_some_iff.1 hasked
  obtain ⟨hcompiled, hretired⟩ := Prod.mk.inj hnames
  have hpass := List.mem_of_head? hp
  have haccepted := ((requests_accepted hnew contradictory [.run none false]).2.2 _ hr).1 p hpass
  exact ⟨_, hnew, _, hr, p, hpass, haccepted, batch, eq_ok_of_toOption hbatch, hcompiled, hretired⟩

end Engine

end HotSchema
