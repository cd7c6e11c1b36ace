import HotSchema.Proofs.Engine.Reruns
import HotSchema.Proofs.Session.Hub
/-!
# Whom a rerun tells

What a pass installs is told to every open listener but those of one session, the session that the pass was made
for. A rerun serves the requests that came during the run before it, but its passes are made for the session that
called, like those of the first run. So a rerun leaves out nobody who is to be told exactly if it published
nothing while the calling session listened, or that session was among those that asked.
-/

namespace HotSchema

/-- The session of a request, which may have come from none. -/
def JournalEntry.asker? : JournalEntry → Option (Option String)
  | coalesced origin => some origin
  | _ => none

/-- The sessions whose requests were taken note of. -/
def askersOf (journal : List JournalEntry) : List (Option String) := journal.filterMap JournalEntry.asker?

theorem askersOf_ne_nil {journal : List JournalEntry} (h : coalescedIn journal = true) : askersOf journal ≠ [] := by
  obtain ⟨origin, hmem⟩ := coalescedIn_iff.1 h
  exact List.ne_nil_of_mem (List.mem_filterMap.2 ⟨_, hmem, rfl⟩)

/-- The event of a pass that published a generation. -/
def PassRecord.published? (p : PassRecord) : Option CompiledEvent :=
  match p.result with
  | .error _ => none
  | .ok outcome =>
    let generation := p.after.stores.registry.generation
    if generation = p.before.stores.registry.generation then none
    else some ⟨true, generation, outcome.loaded ++ outcome.retired⟩

/-- Whom a pass tells: the open listeners but those of one session, and nobody if it published nothing. -/
structure PassRecord.TellsAllBut (p : PassRecord) (origin : Option String) : Prop where
  silent : p.published? = none →
    p.after.stores.registry = p.before.stores.registry ∧ p.after.stores.hub = p.before.stores.hub
  told : ∀ event, p.published? = some event → ∀ l ∈ p.before.stores.hub.listeners, l.isOpen = true →
    p.after.stores.hub.listener? l.number = some (l.told event origin)

/-- Every event of the run is queued for every open listener whose session did not ask for the run. -/
def RunRecord.TellsOthers (r : RunRecord) (askers : List (Option String)) : Prop :=
  ∀ p ∈ r.passes, ∀ event, p.published? = some event →
    ∀ l ∈ p.before.stores.hub.listeners, l.isOpen = true → some l.session ∉ askers →
      p.after.stores.hub.listener? l.number = some { l with queue := l.queue ++ [event] }

/-- Whenever the run publishes while a session listens, that session is among those that asked for the run. -/
def RunRecord.AskedBy (r : RunRecord) (session : Option String) (askers : List (Option String)) : Prop :=
  ∀ p ∈ r.passes, ∀ event, p.published? = some event →
    ∀ l ∈ p.before.stores.hub.listeners, l.isOpen = true → session = some l.session → session ∈ askers

theorem Listener.told_eq_iff {l : Listener} {event : CompiledEvent} {exclude : Option String} :
    l.told event exclude = { l with queue := l.queue ++ [event] } ↔ exclude ≠ some l.session := by
  unfold told
  split
  · next heq =>
    refine ⟨fun hsame => ?_, fun hne => absurd heq hne⟩
    have hqueue := congrArg (List.length ∘ Listener.queue) hsame
    simp at hqueue
  · next hne => exact ⟨fun _ => hne, fun _ => rfl⟩

/-- A run whose passes are made for one session tells the others exactly if that session has no claim to be told. -/
theorem RunRecord.tellsOthers_iff {r : RunRecord} {origin : Option String}
    (h : ∀ p ∈ r.passes, p.TellsAllBut origin) (askers : List (Option String)) :
    r.TellsOthers askers ↔ r.AskedBy origin askers := by
  constructor
  · rintro htells p hp event hevent l hl hopen rfl
    by_contra hasker
    have htold := htells p hp event hevent l hl hopen hasker
    rw [(h p hp).told event hevent l hl hopen, Option.some.injEq, Listener.told_eq_iff] at htold
    exact htold rfl
  · intro hasked p hp event hevent l hl hopen hasker
    rw [(h p hp).told event hevent l hl hopen, Option.some.injEq, Listener.told_eq_iff]
    intro horigin
    exact hasker (horigin ▸ hasked p hp event hevent l hl hopen horigin)

namespace Engine

variable {e : Engine} {origin : Option String}

/-! ### One pass -/

theorem compile_told (e : Engine) (origin : Option String) (r : CompileRequest) :
    e.stores.Silent (e.compile origin r).2.stores ∨
      ∃ outcome, (e.compile origin r).1 = .ok outcome ∧
        e.stores.Announced r origin outcome (e.compile origin r).2.stores := by
  rcases hcompile : Stores.compile e.settings.scope (Surroundings.call e.settings.timeoutSecs e.phase)
    r origin e.around.withdrawn e.stores e.around with ⟨result, stores, around⟩
  have h : e.compile origin r = (result, { e with stores, around }) := by
    simp only [compile, hcompile]
  rw [h]
  rcases Stores.compile_told hcompile with ⟨hsilent, -⟩ | ⟨outcome, rfl, -, htold⟩
  · exact Or.inl hsilent
  · exact Or.inr ⟨outcome, rfl, htold⟩

theorem pass_told (e : Engine) (origin : Option String) :
    e.stores.Silent (e.pass origin).2.stores ∨
      ∃ r outcome, (e.pass origin).1 = .ok outcome ∧
        e.stores.Announced r origin outcome (e.pass origin).2.stores := by
  have hpassed := e.passed_pass origin
  generalize e.pass origin = end_ at hpassed
  cases hpassed with
  | @refused e₁ _ hasked =>
    have hstores : e₁.stores = e.stores := congrArg (·.2.stores) hasked.symm
    rw [← hstores]
    exact Or.inl ⟨rfl, rfl⟩
  | @aborted batch e₁ e₂ _ hasked hcompile =>
    have hstores : e₁.stores = e.stores := congrArg (·.2.stores) hasked.symm
    have hfailed := (ended_of_compile hcompile).failed
    rw [← hstores]
    exact Or.inl ⟨hfailed.registry, hfailed.hub⟩
  | @compiled batch e₁ _ outcome hasked hcompile =>
    have hstores : e₁.stores = e.stores := congrArg (·.2.stores) hasked.symm
    have htold := (e₁.stage batch).2.compile_told origin (e₁.stage batch).1
    rw [hcompile] at htold
    -- Staging before the compile pass leaves the registry and the hub to it.
    rw [← hstores]
    rcases htold with hsilent | ⟨outcome', hresult, htold⟩
    · exact Or.inl ⟨hsilent.registry, hsilent.hub⟩
    · cases hresult
      exact Or.inr ⟨_, outcome, rfl,
        htold.success, htold.loaded, htold.retired, htold.next, htold.generation, htold.hub⟩

theorem numbered_pass (hn : e.stores.hub.Numbered) (origin : Option String) :
    (e.pass origin).2.stores.hub.Numbered := by
  rcases e.pass_told origin with hsilent | ⟨r, outcome, -, htold⟩
  · rwa [hsilent.hub]
  · rw [htold.hub]
    exact hn.publish ..

theorem tellsAllBut {p : PassRecord} (hn : p.before.stores.hub.Numbered)
    (hpass : p.before.pass origin = (p.result, p.after)) : p.TellsAllBut origin := by
  have htells := p.before.pass_told origin
  rw [hpass] at htells
  dsimp only at htells
  rcases htells with hsilent | ⟨r, outcome, hresult, htold⟩
  · have hnone : p.published? = none := by
      unfold PassRecord.published?
      rw [hsilent.registry]
      rcases p.result with error | outcome
      · rfl
      · exact if_pos rfl
    refine ⟨fun _ => ⟨hsilent.registry, hsilent.hub⟩, fun event hevent => ?_⟩
    cases hnone.symm.trans hevent
  · have hnext := htold.next
    have hsome : p.published? =
        some ⟨true, p.after.stores.registry.generation, outcome.loaded ++ outcome.retired⟩ := by
      unfold PassRecord.published?
      rw [hresult]
      exact if_neg (by omega)
    refine ⟨fun hnone => ?_, fun event hevent l hl hopen => ?_⟩
    · cases hsome.symm.trans hnone
    · cases hsome.symm.trans hevent
      rw [htold.hub]
      exact hn.listener?_publish _ origin (hn.listener?_of_mem hl) hopen

/-! ### Runs and histories -/

theorem keptByRuns_numbered : KeptByRuns fun e => e.stores.hub.Numbered where
  phase := fun _ _ hn => hn
  begin := fun _ _ hn => hn
  pass := fun _ origin hn => numbered_pass hn origin
  heal := fun _ _ hn => hn
  regenerate := fun _ hn => hn

theorem numbered_runOnce (hn : e.stores.hub.Numbered) (origin : Option String) :
    (e.runOnce origin).2.stores.hub.Numbered :=
  runOnce_preserves keptByRuns_numbered hn origin

theorem numbered_take (hn : e.stores.hub.Numbered) (event : Event) : (e.take event).stores.hub.Numbered := by
  cases event with
  | subscribe session => exact hn.subscribe session
  | unsubscribe number => exact hn.drop number
  | receive number => exact hn.receive number
  | run origin withdrawn =>
    exact run_preserves (P := fun e => e.stores.hub.Numbered) (fun _ hn => numbered_runOnce hn origin) (fun _ hn => hn) hn
  | edit _ | script _ | failRequests _ | reset => exact hn

theorem numbered_after (hn : e.stores.hub.Numbered) (history : List Event) :
    (e.after history).stores.hub.Numbered := by
  induction history generalizing e with
  | nil => exact hn
  | cons event rest ih => exact ih (numbered_take hn event)

/-- Whatever came before a run of a call, each of its passes tells the open listeners but those of the session that
called. -/
theorem tellsAllBut_of_mem_runs (hn : e.stores.hub.Numbered) {withdrawn : Bool} {r : RunRecord}
    (hr : r ∈ e.runs origin withdrawn) : ∀ p ∈ r.passes, p.TellsAllBut origin := by
  have hcalled : (e.called withdrawn).stores.hub.Numbered := hn
  obtain ⟨hbefore, hrecord⟩ := forall_runs (P := fun e => e.stores.hub.Numbered)
    (fun _ hn => numbered_runOnce hn origin) hcalled r hr
  rw [hrecord]
  intro p hp
  obtain ⟨hnumbered, hpass⟩ := forall_passes keptByRuns_numbered hbefore origin p hp
  exact tellsAllBut hnumbered hpass

/-- A rerun serves the requests of the run before it. Its passes tell the open listeners but those of the session
that called, so every listener of a session that did not ask is told exactly if, whenever the rerun publishes while
the calling session listens, that session had asked too. -/
theorem rerun_tells_others_iff {settings : Settings} {host : HostTypes} {schema : Schema} {toolchain : Toolchain}
    {start : Engine} (hnew : Engine.new settings host schema toolchain = .ok start) (history : List Event)
    (origin : Option String) (withdrawn : Bool) :
    ∀ earlier previous r later,
      (start.after history).runs origin withdrawn = earlier ++ previous :: r :: later →
        r.before = previous.after ∧ askersOf previous.journal ≠ [] ∧ (∀ p ∈ r.passes, p.TellsAllBut origin) ∧
          (r.TellsOthers (askersOf previous.journal) ↔ r.AskedBy origin (askersOf previous.journal)) := by
  intro earlier previous r later hruns
  have hn : (start.after history).stores.hub.Numbered := by
    obtain ⟨-, rfl⟩ := new_eq_ok hnew
    exact numbered_after Hub.numbered_empty history
  have hprecedes := precedes_of_runs hruns
  have hprevious : previous ∈ (start.after history).runs origin withdrawn := by simp [hruns]
  have hr : r ∈ (start.after history).runs origin withdrawn := by simp [hruns]
  have hasked : coalescedIn previous.journal = true := by
    obtain ⟨-, hpending⟩ := forall_runs_journal (pos_after hnew history) previous hprevious
    rw [← hpending]
    exact hprecedes.pending
  have htells := tellsAllBut_of_mem_runs hn hr
  exact ⟨hprecedes.before, askersOf_ne_nil hasked, htells, RunRecord.tellsOthers_iff htells _⟩

/-- A type is defined while the first run compiles, and a run is asked for. -/
def definedMeanwhile (askers : List (Option String)) : Toolchain :=
  ⟨.echo,
    [some ⟨.edit (.upsert ⟨"app.New", "type New", []⟩) :: askers.map .requestCompile, .immediate, .compiled⟩]⟩

def twoListen : List Event := [.subscribe "editor", .subscribe "viewer"]

/-- The editor asked for the rerun too, and then only the viewer is to be told. -/
theorem viewer_told_of_rerun :
    ∃ start, Engine.new .default none oneType (definedMeanwhile [none, some "editor"]) = .ok start ∧
      ∃ previous r, (start.after twoListen).runs (some "editor") false = [previous, r] ∧
        r.passes.map PassRecord.published? = [some ⟨true, 2, ["app.New"]⟩] ∧
        r.TellsOthers (askersOf previous.journal) := by
  have hnew : Engine.new .default none oneType (definedMeanwhile [none, some "editor"]) =
    .ok (fresh .default none oneType (definedMeanwhile [none, some "editor"])) := rfl
  refine ⟨_, hnew, ?_⟩
  have hmade : (((fresh .default none oneType (definedMeanwhile [none, some "editor"])).after twoListen).runs
      (some "editor") false).map (fun r => (askersOf r.journal, r.passes.map PassRecord.published?)) =
        [([none, some "editor"], [some ⟨true, 1, ["app.Old"]⟩]), ([], [some ⟨true, 2, ["app.New"]⟩])] := by
    decide +kernel
  obtain ⟨previous, rest, hruns, hprevious, hrest⟩ := List.map_eq_cons_iff.1 hmade
  obtain ⟨r, rfl, hr⟩ := List.map_eq_singleton_iff.1 hrest
  obtain ⟨haskers, -⟩ := Prod.mk.inj hprevious
  obtain ⟨-, hpublished⟩ := Prod.mk.inj hr
  obtain ⟨-, -, -, htells⟩ := rerun_tells_others_iff hnew twoListen (some "editor") false [] previous r [] hruns
  refine ⟨previous, r, hruns, hpublished, htells.2 ?_⟩
  intro p _ event _ l _ _ _
  simp [haskers]

/-- Only somebody without a session asked, and still the editor is not told of the new type. -/
theorem editor_not_told_of_rerun :
    ∃ start, Engine.new .default none oneType (definedMeanwhile [none]) = .ok start ∧
      ∃ previous r, (start.after twoListen).runs (some "editor") false = [previous, r] ∧
        askersOf previous.journal = [none] ∧ r.passes.map PassRecord.published? = [some ⟨true, 2, ["app.New"]⟩] ∧
        ¬ r.TellsOthers (askersOf previous.journal) := by
  refine ⟨fresh .default none oneType (definedMeanwhile [none]), rfl, ?_⟩
  have hmade : (((fresh .default none oneType (definedMeanwhile [none])).after twoListen).runs
      (some "editor") false).map (fun r => (askersOf r.journal, r.passes.map fun p =>
        (p.published?, p.before.stores.hub.listener? 0, p.after.stores.hub.listener? 0))) =
      [([none], [(some ⟨true, 1, ["app.Old"]⟩, some ⟨0, "editor", true, []⟩, some ⟨0, "editor", true, []⟩)]),
        ([], [(some ⟨true, 2, ["app.New"]⟩, some ⟨0, "editor", true, []⟩, some ⟨0, "editor", true, []⟩)])] := by
    decide +kernel
  obtain ⟨previous, rest, hruns, hprevious, hrest⟩ := List.map_eq_cons_iff.1 hmade
  obtain ⟨r, rfl, hr⟩ := List.map_eq_singleton_iff.1 hrest
  obtain ⟨haskers, -⟩ := Prod.mk.inj hprevious
  obtain ⟨-, hpasses⟩ := Prod.mk.inj hr
  obtain ⟨p, hp, hpass⟩ := List.map_eq_singleton_iff.1 hpasses
  simp only [Prod.mk.injEq] at hpass
  obtain ⟨hevent, hbefore, hafter⟩ := hpass
  refine ⟨previous, r, hruns, haskers, by rw [hp, List.map_singleton, hevent], fun htells => ?_⟩
  have htold := htells p (by simp [hp]) _ hevent _ (Hub.mem_of_listener? hbefore) rfl (by simp [haskers])
  cases hafter.symm.trans htold

end Engine

end HotSchema
