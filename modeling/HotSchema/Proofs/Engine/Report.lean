import HotSchema.Proofs.Engine.Acceptance
import HotSchema.Proofs.Engine.Reruns
import HotSchema.Proofs.Engine.Termination
import HotSchema.Proofs.Healing.Log
import Mathlib.Algebra.Ring.Nat
/-!
# What a report says of its run

A run makes its report as it goes, pass by pass, and can end in three ways that give one: its last pass succeeded,
its last pass failed and nothing was left to repair, or the last pass that was granted failed and something was
repaired in vain. The report tells these apart, it counts the passes and lists their repairs, and what it says of
diagnostics is what the compiler told the last pass. That is said here of the cycles that are left, which is what
changes along a run, and then of whole runs.
-/

namespace HotSchema

def JournalEntry.isCalled : JournalEntry → Bool
  | called _ _ => true
  | _ => false

def Interjection.isNotification : Interjection → Bool
  | edit .notify => true
  | _ => false

namespace PassRecord

/-- How often the pass called the compiler. -/
def calls (p : PassRecord) : Nat := p.journal.countP JournalEntry.isCalled

/-- How often others notified the schema while the pass ran. -/
def notified (p : PassRecord) : Nat :=
  if p.calls = 0 then 0 else p.before.around.toolchain.next.1.during.countP Interjection.isNotification

/-- The errors that the compiler told the pass of, located in what it compiled. -/
def errors (p : PassRecord) : List Token :=
  match p.before.askForUnits with
  | (.error _, _) => []
  | (.ok batch, e) =>
    let (request, e) := e.stage batch
    Stores.errorTokens request.units (e.output request).diagnostics

def isRepaired (p : PassRecord) : Bool := !p.repairs.isEmpty

end PassRecord

/-- A report while its run goes on. -/
structure HealReport.Open (report : HealReport) : Prop where
  success : report.success = false
  exhausted : report.exhausted = false
  loaded : report.loaded = []
  retired : report.retired = []

/-- What the report makes of the last pass, and the phase that the engine is left in. -/
structure HealReport.Judges (report : HealReport) (last : PassRecord) (phase : Phase) : Prop where
  succeeded : report.success = true → report.diagnostics = [] ∧ report.exhausted = false ∧ phase = .succeeded
  failed : report.success = false → report.loaded = [] ∧ report.retired = [] ∧ phase = .unrecoverable ∧
    report.diagnostics = last.errors ∧ last.errors ≠ []
  exhausted : report.exhausted = true ↔ report.success = false ∧ last.repairs ≠ []

/-- What the report says is so, and the run did nothing else: it called the compiler at most once in each pass, and
notified the schema once after each pass that was followed by a repair. -/
structure HealReport.Describes (report : HealReport) (r : RunRecord) : Prop where
  cycles : report.cycles = r.passes.length
  granted : 1 ≤ report.cycles ∧ report.cycles ≤ r.before.settings.maxHealCycles
  calls : r.journal.countP JournalEntry.isCalled ≤ report.cycles
  repairs : report.repairs = r.repairs
  notifications : r.after.schema.notifications = r.before.schema.notifications +
    (r.passes.map PassRecord.notified).sum + r.passes.countP PassRecord.isRepaired
  judges : ∃ last, r.passes.getLast? = some last ∧ report.Judges last r.after.phase
  used : report.exhausted = true → report.cycles = r.before.settings.maxHealCycles
  generation : report.generation = r.after.stores.registry.generation

/-! ### Notifications -/

theorem Schema.notifications_edit (s : Schema) (edit : Edit) :
    (s.edit edit).2.notifications = s.notifications + if Interjection.isNotification (.edit edit) then 1 else 0 := by
  cases edit with
  | notify => rfl
  | upsert | isBlacklisted | typeModel | failTransactions | failCommits => rfl
  | removeType =>
    unfold Schema.edit removeType
    dsimp only
    split <;> rfl
  | blacklist =>
    unfold Schema.edit addToBlacklist
    dsimp only
    split <;> rfl
  | clearBlacklist =>
    unfold Schema.edit clearBlacklist
    dsimp only
    split <;> rfl
  | transaction steps commit =>
    have hbegin : s.begin.2.notifications = s.notifications := by
      unfold Schema.begin
      split <;> rfl
    show (s.transact steps commit).2.notifications = s.notifications
    unfold transact
    rcases hbegun : s.begin with ⟨error | tx, s₁⟩ <;> rw [hbegun] at hbegin
    · exact hbegin
    · dsimp only
      split
      · refine Eq.trans ?_ hbegin
        unfold Schema.commit
        dsimp only
        split <;> rfl
      · exact hbegin

namespace Surroundings

theorem notifications_interjectAll (phase : Phase) (stores : Stores) (is : List Interjection) (w : Surroundings) :
    (interjectAll phase stores is w).2.service.schema.notifications =
      w.service.schema.notifications + is.countP Interjection.isNotification := by
  induction is generalizing w with
  | nil => rfl
  | cons i rest ih =>
    rw [interjectAll_cons, ih, List.countP_cons]
    cases i with
    | edit edit =>
      have hedit : (w.interject phase stores (.edit edit)).2.service.schema = (w.service.schema.edit edit).2 := rfl
      rw [hedit, Schema.notifications_edit]
      omega
    | requestCompile origin => rw [interject, service_requestRun]; rfl
    | withdraw | askPhase | instantiate _ => rfl

theorem notifications_call (budget : Nat) (phase : Phase) (stores : Stores) (c : CompilerCall) (w : Surroundings) :
    (w.call budget phase stores c).2.service.schema.notifications =
      w.service.schema.notifications + w.toolchain.next.1.during.countP Interjection.isNotification :=
  notifications_interjectAll phase stores _ { w with toolchain := w.toolchain.next.2 }

end Surroundings

/-! ### One pass -/

namespace Engine

section

variable {p : PassRecord} {origin : Option String} (hpass : p.before.pass origin = (p.result, p.after))
include hpass

theorem countP_calls : p.after.around.journal.countP JournalEntry.isCalled =
    p.before.around.journal.countP JournalEntry.isCalled + p.calls := by
  obtain ⟨entries, hcontinues⟩ := continues_pass p.before origin
  rw [hpass] at hcontinues
  rw [PassRecord.calls, PassRecord.journal, hcontinues.journal, List.drop_left, List.countP_append]

theorem counts_of_pass : p.after.around.journal.countP JournalEntry.isCalled ≤
      p.before.around.journal.countP JournalEntry.isCalled + 1 ∧
    p.after.schema.notifications = p.before.schema.notifications + p.notified := by
  have hcounted (origin : Option String) : JournalEntry.isCalled (.coalesced origin) = false := rfl
  have hcalls := countP_calls hpass
  have hasked : p.before.askForUnits.2.schema.notifications = p.before.schema.notifications :=
    (p.before.around.service.request_keeps).2.2
  have hpassed := countP_pass hcounted rfl p.before origin
  rw [hpass] at hpassed
  dsimp only at hpassed
  rcases hpassed with ⟨hsame, hnone⟩ | ⟨call, during, hcall, hone⟩
  · have hzero : p.calls = 0 := by omega
    have hschema : p.after.schema = p.before.askForUnits.2.schema := congrArg (·.service.schema) hsame
    rw [PassRecord.notified, if_pos hzero, hschema, hasked]
    exact ⟨by omega, rfl⟩
  · have hcalled : [JournalEntry.called call during].countP JournalEntry.isCalled = 1 := rfl
    have hsingle : p.calls = 1 := by omega
    have hschema : p.after.schema.notifications = p.before.askForUnits.2.schema.notifications +
        p.before.around.toolchain.next.1.during.countP Interjection.isNotification := by
      rw [Engine.schema, hcall]
      exact Surroundings.notifications_call ..
    rw [PassRecord.notified, if_neg (by omega), hschema, hasked]
    exact ⟨by omega, rfl⟩

theorem counts_of_last (hnone : p.repairs = []) :
    p.after.around.journal.countP JournalEntry.isCalled ≤
        p.before.around.journal.countP JournalEntry.isCalled + [p].length ∧
      p.after.schema.notifications =
        p.before.schema.notifications + ([p].map PassRecord.notified).sum + [p].countP PassRecord.isRepaired := by
  obtain ⟨hcalls, hnotified⟩ := counts_of_pass hpass
  refine ⟨hcalls, ?_⟩
  simpa [PassRecord.isRepaired, hnone] using hnotified

end

theorem generation_of_pass {e e' : Engine} {origin : Option String} {outcome : CompileOutcome}
    (hpass : e.pass origin = (.ok outcome, e')) : outcome.generation = e'.stores.registry.generation := by
  have hpassed := e.passed_pass origin
  rw [hpass] at hpassed
  cases hpassed with
  | @compiled batch e₁ _ _ _ hcompile =>
    let staged := (e₁.stage batch).2
    rcases hstores : Stores.compile staged.settings.scope (Surroundings.call staged.settings.timeoutSecs staged.phase)
      (e₁.stage batch).1 origin staged.around.withdrawn staged.stores staged.around with ⟨result, stores, around⟩
    rw [compile, hstores] at hcompile
    cases hcompile
    exact Stores.generation_of_compile hstores

theorem errors_of_pass {p : PassRecord} {origin : Option String} {outcome : CompileOutcome}
    (hpass : p.before.pass origin = (.ok outcome, p.after)) (hfails : outcome.success = false) :
    outcome.diagnostics = p.errors ∧ p.errors ≠ [] := by
  have hpassed := p.before.passed_pass origin
  rw [hpass] at hpassed
  cases hpassed with
  | compiled hasked hcompile =>
    obtain ⟨hdiagnostics, hnonempty⟩ := diagnostics_of_pass hpass hfails hasked
    have herrors : outcome.diagnostics = p.errors := by
      rw [hdiagnostics, PassRecord.errors, hasked]
    exact ⟨herrors, herrors ▸ hnonempty⟩

theorem counts_of_heal {e e' : Engine} {phase : Phase} {tokens : List Token} {repairs : List Repair}
    (hheal : heal { e with phase } tokens = (repairs, e')) :
    e'.around.journal = e.around.journal ∧ e'.schema.notifications = e.schema.notifications := by
  cases hheal
  exact ⟨rfl, (e.pipeline.healInOrder_replays _ e.schema).notifications⟩

/-! ### The cycles of a run -/

section

variable {origin : Option String} {left : Nat} {report report' : HealReport} {e : Engine}
  {end_ : Except EngineError HealReport × Engine} {records : List PassRecord}

/-- Whatever a run comes to, it called the compiler at most once in each pass, and notified the schema once after each
pass that was followed by a repair. -/
theorem Cycles.counts (h : Cycles origin left report e end_ records) :
    end_.2.around.journal.countP JournalEntry.isCalled ≤
        e.around.journal.countP JournalEntry.isCalled + records.length ∧
      end_.2.schema.notifications = e.schema.notifications + (records.map PassRecord.notified).sum +
        records.countP PassRecord.isRepaired := by
  induction h with
  | exhausted => exact ⟨Nat.le_refl _, rfl⟩
  | @error _ _ e after error hpass =>
    exact counts_of_last (p := ⟨{ e with phase := .compiling }, .error error, after⟩) hpass rfl
  | @succeeded _ _ e after outcome hpass hsuccess =>
    have hhealing := healing_of_success { e with phase := .compiling } after hsuccess
    have hcounts := counts_of_last (p := ⟨{ e with phase := .compiling }, .ok outcome, after⟩) hpass
      (congrArg Prod.fst hhealing)
    exact hcounts
  | @unhealed _ _ e after healed outcome hpass hfails hheal =>
    have hhealing := (healing_of_failure { e with phase := .compiling } after hfails).trans hheal
    have hcounts := counts_of_last (p := ⟨{ e with phase := .compiling }, .ok outcome, after⟩) hpass
      (congrArg Prod.fst hhealing)
    obtain ⟨hjournal, hnotifications⟩ := counts_of_heal hheal
    rw [← hjournal, ← hnotifications] at hcounts
    exact hcounts
  | @healed _ _ e after healed outcome repairs _ rest hpass hfails hheal hrepairs _ ih =>
    obtain ⟨hcalls, hnotified⟩ := counts_of_pass (p := ⟨{ e with phase := .compiling }, .ok outcome, after⟩) hpass
    obtain ⟨hjournal, hnotifications⟩ := counts_of_heal hheal
    have hhealing := (healing_of_failure { e with phase := .compiling } after hfails).trans hheal
    have hrepaired : PassRecord.isRepaired ⟨{ e with phase := .compiling }, .ok outcome, after⟩ = true := by
      simpa [PassRecord.isRepaired, PassRecord.repairs, hhealing] using hrepairs
    -- Between the pass and the next cycle the run notifies the schema itself.
    have hregenerated : healed.regenerate.schema.notifications = healed.schema.notifications + 1 := rfl
    have hkept : healed.regenerate.around.journal = healed.around.journal := rfl
    obtain ⟨hrest, hothers⟩ := ih
    rw [hkept, hjournal] at hrest
    rw [hregenerated, hnotifications] at hothers
    dsimp only at hcalls hnotified
    rw [List.map_cons, List.sum_cons, List.countP_cons_of_pos hrepaired, List.length_cons]
    constructor
    · exact hrest.trans (by omega)
    · rw [hothers, hnotified]
      show e.schema.notifications + _ + 1 + _ + _ = _
      omega

theorem Cycles.cycles_eq (h : Cycles origin left report e end_ records) (hok : end_.1 = .ok report') :
    report'.cycles = report.cycles + records.length ∧ records.length ≤ left ∧
      (report.exhausted = false → report'.exhausted = true → records.length = left) := by
  induction h with
  | exhausted =>
    cases hok
    exact ⟨rfl, Nat.le_refl _, fun _ _ => rfl⟩
  | error => cases hok
  | succeeded | unhealed =>
    cases hok
    refine ⟨rfl, by simp, fun hmore hused => ?_⟩
    cases hmore.symm.trans hused
  | healed _ _ _ _ _ ih =>
    obtain ⟨hcycles, hgranted, hused⟩ := ih hok
    refine ⟨?_, Nat.succ_le_succ hgranted, fun hmore hexhausted => congrArg Nat.succ (hused hmore hexhausted)⟩
    rw [hcycles, List.length_cons]
    show _ + 1 + _ = _
    omega

theorem Cycles.generation (h : Cycles origin left report e end_ records) (hok : end_.1 = .ok report')
    (hreport : report.generation = e.stores.registry.generation ∨ 0 < left) :
    report'.generation = end_.2.stores.registry.generation := by
  induction h with
  | exhausted =>
    cases hok
    exact hreport.resolve_right (Nat.lt_irrefl 0)
  | error => cases hok
  | succeeded hpass =>
    cases hok
    have hgeneration := generation_of_pass hpass
    exact hgeneration
  | unhealed hpass _ hheal =>
    cases hok
    have hstores := stores_of_heal hheal
    have hgeneration := generation_of_pass hpass
    rw [← hstores] at hgeneration
    exact hgeneration
  | healed hpass _ hheal _ _ ih =>
    have hstores := stores_of_heal hheal
    have hgeneration := generation_of_pass hpass
    rw [← hstores] at hgeneration
    exact ih hok (Or.inl hgeneration)

theorem Cycles.judges (h : Cycles origin left report e end_ records) (hopen : report.Open)
    (hok : end_.1 = .ok report') (hleft : 0 < left) :
    ∃ last, records.getLast? = some last ∧ report'.Judges last end_.2.phase := by
  induction h with
  | exhausted => exact absurd hleft (Nat.lt_irrefl 0)
  | error => cases hok
  | succeeded =>
    cases hok
    refine ⟨_, rfl, fun _ => ⟨rfl, hopen.exhausted, rfl⟩, by simp, ?_⟩
    simp [passed, hopen.exhausted]
  | @unhealed _ _ e after _ outcome hpass hfails hheal =>
    cases hok
    have herrors := errors_of_pass (p := ⟨{ e with phase := .compiling }, .ok outcome, after⟩) hpass hfails
    have hhealing := (healing_of_failure { e with phase := .compiling } after hfails).trans hheal
    refine ⟨_, rfl, ?_, fun _ => ⟨hopen.loaded, hopen.retired, rfl, herrors⟩, ?_⟩
    · simp [passed, hopen.success]
    · simp [passed, hopen.exhausted, PassRecord.repairs, hhealing]
  | @healed left _ e after _ outcome _ _ _ hpass hfails hheal hrepairs hrest ih =>
    rcases Nat.eq_zero_or_pos left with rfl | hleft
    · -- No cycle is left, so the repair comes too late.
      cases hrest
      cases hok
      have herrors := errors_of_pass (p := ⟨{ e with phase := .compiling }, .ok outcome, after⟩) hpass hfails
      have hhealing := (healing_of_failure { e with phase := .compiling } after hfails).trans hheal
      refine ⟨_, rfl, ?_, fun _ => ⟨hopen.loaded, hopen.retired, rfl, herrors⟩, ?_⟩
      · simp [passed, hopen.success]
      · simp [passed, hopen.success, PassRecord.repairs, hhealing, hrepairs]
    · obtain ⟨last, hlast, hjudges⟩ := ih ⟨hopen.success, hopen.exhausted, hopen.loaded, hopen.retired⟩ hok hleft
      exact ⟨last, by rw [List.getLast?_cons, hlast, Option.getD_some], hjudges⟩

end

/-! ### Whole runs -/

theorem describes_record {e : Engine} (hready : e.Ready) {origin : Option String}
    {report : HealReport} (hok : (e.record origin).result = .ok report) : report.Describes (e.record origin) := by
  have hcycles := cycles_of_report hok
  obtain ⟨hcalls, hnotifications⟩ := hcycles.counts
  obtain ⟨hcounted, hgranted, hused⟩ := hcycles.cycles_eq rfl
  obtain ⟨hrepairs, -⟩ := hcycles.reports rfl
  obtain ⟨last, hlast, hjudges⟩ := hcycles.judges ⟨rfl, rfl, rfl, rfl⟩ rfl hready.granted
  have hcounted : report.cycles = (e.record origin).passes.length := hcounted.trans (Nat.zero_add _)
  have hmade : 0 < (e.record origin).passes.length := List.length_pos_of_mem (List.mem_of_getLast? hlast)
  have hcalled : (e.record origin).journal.countP JournalEntry.isCalled ≤ (e.record origin).passes.length := by
    obtain ⟨-, hjournal, -⟩ := record_journal origin hready
    have hbegin : (e.begin origin).around.journal.countP JournalEntry.isCalled =
        e.around.journal.countP JournalEntry.isCalled := by
      simp [Engine.begin, Surroundings.log, JournalEntry.isCalled]
    rw [hjournal, List.countP_append, hbegin] at hcalls
    omega
  exact
    { cycles := hcounted
      granted := ⟨hcounted ▸ hmade, hcounted ▸ hgranted⟩
      calls := hcounted ▸ hcalled
      repairs := hrepairs
      notifications := hnotifications
      judges := ⟨last, hlast, hjudges⟩
      used := fun hexhausted => hcounted.trans (hused rfl hexhausted)
      generation := hcycles.generation rfl (Or.inr hready.granted) }

/-! ### Histories -/

/-- Whatever batches a service hands out and whatever the compiler does, the report of each run is true of it. A run
that ends without one leaves the engine idle. -/
theorem reports_describe_runs {settings : Settings} {host : HostTypes} {schema : Schema} {toolchain : Toolchain}
    {start : Engine} (hnew : Engine.new settings host schema toolchain = .ok start) (service : Service)
    (history : List Event) :
    ∀ r ∈ (start.withService service).runsIn history,
      (∀ report, r.result = .ok report → report.Describes r) ∧
        ∀ error, r.result = .error error → r.after.phase = .idle := by
  intro r hr
  have hkept : (start.withService service).settings = start.settings := rfl
  obtain ⟨hsettings, hrecord⟩ := forall_runsIn (keptByEvents_settings start.settings) hkept history r hr
  have hpos : 0 < r.before.settings.maxHealCycles := by
    rw [hsettings]
    exact pos_of_new hnew
  have hready : r.before.Ready := ⟨hpos, locked_of_mem_runsIn hr⟩
  rw [hrecord]
  refine ⟨fun report hok => describes_record hready hok, fun error hfails => ?_⟩
  obtain ⟨e', -, hafter⟩ := cycles_of_error hfails
  rw [hafter]

/-- A compiler that calls a property a duplicate in both passes that are granted, and somebody who notifies the schema
meanwhile. -/
def duplicateTwice : List Event :=
  let duplicate : Diagnostic := ⟨.error, "app.Order", 2, "duplicate definition", some .duplicateDefinition⟩
  [.edit (.upsert ⟨"app.Order", "type Order",
      [⟨.property, "p1", "total", "total: int"⟩, ⟨.property, "p2", "count", "count: int"⟩]⟩),
    .script [some ⟨[.edit .notify], .immediate, .reports [duplicate] [] none⟩,
      some ⟨[], .immediate, .reports [duplicate] [] none⟩],
    .run none false]

/-- Both properties are deleted, but no cycle is left to find out whether that helped. -/
theorem repair_comes_too_late :
    ∃ start, Engine.new { Settings.default with maxHealCycles := 2 } none .empty ⟨.echo, []⟩ = .ok start ∧
      ∃ r ∈ (start.withService (.new .empty)).runsIn duplicateTwice, r.after.schema.notifications = 3 ∧
        ∃ report, r.result = .ok report ∧ report.cycles = 2 ∧ report.exhausted = true ∧
          report.repairs.map Repair.target = ["p1", "p2"] ∧ report.Describes r := by
  let start := fresh { Settings.default with maxHealCycles := 2 } none .empty ⟨.echo, []⟩
  have hnew : Engine.new { Settings.default with maxHealCycles := 2 } none .empty ⟨.echo, []⟩ = .ok start := rfl
  let r := (((start.withService (.new .empty)).after (duplicateTwice.take 2)).called false).record none
  have hr : r ∈ (start.withService (.new .empty)).runsIn duplicateTwice := List.mem_cons_self
  have hnotified : r.after.schema.notifications = 3 := by decide +kernel
  have hmade : r.result.toOption.map (fun report =>
      (report.cycles, report.exhausted, report.repairs.map Repair.target)) = some (2, true, ["p1", "p2"]) := by
    decide +kernel
  obtain ⟨report, hreport, htells⟩ := Option.map_eq_some_iff.1 hmade
  have hresult : r.result = .ok report := eq_ok_of_toOption hreport
  simp only [Prod.mk.injEq] at htells
  obtain ⟨hcycles, hexhausted, hrepairs⟩ := htells
  have hdescribes := (reports_describe_runs hnew (.new .empty) duplicateTwice r hr).1 report hresult
  exact ⟨_, hnew, r, hr, hnotified, report, hresult, hcycles, hexhausted, hrepairs, hdescribes⟩

end Engine

end HotSchema
