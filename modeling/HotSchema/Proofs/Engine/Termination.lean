import HotSchema.Proofs.Engine.Convergence
import HotSchema.Proofs.Healing.Weight
/-!
# Runs come to an end by themselves

Each repair of a run makes the schema lighter, so if nobody else edits the schema meanwhile, a run makes no
more repairs than the schema weighs when it begins, whatever the compiler reports. Every pass but the last
is followed by a repair, so a run that is granted more cycles than that never uses them up.

Repairs make the schema lighter because errors are located within live types. That rests on the engine being
in step: a unit that an earlier run left waiting was still generated from a type, and if the type is no longer
live, its unit is not handed out.
-/

namespace HotSchema

/-! ### What a run repairs -/

namespace PassRecord

/-- The healing pass that follows: none after an error or a success. -/
def healing (p : PassRecord) : List Repair × Engine :=
  match p.result with
  | .error _ => ([], p.after)
  | .ok outcome =>
    if outcome.success then ([], p.after)
    else Engine.heal { p.after with phase := .healing } outcome.diagnostics

def repairs (p : PassRecord) : List Repair := p.healing.1

def healed (p : PassRecord) : Engine := p.healing.2

def journal (p : PassRecord) : List JournalEntry :=
  p.after.around.journal.drop p.before.around.journal.length

/-- After the pass there is the same to compile as before it. -/
structure Undisturbed (p : PassRecord) : Prop where
  types : p.after.schema.types = p.before.schema.types
  blacklist : p.after.schema.blacklist = p.before.schema.blacklist

end PassRecord

def RunRecord.repairs (r : RunRecord) : List Repair := r.passes.flatMap PassRecord.repairs

/-- Nobody but the run itself changes what there is to compile: no pass finds it changed when it is over. -/
def RunRecord.Undisturbed (r : RunRecord) : Prop := ∀ p ∈ r.passes, p.Undisturbed

theorem Service.request_keeps (s : Service) : s.request.2.schema.types = s.schema.types ∧
    s.request.2.schema.blacklist = s.schema.blacklist ∧ s.request.2.schema.notifications = s.schema.notifications := by
  have hschema : s.schema.request.2.types = s.schema.types ∧ s.schema.request.2.blacklist = s.schema.blacklist ∧
      s.schema.request.2.notifications = s.schema.notifications := by
    unfold Schema.request
    split <;> exact ⟨rfl, rfl, rfl⟩
  unfold request advance
  dsimp only
  split
  · exact ⟨rfl, rfl, rfl⟩
  · split
    · exact ⟨rfl, rfl, rfl⟩
    · split
      · next heq =>
        rw [heq] at hschema
        exact hschema
      · next heq =>
        rw [heq] at hschema
        split <;> exact hschema

/-- A pass does not edit the schema itself: if nobody did while its compiler ran, the service is as the request
for units left it. -/
theorem PassRecord.service_of_quiet {p : PassRecord} {origin : Option String}
    (hpass : p.before.pass origin = (p.result, p.after)) (hquiet : ∀ entry ∈ p.journal, entry.hasEdit = false) :
    p.after.around.service = p.before.askForUnits.2.around.service := by
  have haround := p.before.around_pass origin
  rw [hpass] at haround
  rcases haround with hsame | ⟨call, hcall⟩
  · exact congrArg Surroundings.service hsame
  · rw [hcall]
    refine Surroundings.service_call fun entry hentry => hquiet entry ?_
    rw [← hcall] at hentry
    refine List.drop_subset_drop_left _ ?_ hentry
    simp [Engine.askForUnits, Surroundings.log]

theorem PassRecord.undisturbed_of_quiet {p : PassRecord} {origin : Option String}
    (hpass : p.before.pass origin = (p.result, p.after)) (hquiet : ∀ entry ∈ p.journal, entry.hasEdit = false) :
    p.Undisturbed := by
  obtain ⟨htypes, hblacklist, -⟩ := p.before.around.service.request_keeps
  have hservice := p.service_of_quiet hpass hquiet
  exact ⟨(congrArg (·.schema.types) hservice).trans htypes,
    (congrArg (·.schema.blacklist) hservice).trans hblacklist⟩

namespace Engine

/-! ### One pass -/

/-- The errors of a pass were located within types that were live when it asked for units. -/
theorem InStep.owner_of_pass {e e' : Engine} (h : e.InStep) {origin : Option String} {outcome : CompileOutcome}
    (hpass : e.pass origin = (.ok outcome, e')) (hfails : outcome.success = false) :
    ∀ token ∈ outcome.diagnostics, ∀ ref, token.entity = some ref → ref.owner ∈ e.schema.liveNames := by
  rcases pass_cases h.plain origin with ⟨error, e₁, hfailed, -⟩ | ⟨batch, schema, hrequest, hcompiled⟩
  · rw [hfailed] at hpass
    cases hpass
  · have htaken : (e.staged batch schema).stores.Taken (e.stores.stage batch).1 e.schema.live :=
      h.stores.stage hrequest
    have hended := ((e.staged batch schema).compile_cases origin (e.stores.stage batch).1).1
    rw [hcompiled] at hpass
    dsimp only at hpass
    rcases hcompile : (e.staged batch schema).compile origin (e.stores.stage batch).1 with
      ⟨error | outcome', e₂⟩ <;> rw [hcompile] at hpass hended <;> cases hpass
    exact fun token htoken ref href => htaken.owner_of_ended hended hfails htoken href

theorem lightens_pass {p : PassRecord} {origin : Option String} (hbefore : p.before.InStep)
    (hpass : p.before.pass origin = (p.result, p.after)) (hquiet : p.Undisturbed) :
    p.before.schema.Lightens p.healed.schema p.repairs.length := by
  have hsame : p.before.schema.Lightens p.after.schema 0 := .of_eq hquiet.types hquiet.blacklist
  unfold PassRecord.healed PassRecord.repairs PassRecord.healing
  rcases hresult : p.result with error | outcome
  · exact hsame
  · dsimp only
    split
    · exact hsame
    · next hfails =>
      rw [hresult] at hpass
      have howns : ∀ token ∈ outcome.diagnostics, p.after.schema.Owns token := by
        intro token htoken ref href
        have hlive := hbefore.owner_of_pass hpass (by simpa using hfails) token htoken ref href
        rw [hquiet.types]
        exact (Schema.mem_liveNames.1 hlive).1
      have hhealed := hsame.trans (p.after.pipeline.lightens_heal howns)
      rwa [Nat.zero_add] at hhealed

theorem healing_of_success (before after : Engine) {outcome : CompileOutcome} (hsuccess : outcome.success = true) :
    PassRecord.healing ⟨before, .ok outcome, after⟩ = ([], after) :=
  if_pos hsuccess

theorem healing_of_failure (before after : Engine) {outcome : CompileOutcome} (hfails : outcome.success = false) :
    PassRecord.healing ⟨before, .ok outcome, after⟩ = heal { after with phase := .healing } outcome.diagnostics :=
  if_neg (by simp [hfails])

/-! ### One run -/

section

variable {origin : Option String} {left : Nat} {report : HealReport} {e : Engine}
  {end_ : Except EngineError HealReport × Engine} {records : List PassRecord}

theorem Cycles.repairs_le_weight (h : Cycles origin left report e end_ records) (he : e.InStep)
    (hquiet : ∀ p ∈ records, p.Undisturbed) :
    (records.flatMap PassRecord.repairs).length ≤ e.schema.weight := by
  induction h with
  | exhausted => simp
  | error hpass | succeeded hpass _ | unhealed hpass _ _ =>
    have hbefore := keptByRuns_inStep.phase _ .compiling he
    have hweight := (lightens_pass hbefore hpass (hquiet _ List.mem_cons_self)).weight
    rw [List.flatMap_singleton]
    exact (Nat.le_add_left _ _).trans hweight
  | @healed _ _ e after healed outcome repairs _ rest hpass hfails hheal _ _ ih =>
    obtain ⟨hfirst, hothers⟩ := List.forall_mem_cons.1 hquiet
    have hbefore := keptByRuns_inStep.phase _ .compiling he
    have hafter := keptByRuns_inStep.phase _ .healing (keptByRuns_inStep.of_pass hbefore hpass)
    have hregenerated := keptByRuns_inStep.regenerate _ (keptByRuns_inStep.of_heal hafter hheal)
    have hhealing := (healing_of_failure { e with phase := .compiling } after hfails).trans hheal
    have hweight : healed.schema.weight + repairs.length ≤ e.schema.weight := by
      have hpassed := (lightens_pass hbefore hpass hfirst).weight
      rwa [PassRecord.healed, PassRecord.repairs, hhealing] at hpassed
    -- The next cycle starts from the healed schema, with nothing but a notification more.
    have hrest : (rest.flatMap PassRecord.repairs).length ≤ healed.schema.weight := ih hregenerated hothers
    rw [List.flatMap_cons, List.length_append, PassRecord.repairs, hhealing]
    dsimp only
    omega

/-- A report lists the repairs of all passes. Cycles are used up only if each pass was followed by a repair. -/
theorem Cycles.reports (h : Cycles origin left report e end_ records) {report' : HealReport}
    (hok : end_.1 = .ok report') :
    report'.repairs = report.repairs ++ records.flatMap PassRecord.repairs ∧
      (report.exhausted = false → report'.exhausted = true →
        left ≤ (records.flatMap PassRecord.repairs).length) := by
  induction h with
  | exhausted =>
    cases hok
    simp
  | error => cases hok
  | @succeeded _ _ e after _ _ hsuccess =>
    cases hok
    have hhealing := healing_of_success { e with phase := .compiling } after hsuccess
    refine ⟨?_, fun hmore hused => ?_⟩
    · rw [List.flatMap_singleton, PassRecord.repairs, hhealing, List.append_nil]
      rfl
    · cases hmore.symm.trans hused
  | @unhealed _ _ e after _ _ _ hfails hheal =>
    cases hok
    have hhealing := (healing_of_failure { e with phase := .compiling } after hfails).trans hheal
    refine ⟨?_, fun hmore hused => ?_⟩
    · rw [List.flatMap_singleton, PassRecord.repairs, hhealing, List.append_nil]
      rfl
    · cases hmore.symm.trans hused
  | @healed _ _ e after _ _ repairs _ _ _ hfails hheal hrepairs _ ih =>
    have hhealing := (healing_of_failure { e with phase := .compiling } after hfails).trans hheal
    obtain ⟨hreported, hused⟩ := ih hok
    rw [List.flatMap_cons, PassRecord.repairs, hhealing]
    refine ⟨by rw [hreported, List.append_assoc], fun hmore hexhausted => ?_⟩
    have hleft := hused hmore hexhausted
    have hpositive := List.length_pos_iff.2 hrepairs
    rw [List.length_append]
    dsimp only
    omega

/-- The journal of a run holds the journals of its passes. -/
theorem Cycles.journals (h : Cycles origin left report e end_ records) :
    e.around.journal <+: end_.2.around.journal ∧
      ∀ p ∈ records, e.around.journal <+: p.before.around.journal ∧
        p.before.around.journal <+: p.after.around.journal ∧ p.after.around.journal <+: end_.2.around.journal := by
  induction h with
  | exhausted => exact ⟨List.prefix_refl _, by simp⟩
  | error hpass | succeeded hpass _ =>
    obtain ⟨entries, hpassed⟩ := continues_of_pass hpass
    have hgrows := hpassed.journal_grows
    exact ⟨hgrows, List.forall_mem_singleton.2 ⟨List.prefix_refl _, hgrows, List.prefix_refl _⟩⟩
  | unhealed hpass _ hheal =>
    obtain ⟨entries, hpassed⟩ := continues_of_pass hpass
    have hgrows := hpassed.journal_grows
    have hhealed := (continues_of_heal hheal).journal_grows
    exact ⟨hgrows.trans hhealed, List.forall_mem_singleton.2 ⟨List.prefix_refl _, hgrows, hhealed⟩⟩
  | healed hpass _ hheal _ _ ih =>
    obtain ⟨entries, hpassed⟩ := continues_of_pass hpass
    have hgrows := hpassed.journal_grows
    have hregenerated := ((continues_of_heal hheal).trans (continues_regenerate _)).journal_grows
    obtain ⟨hend, hrest⟩ := ih
    refine ⟨(hgrows.trans hregenerated).trans hend, List.forall_mem_cons.2 ⟨?_, fun p hp => ?_⟩⟩
    · exact ⟨List.prefix_refl _, hgrows, hregenerated.trans hend⟩
    · obtain ⟨hbefore, hbetween⟩ := hrest p hp
      exact ⟨(hgrows.trans hregenerated).trans hbefore, hbetween⟩

end

theorem mem_journal_record {e : Engine} {origin : Option String} {p : PassRecord}
    (hp : p ∈ (e.record origin).passes) {entry : JournalEntry} (hentry : entry ∈ p.journal) :
    entry ∈ (e.record origin).journal := by
  show entry ∈ (e.runOnce origin).2.around.journal.drop e.around.journal.length
  obtain ⟨result, e', hcycles, hrun⟩ := e.runOnce_cases origin
  have hend : (e.runOnce origin).2.around.journal = e'.around.journal := by
    obtain ⟨report, -, hrun⟩ | ⟨error, -, hrun⟩ := hrun <;> rw [hrun]
  obtain ⟨⟨earlier, hbefore⟩, ⟨own, hafter⟩, ⟨later, hlast⟩⟩ := hcycles.journals.2 p hp
  have hbegin : (e.begin origin).around.journal = e.around.journal ++ [.began origin] := rfl
  rw [PassRecord.journal, ← hafter, List.drop_left] at hentry
  rw [hend, ← hlast, ← hafter, ← hbefore, hbegin]
  simp only [List.append_assoc, List.drop_left, List.mem_append]
  exact Or.inr (Or.inr (Or.inl hentry))

/-- If no call of a run tells of an edit, nobody but the run edits the schema. -/
theorem InStep.undisturbed_of_quiet {e : Engine} (h : e.InStep) (origin : Option String)
    (hquiet : ∀ entry ∈ (e.record origin).journal, entry.hasEdit = false) :
    (e.record origin).Undisturbed := by
  intro p hp
  obtain ⟨-, hpass⟩ := forall_passes keptByRuns_inStep h origin p hp
  exact PassRecord.undisturbed_of_quiet hpass fun entry hentry => hquiet entry (mem_journal_record hp hentry)

theorem InStep.repairs_record {e : Engine} (h : e.InStep) (origin : Option String)
    (hquiet : (e.record origin).Undisturbed) :
    (e.record origin).repairs.length ≤ e.schema.weight ∧
      (∀ p ∈ (e.record origin).passes, p.repairs ≠ [] → p.healed.schema.weight < p.before.schema.weight) ∧
      ∀ report, (e.record origin).result = .ok report → report.repairs = (e.record origin).repairs ∧
        (e.schema.weight < e.settings.maxHealCycles → report.exhausted = false) := by
  obtain ⟨result, e', hcycles, -⟩ := e.runOnce_cases origin
  have hbound := hcycles.repairs_le_weight (keptByRuns_inStep.begin e origin h) hquiet
  refine ⟨hbound, fun p hp hrepairs => ?_, fun report hreport => ?_⟩
  · obtain ⟨hbefore, hpass⟩ := forall_passes keptByRuns_inStep h origin p hp
    have hweight := (lightens_pass hbefore hpass (hquiet p hp)).weight
    have hpositive := List.length_pos_iff.2 hrepairs
    omega
  · obtain ⟨hreported, hused⟩ := (cycles_of_report hreport).reports rfl
    refine ⟨hreported, fun hcyclesLeft => ?_⟩
    by_contra hexhausted
    have hleft := hused rfl (by simpa using hexhausted)
    have hweight : (e.begin origin).schema.weight = e.schema.weight := rfl
    omega

/-! ### Histories -/

/-- A run that nobody disturbs makes no more repairs than there were members and live types when it began;
each pass with a repair leaves fewer of them; and more cycles than that are never used up. -/
theorem repairs_bounded {settings : Settings} {host : HostTypes} {schema : Schema} {toolchain : Toolchain}
    {start : Engine} (hnew : Engine.new settings host schema toolchain = .ok start) {history : List Event}
    {r : RunRecord} (hr : r ∈ start.runsIn history) (hquiet : r.Undisturbed) :
    r.repairs.length ≤ r.before.schema.weight ∧
      (∀ p ∈ r.passes, p.repairs ≠ [] → p.healed.schema.weight < p.before.schema.weight) ∧
      ∀ report, r.result = .ok report → report.repairs = r.repairs ∧
        (r.before.schema.weight < r.before.settings.maxHealCycles → report.exhausted = false) := by
  obtain ⟨-, rfl⟩ := new_eq_ok hnew
  obtain ⟨hbefore, hrecord⟩ := forall_runsIn keptByEvents_inStep (inStep_fresh ..) history r hr
  have hrepairs := hbefore.repairs_record r.origin (hrecord ▸ hquiet)
  rwa [← hrecord] at hrepairs

/-- A type with a property, and a compiler that first calls the property a duplicate. -/
def duplicateOnce : List Event :=
  [.edit (.upsert ⟨"app.Order", "type Order", [⟨.property, "p", "total", "total: int"⟩]⟩),
    .script [some ⟨[.askPhase], .immediate,
      .reports [⟨.error, "app.Order", 2, "duplicate definition", some .duplicateDefinition⟩] [] none⟩],
    .run none false]

/-- One repair of the two that there could have been. -/
theorem one_repair_suffices :
    ∃ start, Engine.new .default none .empty ⟨.echo, []⟩ = .ok start ∧
      ∃ r ∈ start.runsIn duplicateOnce, r.before.schema.weight = 2 ∧ r.repairs.length = 1 ∧
        ∃ report, r.result = .ok report ∧ report.success = true ∧ report.exhausted = false := by
  have hnew : Engine.new .default none .empty ⟨.echo, []⟩ = .ok (fresh .default none .empty ⟨.echo, []⟩) := rfl
  let e := ((fresh .default none .empty ⟨.echo, []⟩).after (duplicateOnce.take 2)).called false
  have hr : e.record none ∈ (fresh .default none .empty ⟨.echo, []⟩).runsIn duplicateOnce := List.mem_cons_self
  have hstep : e.InStep :=
    keptByEvents_inStep.called _ _ (after_preserves keptByEvents_inStep (inStep_fresh ..) _)
  have hquiet : (e.record none).Undisturbed := hstep.undisturbed_of_quiet none (by decide +kernel)
  have hweight : e.schema.weight = 2 := by decide +kernel
  have hgranted : e.schema.weight < e.settings.maxHealCycles := by decide +kernel
  have hrepairs : (e.record none).repairs.length = 1 := by decide +kernel
  have hsucceeds : (e.record none).result.toOption.map HealReport.success = some true := by decide +kernel
  obtain ⟨-, -, hreports⟩ := repairs_bounded hnew hr hquiet
  obtain ⟨report, hreport, hsuccess⟩ := Option.map_eq_some_iff.1 hsucceeds
  have hresult : (e.record none).result = .ok report := eq_ok_of_toOption hreport
  exact ⟨_, hnew, _, hr, hweight, hrepairs, report, hresult, hsuccess, (hreports report hresult).2 hgranted⟩

end Engine

end HotSchema
