import HotSchema.Proofs.Engine.Run
/-!
# Requests that came during a run

A request for a run that comes while one is active is served when a later run asks for units. A call makes
further runs as long as requests come, so its last run decides: all requests of the call are served
exactly if that run did not end in an error with a request among its journal. An error ends the call, and
then a request of the very run that failed stays behind.
-/

namespace HotSchema

/-- After every request for a run comes a request for units. -/
def AllServed (journal : List JournalEntry) : Prop :=
  ∀ before origin after, journal = before ++ .coalesced origin :: after → .askedForUnits ∈ after

theorem allServed_of_not_coalescedIn {journal : List JournalEntry} (h : coalescedIn journal = false) :
    AllServed journal := by
  rintro before origin after rfl
  simp [JournalEntry.isCoalesced] at h

/-- Units asked for later serve all that was requested before. -/
theorem AllServed.append {left right : List JournalEntry} (hasked : .askedForUnits ∈ right)
    (h : AllServed right) : AllServed (left ++ right) := by
  intro before origin after heq
  rcases List.append_eq_append_iff.1 heq with ⟨middle, -, hright⟩ | ⟨middle, -, hright⟩
  · exact h middle origin after hright
  · rcases middle with _ | ⟨entry, middle⟩
    · exact h [] origin after hright.symm
    · obtain ⟨-, rfl⟩ := List.cons.inj hright
      exact List.mem_append_right _ hasked

/-- Journals that each ask for units serve all requests but those of the last. -/
theorem allServed_flatten {journals : List (List JournalEntry)}
    (hasked : ∀ journal ∈ journals, .askedForUnits ∈ journal)
    (hlast : ∀ journal, journals.getLast? = some journal → coalescedIn journal = false) :
    AllServed journals.flatten := by
  induction journals with
  | nil => exact allServed_of_not_coalescedIn rfl
  | cons journal rest ih =>
    rcases rest with _ | ⟨next, rest⟩
    · rw [List.flatten_cons, List.flatten_nil, List.append_nil]
      exact allServed_of_not_coalescedIn (hlast journal rfl)
    · have hnext := hasked next (by simp)
      refine AllServed.append (List.mem_flatten.2 ⟨next, List.mem_cons_self, hnext⟩) ?_
      refine ih (fun journal hmem => hasked journal (List.mem_cons_of_mem _ hmem)) fun journal hmem => ?_
      exact hlast journal (by rw [List.getLast?_cons_cons, hmem])

namespace Engine

def callJournal (e : Engine) (origin : Option String) (withdrawn : Bool) : List JournalEntry :=
  (e.run origin withdrawn).2.around.journal.drop e.around.journal.length

variable {e : Engine} {origin : Option String}

/-! ### Journals -/

theorem record_journal (origin : Option String) (h : e.Ready) :
    .askedForUnits ∈ (e.record origin).journal ∧
      (e.record origin).after.around.journal = e.around.journal ++ (e.record origin).journal ∧
      (e.record origin).after.around.pending = coalescedIn (e.record origin).journal := by
  obtain ⟨rest, hjournal, hpending⟩ := (ran_runOnce h origin).journal
  have hrecord : (e.record origin).journal = .began origin :: .askedForUnits :: rest := by
    show (e.runOnce origin).2.around.journal.drop e.around.journal.length = _
    rw [hjournal, List.drop_left]
  rw [hrecord]
  refine ⟨by simp, hjournal, ?_⟩
  show (e.runOnce origin).2.around.pending = _
  simpa [JournalEntry.isCoalesced] using hpending

theorem ready_record (h : e.Ready) : (e.record origin).after.Ready := (ran_runOnce h origin).ready

/-- The caller holds the lock when the first run begins. -/
theorem ready_called (h : 0 < e.settings.maxHealCycles) (withdrawn : Bool) : (e.called withdrawn).Ready := ⟨h, rfl⟩

theorem serve_journal (h : e.Ready) (fuel : Nat) (report : HealReport) :
    (serve origin fuel report e).2.around.journal =
      e.around.journal ++ ((servingRuns origin fuel e).map RunRecord.journal).flatten := by
  induction fuel generalizing report e with
  | zero => simp [serve, servingRuns]
  | succ fuel ih =>
    obtain ⟨-, hjournal, -⟩ := record_journal origin h
    have hrun : e.runOnce origin = ((e.record origin).result, (e.record origin).after) := rfl
    unfold servingRuns
    rw [serve_succ, hrun]
    dsimp only
    split
    · rcases (e.record origin).result with error | report'
      · simp [hjournal]
      · dsimp only
        rw [ih (ready_record h), hjournal, List.map_cons, List.flatten_cons, List.append_assoc]
    · simp

theorem callJournal_eq (h : 0 < e.settings.maxHealCycles) (withdrawn : Bool) :
    e.callJournal origin withdrawn = ((e.runs origin withdrawn).map RunRecord.journal).flatten := by
  have hcalled := ready_called h withdrawn
  obtain ⟨-, hjournal, -⟩ := record_journal origin hcalled
  have hcall : (e.run origin withdrawn).2.around.journal =
      e.around.journal ++ ((e.runs origin withdrawn).map RunRecord.journal).flatten := by
    rcases e.run_cases origin withdrawn with ⟨⟨error, -, hrun⟩, hruns⟩ | ⟨report, -, hrun, hruns⟩ <;>
      rw [hrun, hruns, List.map_cons, List.flatten_cons]
    · rw [List.map_nil, List.flatten_nil, List.append_nil]
      exact hjournal
    · rw [serve_journal (ready_record hcalled), hjournal, List.append_assoc]
      rfl
  rw [callJournal, hcall, List.drop_left]

/-! ### The end of a call -/

/-- Serving goes on until nothing is pending, unless a run ends in an error. The fuel suffices since each
request that came during a run has used up a turn of the script. -/
theorem serve_settles (h : e.Ready) {fuel : Nat} {report report' : HealReport} {e' : Engine}
    (hfuel : e.around.pending = true → e.around.toolchain.script.length < fuel)
    (hserve : serve origin fuel report e = (.ok report', e')) : e'.around.pending = false := by
  induction fuel generalizing report e with
  | zero =>
    cases hserve
    simpa using hfuel
  | succ fuel ih =>
    rw [serve_succ] at hserve
    split at hserve
    · next hpending =>
      have hran := ran_runOnce h origin
      split at hserve
      · cases hserve
      · next heq =>
        rw [heq] at hran
        dsimp only at hran
        refine ih hran.ready (fun hagain => ?_) hserve
        have hspent := hran.script hagain
        have hleft := hfuel hpending
        omega
    · next hidle =>
      cases hserve
      simpa using hidle

theorem run_settles (h : 0 < e.settings.maxHealCycles) {withdrawn : Bool} {report : HealReport}
    (hok : (e.run origin withdrawn).1 = .ok report) : (e.run origin withdrawn).2.around.pending = false := by
  have hcalled := ready_called h withdrawn
  rcases e.run_cases origin withdrawn with ⟨⟨error, -, hrun⟩, -⟩ | ⟨first, -, hrun, -⟩ <;> rw [hrun] at hok ⊢
  · cases hok
  · exact serve_settles (ready_record hcalled) (fun _ => Nat.lt_succ_self _) (Prod.ext hok rfl)

/-- Of each run of a call: it asked for units, and what it left pending came during it. -/
theorem forall_runs_journal (h : 0 < e.settings.maxHealCycles) {withdrawn : Bool} :
    ∀ r ∈ e.runs origin withdrawn, .askedForUnits ∈ r.journal ∧
      r.after.around.pending = coalescedIn r.journal := by
  intro r hr
  obtain ⟨hbefore, hrecord⟩ := forall_runs (P := Ready) (fun _ he => ready_record he) (ready_called h withdrawn) r hr
  obtain ⟨hasked, -, hpending⟩ := record_journal origin hbefore
  rw [hrecord]
  exact ⟨hasked, hpending⟩

/-- What a call leaves pending came during its last run. -/
theorem pending_run (h : 0 < e.settings.maxHealCycles) {withdrawn : Bool} {last : RunRecord}
    (hlast : (e.runs origin withdrawn).getLast? = some last)
    (hrun : e.run origin withdrawn = (last.result, last.after.release)) :
    (e.run origin withdrawn).2.around.pending = coalescedIn last.journal := by
  obtain ⟨-, hpending⟩ := forall_runs_journal h last (List.mem_of_getLast? hlast)
  rw [hrun, pending_release, hpending]

/-! ### Histories -/

theorem pos_of_new {settings : Settings} {host : HostTypes} {schema : Schema} {toolchain : Toolchain}
    {e : Engine} (h : Engine.new settings host schema toolchain = .ok e) :
    0 < e.settings.maxHealCycles := by
  obtain ⟨hvalid, rfl⟩ := new_eq_ok h
  show 0 < settings.maxHealCycles
  by_contra hzero
  simp [Settings.validate, Nat.eq_zero_of_not_pos hzero] at hvalid

theorem pos_after {settings : Settings} {host : HostTypes} {schema : Schema} {toolchain : Toolchain} {e : Engine}
    (h : Engine.new settings host schema toolchain = .ok e) (history : List Event) :
    0 < (e.after history).settings.maxHealCycles := by
  have hsettings : (e.after history).settings = e.settings := after_preserves (keptByEvents_settings e.settings) rfl history
  rw [hsettings]
  exact pos_of_new h

/-- The requests that come during a call are all served, and none is left pending, unless the call ends in an
error and one of them came during its last run. -/
theorem requests_served_iff {settings : Settings} {host : HostTypes} {schema : Schema} {toolchain : Toolchain}
    {start : Engine} (hnew : Engine.new settings host schema toolchain = .ok start) (history : List Event)
    (origin : Option String) (withdrawn : Bool) :
    let e := start.after history
    (AllServed (e.callJournal origin withdrawn) ∧ (e.run origin withdrawn).2.around.pending = false) ↔
      ¬ ((∃ error, (e.run origin withdrawn).1 = .error error) ∧
        ∃ r asker, (e.runs origin withdrawn).getLast? = some r ∧ .coalesced asker ∈ r.journal) := by
  intro e
  have hpos : 0 < e.settings.maxHealCycles := pos_after hnew history
  obtain ⟨last, hlast, hrun⟩ := e.run_eq_last origin withdrawn
  have hleft := pending_run hpos hlast hrun
  constructor
  · rintro ⟨-, hidle⟩ ⟨-, r, asker, hr, hasker⟩
    cases hlast.symm.trans hr
    have hcoalesced := coalescedIn_iff.2 ⟨asker, hasker⟩
    rw [← hleft, hidle] at hcoalesced
    cases hcoalesced
  · intro hserved
    have hidle : (e.run origin withdrawn).2.around.pending = false := by
      rcases hresult : (e.run origin withdrawn).1 with error | report
      · -- The call ended in an error, so no request came during its last run.
        rw [hleft, ← Bool.not_eq_true, coalescedIn_iff]
        rintro ⟨asker, hasker⟩
        exact hserved ⟨⟨error, hresult⟩, last, asker, hlast, hasker⟩
      · exact run_settles hpos hresult
    refine ⟨?_, hidle⟩
    rw [callJournal_eq hpos]
    refine allServed_flatten ?_ ?_
    · intro journal hjournal
      obtain ⟨r, hr, rfl⟩ := List.mem_map.1 hjournal
      exact (forall_runs_journal hpos r hr).1
    · intro journal hjournal
      rw [List.getLast?_map, hlast] at hjournal
      cases hjournal
      rw [← hleft, hidle]

def oneType : Schema := Schema.empty.upsert ⟨"app.Old", "type Old", []⟩

/-- The type is deleted while it is compiled, and a run is requested for that; the call makes it. -/
theorem requests_served_after_removal :
    ∃ start, Engine.new .default none oneType
        ⟨.echo, [some ⟨[.edit (.removeType "app.Old"), .requestCompile none], .immediate, .compiled⟩]⟩
          = .ok start ∧
      .coalesced none ∈ start.callJournal none false ∧ AllServed (start.callJournal none false) := by
  have hnew : Engine.new .default none oneType
      ⟨.echo, [some ⟨[.edit (.removeType "app.Old"), .requestCompile none], .immediate, .compiled⟩]⟩ =
        .ok (fresh .default none oneType
          ⟨.echo, [some ⟨[.edit (.removeType "app.Old"), .requestCompile none], .immediate, .compiled⟩]⟩) := rfl
  refine ⟨_, hnew, ?_, ?_⟩
  · exact List.mem_of_getElem? (i := 2) rfl
  · refine ((requests_served_iff hnew [] none false).2 ?_).1
    rintro ⟨⟨error, herror⟩, -⟩
    cases herror

/-- The compiler fails while another type is defined and a run is requested for it. The call ends without
that run, and nothing will make it. -/
theorem request_lost_after_error :
    ∃ start, Engine.new .default none oneType
        ⟨.echo, [some ⟨[.edit (.upsert ⟨"app.New", "type New", []⟩), .requestCompile none], .immediate,
          .fails (.toolchainUnavailable "scripted" "down")⟩]⟩ = .ok start ∧
      ¬ AllServed (start.callJournal none false) ∧ (start.run none false).2.around.pending = true := by
  refine ⟨_, rfl, ?_, rfl⟩
  intro hserved
  have hasked := hserved [.began none, .askedForUnits] none _ rfl
  simp at hasked

end Engine

end HotSchema
