import HotSchema.Proofs.Engine.Serving
import Mathlib.Data.List.Chain
/-!
# One more run for each disturbed run

Who runs holds the lock, and so does the engine whenever its compiler is called. A request for a run that comes then
is answered at once: it enters the journal and leaves the surroundings pending, and all that else happens goes as it
would without it. So a request costs nothing until the active run is over, and then one more run serves all that came
during it: a call that ends well makes one run, and one more for each of its runs that was disturbed, and its report
is that of the last, which was not.
-/

namespace HotSchema

def Interjection.isRequest : Interjection → Bool
  | requestCompile _ => true
  | _ => false

/-- What a request enters into the journal while the lock is held. -/
def Interjection.entry? : Interjection → Option JournalEntry
  | requestCompile origin => some (.coalesced origin)
  | _ => none

def Finding.isCoalesced : Finding → Bool
  | requested .coalesced => true
  | _ => false

def JournalEntry.isBegan : JournalEntry → Bool
  | began _ => true
  | _ => false

namespace Surroundings

/-! ### Requests during a compiler call -/

/-- The requests among what happens during a compiler call: they are answered at once, the rest is answered as it
would be without them, and afterwards nothing differs but the journal and whether a run is pending. -/
structure OnlyNoted (phase : Phase) (stores : Stores) (is : List Interjection) (w : Surroundings) : Prop where
  answered : List.Forall₂ (fun i finding => finding.isCoalesced = i.isRequest) is
    (interjectAll phase stores is w).1
  others : (interjectAll phase stores is w).1.filter (fun finding => !finding.isCoalesced) =
    (interjectAll phase stores (is.filter fun i => !i.isRequest) w).1
  after : (interjectAll phase stores is w).2 =
    { (interjectAll phase stores (is.filter fun i => !i.isRequest) w).2 with
      pending := w.pending || is.any Interjection.isRequest
      journal := w.journal ++ is.filterMap Interjection.entry? }

theorem findings_cons (phase : Phase) (stores : Stores) (i : Interjection) (rest : List Interjection)
    (w : Surroundings) : (interjectAll phase stores (i :: rest) w).1 =
      (w.interject phase stores i).1 :: (interjectAll phase stores rest (w.interject phase stores i).2).1 :=
  rfl

/-- What is no request has nothing to do with the journal or with what is pending, nor with the lock. -/
theorem interject_of_not_request {i : Interjection} (h : i.isRequest = false) (phase : Phase) (stores : Stores)
    (w : Surroundings) (pending : Bool) (journal : List JournalEntry) :
    interject phase stores { w with pending, journal } i =
        ((w.interject phase stores i).1, { (w.interject phase stores i).2 with pending, journal }) ∧
      (w.interject phase stores i).1.isCoalesced = false ∧
      (w.interject phase stores i).2.locked = w.locked ∧ (w.interject phase stores i).2.pending = w.pending ∧
      (w.interject phase stores i).2.journal = w.journal := by
  cases i with
  | requestCompile _ => cases h
  | edit _ | withdraw | askPhase | instantiate _ => exact ⟨rfl, rfl, rfl, rfl, rfl⟩

theorem interjectAll_of_no_request {is : List Interjection} (h : ∀ i ∈ is, i.isRequest = false) (phase : Phase)
    (stores : Stores) (w : Surroundings) (pending : Bool) (journal : List JournalEntry) :
    interjectAll phase stores is { w with pending, journal } =
      ((interjectAll phase stores is w).1, { (interjectAll phase stores is w).2 with pending, journal }) := by
  induction is generalizing w with
  | nil => rfl
  | cons i rest ih =>
    obtain ⟨hi, hrest⟩ := List.forall_mem_cons.1 h
    obtain ⟨hsame, -⟩ := interject_of_not_request hi phase stores w pending journal
    unfold interjectAll
    rw [hsame]
    dsimp only
    rw [ih hrest (w.interject phase stores i).2]

theorem interject_of_request {w : Surroundings} (h : w.locked = true) (phase : Phase) (stores : Stores)
    (origin : Option String) : w.interject phase stores (.requestCompile origin) =
      (.requested .coalesced, { w with pending := true, journal := w.journal ++ [.coalesced origin] }) := by
  rw [interject, requestRun_of_locked h]
  rfl

theorem onlyNoted (phase : Phase) (stores : Stores) (is : List Interjection) {w : Surroundings}
    (h : w.locked = true) : OnlyNoted phase stores is w := by
  induction is generalizing w with
  | nil =>
    refine ⟨.nil, rfl, ?_⟩
    show w = { w with pending := w.pending || false, journal := w.journal ++ [] }
    rw [Bool.or_false, List.append_nil]
  | cons i rest ih =>
    have hquiet : ∀ i ∈ rest.filter (fun i => !i.isRequest), i.isRequest = false := by simp
    cases hrequest : i.isRequest with
    | true =>
      obtain ⟨origin, rfl⟩ : ∃ origin, i = .requestCompile origin := by
        cases i <;> simp_all [Interjection.isRequest]
      -- What follows the request goes as it would from where the request came.
      have hsame := interjectAll_of_no_request hquiet phase stores w true (w.journal ++ [.coalesced origin])
      have hnoted := interject_of_request h phase stores origin
      obtain ⟨hanswered, hothers, hafter⟩ :=
        ih (w := { w with pending := true, journal := w.journal ++ [.coalesced origin] }) h
      rw [hsame] at hothers hafter
      refine ⟨?_, ?_, ?_⟩
      · rw [findings_cons, hnoted]
        exact .cons rfl hanswered
      · rw [findings_cons, hnoted]
        exact hothers
      · rw [interjectAll_cons, hnoted, hafter]
        simp [Interjection.isRequest, Interjection.entry?]
    | false =>
      obtain ⟨-, hfinding, hlocked, hpending, hjournal⟩ :=
        interject_of_not_request hrequest phase stores w w.pending w.journal
      obtain ⟨hanswered, hothers, hafter⟩ := ih (hlocked.trans h)
      have hentry : i.entry? = none := by
        cases i <;> simp_all [Interjection.isRequest, Interjection.entry?]
      have hfilter : (i :: rest).filter (fun i => !i.isRequest) = i :: rest.filter fun i => !i.isRequest := by
        simp [hrequest]
      refine ⟨.cons (hfinding.trans hrequest.symm) hanswered, ?_, ?_⟩
      · rw [hfilter, findings_cons, findings_cons, List.filter_cons_of_pos (by simp [hfinding]), hothers]
      · rw [hfilter, interjectAll_cons, interjectAll_cons, hafter, hpending, hjournal]
        simp [hrequest, hentry]

/-! ### What the journal counts -/

section

variable {counted : JournalEntry → Bool} (hcounted : ∀ origin, counted (.coalesced origin) = false)
include hcounted

theorem countP_interjectAll (phase : Phase) (stores : Stores) (is : List Interjection) (w : Surroundings) :
    (interjectAll phase stores is w).2.journal.countP counted = w.journal.countP counted := by
  obtain ⟨entries, hinterjected, -⟩ := interjected_interjectAll phase stores is w
  have hentries : entries.countP counted = 0 := by
    rw [List.countP_eq_zero]
    intro entry hentry
    obtain ⟨origin, rfl⟩ := JournalEntry.isCoalesced_iff.1 (hinterjected.requests entry hentry)
    simp [hcounted]
  rw [hinterjected.journal, List.countP_append, hentries, Nat.add_zero]

/-- Beside requests for runs a compiler call enters itself. -/
theorem countP_call (budget : Nat) (phase : Phase) (stores : Stores) (c : CompilerCall) (w : Surroundings) :
    ∃ during, (w.call budget phase stores c).2.journal.countP counted =
      w.journal.countP counted + [JournalEntry.called c during].countP counted := by
  have hinterjected := countP_interjectAll hcounted phase stores w.toolchain.next.1.during
    { w with toolchain := w.toolchain.next.2 }
  refine ⟨(interjectAll phase stores w.toolchain.next.1.during { w with toolchain := w.toolchain.next.2 }).1, ?_⟩
  simp only [call, log, List.countP_append, hinterjected]

end

end Surroundings

namespace Engine

variable {e : Engine} {origin : Option String}

/-- Beside requests, for units and for runs, a pass enters a compiler call or nothing. -/
theorem countP_pass {counted : JournalEntry → Bool} (hcounted : ∀ origin, counted (.coalesced origin) = false)
    (hasking : counted .askedForUnits = false) (e : Engine) (origin : Option String) :
    (e.pass origin).2.around = e.askForUnits.2.around ∧
        (e.pass origin).2.around.journal.countP counted = e.around.journal.countP counted ∨
      ∃ call during, (e.pass origin).2.around =
          (Surroundings.call e.settings.timeoutSecs e.phase e.observed call e.askForUnits.2.around).2 ∧
        (e.pass origin).2.around.journal.countP counted =
          e.around.journal.countP counted + [JournalEntry.called call during].countP counted := by
  have hasked : e.askForUnits.2.around.journal.countP counted = e.around.journal.countP counted := by
    simp [askForUnits, Surroundings.log, hasking]
  rcases e.around_pass origin with hsame | ⟨call, hcall⟩
  · exact Or.inl ⟨hsame, by rw [hsame, hasked]⟩
  · obtain ⟨during, hcount⟩ := Surroundings.countP_call hcounted e.settings.timeoutSecs e.phase e.observed call
      e.askForUnits.2.around
    exact Or.inr ⟨call, during, hcall, by rw [hcall, hcount, hasked]⟩

/-! ### No run begins within a run -/

theorem keptByCycles_began (n : Nat) :
    KeptByCycles fun e => e.around.journal.countP JournalEntry.isBegan = n where
  phase := fun _ _ he => he
  pass := fun e origin he => by
    have hcounted (origin : Option String) : JournalEntry.isBegan (.coalesced origin) = false := rfl
    rcases countP_pass hcounted rfl e origin with ⟨-, hsame⟩ | ⟨call, during, -, hcount⟩
    · rw [hsame, he]
    · rw [hcount, he]
      rfl
  heal := fun _ _ he => he
  regenerate := fun _ he => he

/-- The journal of a run tells first that it began, and then of no other run. -/
theorem began_record (h : e.Ready) (origin : Option String) :
    ∃ rest, (e.record origin).journal = .began origin :: rest ∧
      ∀ entry ∈ rest, entry.isBegan = false := by
  obtain ⟨rest, hjournal, -⟩ := (ran_runOnce h origin).journal
  have hcount : (e.runOnce origin).2.around.journal.countP JournalEntry.isBegan =
      e.around.journal.countP JournalEntry.isBegan + 1 := by
    obtain ⟨result, e', hcycles, hrun⟩ := e.runOnce_cases origin
    have hbegun : (e.begin origin).around.journal.countP JournalEntry.isBegan =
        e.around.journal.countP JournalEntry.isBegan + 1 := by
      simp [Engine.begin, Surroundings.log, JournalEntry.isBegan]
    have hend := (hcycles.preserves (keptByCycles_began _) hbegun).1
    obtain ⟨report, -, hrun⟩ | ⟨error, -, hrun⟩ := hrun <;> rw [hrun] <;> exact hend
  refine ⟨.askedForUnits :: rest, ?_, ?_⟩
  · show (e.runOnce origin).2.around.journal.drop e.around.journal.length = _
    rw [hjournal, List.drop_left]
  · rw [hjournal, List.countP_append, List.countP_cons_of_pos rfl] at hcount
    have hnone : (JournalEntry.askedForUnits :: rest).countP JournalEntry.isBegan = 0 := by omega
    simpa [List.countP_eq_zero] using hnone

end Engine

/-- A request that comes while the pass is made finds the lock held: it is noted, also among all else that happens
while the compiler runs. -/
structure PassRecord.NotesRequests (p : PassRecord) : Prop where
  coalesced : ∀ origin withdrawn, p.before.requestCompile origin withdrawn =
    (.ok .coalesced, { p.before with around := { p.before.around.log (.coalesced origin) with pending := true } })
  locked : p.before.askForUnits.2.around.locked = true
  called : p.after.around = p.before.askForUnits.2.around ∨
    ∃ call, p.after.around = (Surroundings.call p.before.settings.timeoutSecs p.before.phase p.before.observed call
      p.before.askForUnits.2.around).2
  noted : ∀ is toolchain,
    Surroundings.OnlyNoted p.before.phase p.before.observed is { p.before.askForUnits.2.around with toolchain }

/-- The second run serves what came during the first: it starts where that ended, with a run pending. -/
structure RunRecord.Precedes (r r' : RunRecord) : Prop where
  pending : r.after.around.pending = true
  before : r'.before = r.after

namespace Engine

variable {e : Engine} {origin : Option String}

/-! ### From one run to the next -/

theorem isChain_servingRuns (origin : Option String) (fuel : Nat) (e : Engine) :
    (servingRuns origin fuel e).IsChain RunRecord.Precedes ∧
      ∀ r ∈ (servingRuns origin fuel e).head?, e.around.pending = true ∧ r.before = e := by
  induction fuel generalizing e with
  | zero => simp [servingRuns]
  | succ fuel ih =>
    unfold servingRuns
    split
    · next hpending =>
      obtain ⟨hchain, hhead⟩ := ih (e.record origin).after
      refine ⟨?_, by simp [hpending, record]⟩
      dsimp only
      split
      · exact List.isChain_singleton _
      · refine List.isChain_cons.2 ⟨fun r hr => ?_, hchain⟩
        obtain ⟨hagain, hbefore⟩ := hhead r hr
        exact ⟨hagain, hbefore⟩
    · simp

theorem isChain_runs (e : Engine) (origin : Option String) (withdrawn : Bool) :
    (e.runs origin withdrawn).IsChain RunRecord.Precedes := by
  rcases e.run_cases origin withdrawn with ⟨-, hruns⟩ | ⟨report, -, -, hruns⟩ <;> rw [hruns]
  · exact List.isChain_singleton _
  · obtain ⟨hchain, hhead⟩ := isChain_servingRuns origin
      (((e.called withdrawn).record origin).after.around.toolchain.script.length + 1)
      ((e.called withdrawn).record origin).after
    refine List.isChain_cons.2 ⟨fun r hr => ?_, hchain⟩
    obtain ⟨hpending, hbefore⟩ := hhead r hr
    exact ⟨hpending, hbefore⟩

theorem precedes_of_runs {withdrawn : Bool} {earlier later : List RunRecord} {previous r : RunRecord}
    (h : e.runs origin withdrawn = earlier ++ previous :: r :: later) : previous.Precedes r := by
  have hchain := e.isChain_runs origin withdrawn
  rw [h, List.isChain_append] at hchain
  exact (List.isChain_cons_cons.1 hchain.2.1).1

/-- Every run but the last was disturbed. -/
theorem coalescedIn_of_earlier (h : 0 < e.settings.maxHealCycles) {withdrawn : Bool} {earlier : List RunRecord}
    {last : RunRecord} (hruns : e.runs origin withdrawn = earlier ++ [last]) :
    ∀ r ∈ earlier, coalescedIn r.journal = true := by
  intro r hr
  obtain ⟨-, hpending⟩ := forall_runs_journal h r (hruns ▸ List.mem_append_left _ hr)
  obtain ⟨before, after, rfl⟩ := List.append_of_mem hr
  obtain ⟨next, rest, hnext⟩ : ∃ next rest, after ++ [last] = next :: rest := List.exists_cons_of_ne_nil (by simp)
  rw [List.append_assoc, List.cons_append, hnext] at hruns
  rw [← hpending]
  exact (precedes_of_runs hruns).pending

/-! ### The lock -/

theorem requestCompile_of_locked (h : e.around.locked = true) (origin : Option String) (withdrawn : Bool) :
    e.requestCompile origin withdrawn =
      (.ok .coalesced, { e with around := { e.around.log (.coalesced origin) with pending := true } }) := by
  rw [requestCompile, Surroundings.requestRun_of_locked h]

theorem notesRequests_of_mem_runs {withdrawn : Bool} {r : RunRecord} (hr : r ∈ e.runs origin withdrawn) :
    ∀ p ∈ r.passes, p.NotesRequests := by
  intro p hp
  obtain ⟨hlocked, hrecord⟩ := forall_runs (P := fun e => e.around.locked = true)
    (fun _ he => runOnce_preserves keptByRuns_locked he origin) rfl r hr
  rw [hrecord] at hp
  obtain ⟨hbefore, hpass⟩ := forall_passes keptByRuns_locked hlocked origin p hp
  have hcalled := p.before.around_pass origin
  rw [hpass] at hcalled
  exact ⟨requestCompile_of_locked hbefore, hbefore, hcalled, fun is toolchain => Surroundings.onlyNoted _ _ is hbefore⟩

theorem unlocked_after (h : e.around.locked = false) (history : List Event) :
    (e.after history).around.locked = false := by
  induction history generalizing e with
  | nil => exact h
  | cons event rest ih =>
    refine ih ?_
    cases event with
    | run origin withdrawn =>
      obtain ⟨last, -, hrun⟩ := e.run_eq_last origin withdrawn
      show (e.run origin withdrawn).2.around.locked = false
      rw [hrun]
      rfl
    | _ => exact h

/-- A request that finds the lock free is a call for a run. -/
theorem requestCompile_of_unlocked (h : e.around.locked = false) (origin : Option String) (withdrawn : Bool) :
    e.requestCompile origin withdrawn =
      ((e.run origin withdrawn).1.map .completed, (e.run origin withdrawn).2) := by
  rw [requestCompile, Surroundings.requestRun_of_unlocked h]
  rfl

/-! ### Calls -/

section

variable (h : 0 < e.settings.maxHealCycles) {withdrawn : Bool}
include h

theorem began_of_mem_runs {r : RunRecord} (hr : r ∈ e.runs origin withdrawn) :
    ∃ rest, r.journal = .began origin :: rest ∧ ∀ entry ∈ rest, entry.isBegan = false := by
  obtain ⟨hready, hrecord⟩ := forall_runs (P := Ready) (fun _ he => ready_record he) (ready_called h withdrawn) r hr
  rw [hrecord]
  exact began_record hready origin

/-- The journal of a call tells of as many beginnings as there are runs. -/
theorem countP_callJournal :
    (e.callJournal origin withdrawn).countP JournalEntry.isBegan = (e.runs origin withdrawn).length := by
  have hone : ((e.runs origin withdrawn).map RunRecord.journal).map (List.countP JournalEntry.isBegan) =
      (e.runs origin withdrawn).map fun _ => 1 := by
    rw [List.map_map]
    refine List.map_congr_left fun r hr => ?_
    obtain ⟨rest, hrest, hnone⟩ := began_of_mem_runs h hr
    have hcount : rest.countP JournalEntry.isBegan = 0 := by simpa [List.countP_eq_zero] using hnone
    rw [Function.comp_apply, hrest, List.countP_cons, hcount]
    rfl
  rw [callJournal_eq h, List.countP_flatten, hone]
  simp

end

/-- A call that ends well, however it was asked for, makes one run and one more for each of its runs that was
disturbed. Requests that come meanwhile find the lock held and are only noted, no run begins within another, and the
report is that of the last run, which began after every request. -/
theorem reruns_counted {settings : Settings} {host : HostTypes} {schema : Schema} {toolchain : Toolchain}
    {start : Engine} (hnew : Engine.new settings host schema toolchain = .ok start) (history : List Event)
    (origin : Option String) (withdrawn : Bool) {report : HealReport}
    (hok : ((start.after history).run origin withdrawn).1 = .ok report) :
    let e := start.after history
    let runs := e.runs origin withdrawn
    let disturbed := fun r : RunRecord => coalescedIn r.journal
    e.requestCompile origin withdrawn = (.ok (.completed report), (e.run origin withdrawn).2) ∧
      (∀ r ∈ runs, ∀ p ∈ r.passes, p.NotesRequests) ∧
      (∀ r ∈ runs, ∃ rest, r.journal = .began origin :: rest ∧ ∀ entry ∈ rest, entry.isBegan = false) ∧
      (e.callJournal origin withdrawn).countP JournalEntry.isBegan = runs.length ∧
      runs.length = 1 + runs.countP disturbed ∧
      ∃ earlier last, runs = earlier ++ [last] ∧ e.run origin withdrawn = (.ok report, last.after.release) ∧
        last.result = .ok report ∧ disturbed last = false ∧
        e.callJournal origin withdrawn = (earlier.map RunRecord.journal).flatten ++ last.journal := by
  intro e runs disturbed
  have hpos : 0 < e.settings.maxHealCycles := pos_after hnew history
  have hfree : e.around.locked = false := by
    obtain ⟨-, rfl⟩ := new_eq_ok hnew
    exact unlocked_after rfl history
  obtain ⟨last, hlast, hrun⟩ := e.run_eq_last origin withdrawn
  obtain ⟨earlier, hruns⟩ := List.getLast?_eq_some_iff.1 hlast
  have hruns : runs = earlier ++ [last] := hruns
  have hidle : disturbed last = false := (pending_run hpos hlast hrun).symm.trans (run_settles hpos hok)
  have hresult : last.result = .ok report := (congrArg Prod.fst hrun).symm.trans hok
  refine ⟨?_, fun r hr => notesRequests_of_mem_runs hr, fun r hr => began_of_mem_runs hpos hr,
    countP_callJournal hpos, ?_, earlier, last, hruns, ?_, hresult, hidle, ?_⟩
  · rw [requestCompile_of_unlocked hfree, hok]
    rfl
  · have hdisturbed : earlier.countP disturbed = earlier.length :=
      List.countP_eq_length.2 (coalescedIn_of_earlier hpos hruns)
    rw [hruns, List.countP_append, hdisturbed, List.countP_singleton, hidle, List.length_append]
    simp [Nat.add_comm]
  · rw [hrun, hresult]
  · have hjournal : e.callJournal origin withdrawn = (runs.map RunRecord.journal).flatten := callJournal_eq hpos withdrawn
    rw [hjournal, hruns]
    simp

/-- A type is defined while the first run compiles, and two sessions ask for a run; it is deleted while the second
run compiles it, and one asks again. -/
def disturbedTwice : Toolchain :=
  ⟨.echo,
    [some ⟨[.edit (.upsert ⟨"app.New", "type New", []⟩), .requestCompile none, .requestCompile (some "viewer")],
      .immediate, .compiled⟩,
    some ⟨[.edit (.removeType "app.New"), .requestCompile none], .immediate, .compiled⟩]⟩

/-- Three requests came during two runs, so there are three runs, and the last retires the type. -/
theorem two_reruns_suffice :
    ∃ start, Engine.new .default none oneType disturbedTwice = .ok start ∧
      (start.run (some "editor") false).1 = .ok ⟨true, 1, 3, [], ["app.New"], [], [], false⟩ ∧
      (start.callJournal (some "editor") false).countP JournalEntry.isCoalesced = 3 ∧
      (start.runs (some "editor") false).length = 3 := by
  have hnew : Engine.new .default none oneType disturbedTwice = .ok (fresh .default none oneType disturbedTwice) := rfl
  have hok : ((fresh .default none oneType disturbedTwice).run (some "editor") false).1 =
    .ok ⟨true, 1, 3, [], ["app.New"], [], [], false⟩ := eq_ok_of_toOption (by decide +kernel)
  refine ⟨_, hnew, hok, by decide +kernel, ?_⟩
  obtain ⟨-, -, -, -, hlength, -⟩ := reruns_counted hnew [] (some "editor") false hok
  have hdisturbed : ((fresh .default none oneType disturbedTwice).runs (some "editor") false).countP
    (fun r => coalescedIn r.journal) = 2 := by decide +kernel
  rw [after, List.foldl_nil, hdisturbed] at hlength
  exact hlength

end Engine

end HotSchema
