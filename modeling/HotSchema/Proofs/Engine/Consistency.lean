import HotSchema.Proofs.Engine.Convergence
/-!
# Registered names resolve at any time

The stores of an engine are consistent after every history, and also while a compiler runs, which sees them
with the batch taken in and the request taken out. So whoever asks for a registered type gets it, between
two runs or in the middle of one, and nobody is told that the library lacks a registered type. The host
program has no part in that: a registered type never resolves through it.
-/

namespace HotSchema

/-- A registered name resolves, to the type of that name as long as the index of the registry has a place for every
type, and no name is found registered without its unit. -/
structure Stores.Resolves (s : Stores) : Prop where
  registered : ∀ name ∈ s.registry.registered,
    ∃ t, s.instantiate name = .ok t ∧ (s.registry.current.Fits → t.name = name)
  consistent : ∀ name missing, s.instantiate name ≠ .error (.loaderInconsistency missing)

theorem Stores.Consistent.resolves {s : Stores} (h : s.Consistent) : s.Resolves where
  registered := fun _ hname => by
    obtain ⟨t, -, hok, htname⟩ := h.instantiate_of_registered hname
    exact ⟨t, hok, htname⟩
  consistent := h.instantiate_ne

/-- Nobody who asked while a compiler ran was told that the library lacks a registered type. -/
def JournalEntry.Resolved : JournalEntry → Prop
  | called _ during => ∀ missing, .instantiated (.error (.loaderInconsistency missing)) ∉ during
  | _ => True

namespace Surroundings

def Resolved (w : Surroundings) : Prop := ∀ entry ∈ w.journal, entry.Resolved

section

variable {w : Surroundings} {stores : Stores} {phase : Phase}

theorem Resolved.log (h : w.Resolved) (entry : JournalEntry) (hentry : entry.Resolved) :
    (w.log entry).Resolved := by
  intro other hother
  rcases List.mem_append.1 hother with hold | hnew
  · exact h other hold
  · rwa [List.mem_singleton.1 hnew]

theorem Resolved.interject (h : w.Resolved) (i : Interjection) : (w.interject phase stores i).2.Resolved := by
  cases i with
  | requestCompile origin =>
    show (w.requestRun origin).2.Resolved
    rcases w.requestRun_cases origin with ⟨hrequest, -⟩ | ⟨hrequest, -⟩ <;> rw [hrequest]
    · exact h.log (.coalesced origin) trivial
    · exact h
  | edit _ | withdraw | askPhase | instantiate _ => exact h

theorem finding_ne (hstores : stores.Consistent) (i : Interjection) (missing : String) :
    (w.interject phase stores i).1 ≠ .instantiated (.error (.loaderInconsistency missing)) := by
  cases i with
  | instantiate name =>
    intro hfinding
    exact hstores.instantiate_ne name missing (Finding.instantiated.inj hfinding)
  | edit _ | requestCompile _ | withdraw | askPhase => simp [Surroundings.interject]

theorem Resolved.interjectAll (h : w.Resolved) (hstores : stores.Consistent) (is : List Interjection) :
    (interjectAll phase stores is w).2.Resolved ∧
      ∀ missing, .instantiated (.error (.loaderInconsistency missing)) ∉ (interjectAll phase stores is w).1 := by
  induction is generalizing w with
  | nil => exact ⟨h, fun _ => List.not_mem_nil⟩
  | cons i rest ih =>
    obtain ⟨hjournal, hfindings⟩ := ih (h.interject i)
    refine ⟨hjournal, fun missing hmem => ?_⟩
    rcases List.mem_cons.1 hmem with hfirst | hrest
    · exact finding_ne hstores i missing hfirst.symm
    · exact hfindings missing hrest

theorem Resolved.call (h : w.Resolved) (hstores : stores.Consistent) (budget : Nat) (c : CompilerCall) :
    (w.call budget phase stores c).2.Resolved := by
  have hnext : Resolved { w with toolchain := w.toolchain.next.2 } := h
  obtain ⟨hjournal, hfindings⟩ := hnext.interjectAll hstores w.toolchain.next.1.during
  exact hjournal.log _ hfindings

end

end Surroundings

namespace Engine

theorem consistent_observed {e : Engine} (h : e.stores.Consistent) : e.observed.Consistent := by
  unfold observed
  rcases hasked : e.askForUnits with ⟨error | batch, e₁⟩
  all_goals
    have hstores : e₁.stores = e.stores := congrArg (·.2.stores) hasked.symm
    rw [← hstores] at h
  · exact h
  · exact h.stage batch

/-! ### Histories -/

/-- An engine in step that answered whoever asked. -/
structure Resolving (e : Engine) : Prop where
  inStep : e.InStep
  journal : e.around.Resolved

theorem Resolving.pass {e : Engine} (h : e.Resolving) (origin : Option String) :
    (e.pass origin).2.Resolving where
  inStep := (h.inStep.pass origin).1
  journal := by
    have hasked : e.askForUnits.2.around.Resolved := h.journal.log .askedForUnits trivial
    rcases e.around_pass origin with hsame | ⟨call, hcall⟩
    · rwa [hsame]
    · rw [hcall]
      exact hasked.call (consistent_observed h.inStep.stores.toConsistent) _ call

theorem keptByEvents_resolving : KeptByEvents Resolving where
  phase := fun e phase h => ⟨keptByEvents_inStep.phase e phase h.inStep, h.journal⟩
  begin := fun e origin h =>
    ⟨keptByEvents_inStep.begin e origin h.inStep, h.journal.log (.began origin) trivial⟩
  pass := fun _ origin h => h.pass origin
  heal := fun e tokens h => ⟨keptByEvents_inStep.heal e tokens h.inStep, h.journal⟩
  regenerate := fun e h => ⟨keptByEvents_inStep.regenerate e h.inStep, h.journal⟩
  called := fun e withdrawn h => ⟨keptByEvents_inStep.called e withdrawn h.inStep, h.journal⟩
  release := fun e h => ⟨keptByEvents_inStep.release e h.inStep, h.journal⟩
  edit := fun e edit h => ⟨keptByEvents_inStep.edit e edit h.inStep, h.journal⟩
  script := fun e turns h => ⟨keptByEvents_inStep.script e turns h.inStep, h.journal⟩
  failRequests := fun e count h => ⟨keptByEvents_inStep.failRequests e count h.inStep, h.journal⟩
  hub := fun e hub h => ⟨keptByEvents_inStep.hub e hub h.inStep, h.journal⟩
  reset := fun e h => ⟨keptByEvents_inStep.reset e h.inStep, h.journal⟩

/-- The engine in another host program. -/
def withHost (e : Engine) (host : HostResolver) : Engine := { e with stores := { e.stores with host } }

theorem resolving_fresh (settings : Settings) (host : HostTypes) (schema : Schema) (toolchain : Toolchain)
    (resolver : HostResolver) : ((fresh settings host schema toolchain).withHost resolver).Resolving := by
  have hfresh := inStep_fresh settings host schema toolchain
  exact ⟨⟨hfresh.stores.of_same rfl rfl rfl rfl rfl, hfresh.plain⟩, List.forall_mem_nil _⟩

/-- The stores are consistent after every history and whenever a compiler is called, and whatever the host
has become by then, every registered name resolves and none is found to lack its unit; nor was any found so
by those who asked while a compiler ran. -/
theorem registered_types_resolve {settings : Settings} {host : HostTypes} {schema : Schema}
    {toolchain : Toolchain} {start : Engine} (hnew : Engine.new settings host schema toolchain = .ok start)
    (resolver : HostResolver) (history : List Event) :
    let start := start.withHost resolver
    let e := start.after history
    (e.stores.Consistent ∧ ∀ host, Stores.Resolves { e.stores with host }) ∧
      (∀ r ∈ start.runsIn history, ∀ p ∈ r.passes,
        p.before.observed.Consistent ∧ ∀ host, Stores.Resolves { p.before.observed with host }) ∧
      ∀ call during, .called call during ∈ e.around.journal →
        ∀ missing, .instantiated (.error (.loaderInconsistency missing)) ∉ during := by
  obtain ⟨-, rfl⟩ := new_eq_ok hnew
  have hstart := resolving_fresh settings host schema toolchain resolver
  have hafter := after_preserves keptByEvents_resolving hstart history
  have hconsistent := hafter.inStep.stores.toConsistent
  refine ⟨⟨hconsistent, fun host => (hconsistent.withHost host).resolves⟩, ?_, ?_⟩
  · intro r hr p hp
    obtain ⟨hbefore, hrecord⟩ := forall_runsIn keptByEvents_resolving hstart history r hr
    rw [hrecord] at hp
    obtain ⟨hpass, -⟩ := forall_passes keptByEvents_resolving.toKeptByRuns hbefore r.origin p hp
    have hobserved := consistent_observed hpass.inStep.stores.toConsistent
    exact ⟨hobserved, fun host => (hobserved.withHost host).resolves⟩
  · intro call during hcalled
    exact hafter.journal _ hcalled

/-- A compiler makes a unit that nobody asked for; later the type is deleted, and then it is defined anew
while the host has a type of that name. -/
def strayUnit : List Event :=
  [.edit (.upsert ⟨"app.Old", "type Old", []⟩),
    .script [some ⟨[.instantiate "app.Old"], .immediate,
      .reports [] [] (some [.ofText "app.Old" "old", .ofText "app.Stray" "stray"])⟩],
    .run none false, .edit (.removeType "app.Old"), .run none false,
    .edit (.upsert ⟨"app.Old", "type Old", []⟩), .run none false]

theorem redefined_type_resolves :
    ∃ start, Engine.new .default none .empty ⟨.echo, []⟩ = .ok start ∧
      let start := start.withHost ⟨fun name => some ⟨name, .empty⟩⟩
      let e := start.after strayUnit
      e.stores.registry.registered = ["app.Old"] ∧ e.stores.library.names = ["app.Stray", "app.Old"] ∧
        ∃ t, t.name = "app.Old" ∧ e.stores.instantiate "app.Old" = .ok t := by
  have hnew : Engine.new .default none .empty ⟨.echo, []⟩ = .ok (fresh .default none .empty ⟨.echo, []⟩) := rfl
  refine ⟨_, hnew, rfl, rfl, ?_⟩
  obtain ⟨⟨-, hresolves⟩, -, -⟩ := registered_types_resolve hnew ⟨fun name => some ⟨name, .empty⟩⟩ strayUnit
  obtain ⟨t, hok, htname⟩ := (hresolves ⟨fun name => some ⟨name, .empty⟩⟩).registered "app.Old" List.mem_cons_self
  exact ⟨t, htname (by decide), hok⟩

end Engine

end HotSchema
