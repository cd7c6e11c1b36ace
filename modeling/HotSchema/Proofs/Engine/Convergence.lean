import HotSchema.Proofs.Engine.Run
/-!
# Convergence

Whatever happened to an engine before, a run that succeeds leaves the registry with exactly the types that
were live when the run last asked for units, and every one of them recorded with the text it generated
then. No edit, withdrawal, timeout, failed run or reset can make a later run skip a type or keep a deleted
one: the engine is in step after every history.
-/

namespace HotSchema

namespace Engine

theorem inStep_fresh (settings : Settings) (host : HostTypes) (schema : Schema) (toolchain : Toolchain) :
    (fresh settings host schema toolchain).InStep := by
  refine ⟨⟨.of_empty 0 rfl rfl, ?_, ?_⟩, rfl, rfl, rfl⟩
  · simp [fresh, Stores.new, Registry.new, Registry.registered, Snapshot.empty, Snapshot.ofTable]
  · exact List.forall_mem_nil _

theorem InStep.reset {e : Engine} (h : e.InStep) : e.reset.InStep := by
  refine ⟨⟨.of_empty _ rfl rfl, ?_, ?_⟩, h.plain⟩
  · simp [Engine.reset, Registry.reset, Registry.registered, Snapshot.empty, Snapshot.ofTable]
  · exact List.forall_mem_nil _

theorem keptByEvents_inStep : KeptByEvents InStep where
  toKeptByRuns := keptByRuns_inStep
  called := fun _ _ he => ⟨he.stores, he.plain⟩
  release := fun _ he => ⟨he.stores, he.plain⟩
  edit := fun e edit he => he.of_follows rfl ⟨e.schema.keepsTrack_edit edit, rfl, rfl, rfl⟩
  script := fun _ _ he => ⟨he.stores, he.plain⟩
  failRequests := fun _ _ he => ⟨he.stores, he.plain.drafts, he.plain.extraRemoved, he.plain.later⟩
  hub := fun _ _ he => ⟨he.stores.of_same rfl rfl rfl rfl rfl, he.plain⟩
  reset := fun _ he => he.reset

theorem registry_converges {settings : Settings} {host : HostTypes} {schema : Schema}
    {toolchain : Toolchain} {e : Engine} (hnew : Engine.new settings host schema toolchain = .ok e)
    {history : List Event} {r : RunRecord} (hr : r ∈ e.runsIn history) {report : HealReport}
    (hok : r.result = .ok report) (hsuccess : report.success = true) :
    ∃ p, r.passes.getLast? = some p ∧ (p.result, p.after) = p.before.pass r.origin ∧
      r.after = { p.after with phase := .succeeded } ∧
      r.after.stores.registry.current.names = sortNames p.before.schema.liveNames ∧
      ∀ t ∈ p.before.schema.live, ∃ unit, t.generate = .ok unit ∧
        r.after.stores.staging.compiledDigest? t.name = some (Digest.ofText unit.text) := by
  obtain ⟨-, rfl⟩ := new_eq_ok hnew
  obtain ⟨hbefore, hrecord⟩ := forall_runsIn keptByEvents_inStep (inStep_fresh ..) history r hr
  rw [hrecord] at hok
  obtain ⟨p, hp, hpass, hafter, hconverged⟩ := hbefore.converged_record hok hsuccess
  rw [← hrecord] at hp hafter
  refine ⟨p, hp, hpass, hafter, ?_⟩
  rw [hafter]
  exact ⟨hconverged.names, hconverged.digests⟩

/-- A type is compiled and then deleted; the run that would retire it is withdrawn from; another type is
defined, and the next run succeeds. -/
def withdrawnRemoval : List Event :=
  [.edit (.upsert ⟨"app.Old", "type Old", []⟩), .run none false, .edit (.removeType "app.Old"), .run none true,
    .edit (.upsert ⟨"app.New", "type New", []⟩), .run none false]

/-- The removal is not lost with the run that was to serve it. -/
theorem registry_converges_after_withdrawal :
    ∃ e r report, Engine.new .default none .empty ⟨.echo, []⟩ = .ok e ∧ r ∈ e.runsIn withdrawnRemoval ∧
      r.result = .ok report ∧ report.success = true ∧ report.retired = ["app.Old"] ∧
      ∃ p, r.passes.getLast? = some p ∧
        r.after.stores.registry.current.names = sortNames p.before.schema.liveNames := by
  have hnew : Engine.new .default none .empty ⟨.echo, []⟩ = .ok (fresh .default none .empty ⟨.echo, []⟩) := rfl
  have hthird : ((fresh .default none .empty ⟨.echo, []⟩).runsIn withdrawnRemoval)[2]?.map RunRecord.result =
    some (.ok ⟨true, 1, 2, ["app.New"], ["app.Old"], [], [], false⟩) := by rfl
  obtain ⟨r, hr, hok⟩ := Option.map_eq_some_iff.1 hthird
  have hmem := List.mem_of_getElem? hr
  obtain ⟨p, hp, -, -, hnames, -⟩ := registry_converges hnew hmem hok rfl
  exact ⟨_, r, _, hnew, hmem, hok, rfl, rfl, p, hp, hnames⟩

end Engine

end HotSchema
