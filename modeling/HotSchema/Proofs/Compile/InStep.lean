import HotSchema.Proofs.Compile.Consistency
import HotSchema.Proofs.Schema.Tracking
import HotSchema.Proofs.Source.Location
/-!
# Stores in step with a schema

Between two passes nothing is lost as long as the stores are in step with the schema: they are consistent,
what is registered is live or its removal waits somewhere, and what waits to be compiled was generated from
a type that is live or whose removal waits in the schema. A pass takes all that waits out of the staging
together with the schema's batch. However it ends, the stores are in step again, with whatever the schema
became meanwhile; and if it succeeds, they hold exactly what was live when it asked.
-/

namespace HotSchema

/-- Some type generates the unit, though perhaps no type of the schema any more. -/
def SourceUnit.Generated (unit : SourceUnit) : Prop := ∃ t : TypeModel, t.generate = .ok unit

namespace Stores

structure InStep (s : Stores) (schema : Schema) : Prop extends s.Consistent where
  registered : ∀ name ∈ s.registry.registered, name ∈ s.staging.removed.names ∨ schema.Tracks name
  staged : ∀ unit ∈ s.staging.staged.toList, unit.Generated ∧ schema.Tracks unit.name

theorem InStep.keepsTrack {s : Stores} {schema schema' : Schema} (h : s.InStep schema)
    (hkeeps : schema.KeepsTrack schema') : s.InStep schema' where
  toConsistent := h.toConsistent
  registered := fun name hname => (h.registered name hname).imp_right (hkeeps name)
  staged := fun unit hunit => (h.staged unit hunit).imp_right (hkeeps unit.name)

/-- Sessions, the host and a wish for a full rebuild have no part in it. -/
theorem InStep.of_same {s s' : Stores} {schema : Schema} (h : s.InStep schema)
    (hstaged : s'.staging.staged = s.staging.staged) (hremoved : s'.staging.removed = s.staging.removed)
    (hcompiled : s'.staging.compiled = s.staging.compiled) (hregistry : s'.registry = s.registry)
    (hlibrary : s'.library = s.library) : s'.InStep schema where
  toConsistent := h.toConsistent.of_compiled (by simp [hcompiled]) hregistry hlibrary
  registered := by
    rw [hregistry, hremoved]
    exact h.registered
  staged := by
    rw [hstaged]
    exact h.staged

/-- The registry has exactly the names of some types, and each is recorded with the text it generates. -/
structure Converged (s : Stores) (live : List TypeModel) : Prop where
  names : s.registry.current.names = sortNames (live.map TypeModel.name)
  digests : ∀ t ∈ live, ∃ unit, t.generate = .ok unit ∧
    s.staging.compiledDigest? t.name = some unit.digest

/-- What holds after a request was taken out for some types: nothing waits any more, the request has what
changed of them, and it has the removal of everything else that is registered. -/
structure Taken (s : Stores) (r : CompileRequest) (live : List TypeModel) : Prop extends s.Consistent where
  staged : s.staging.staged = ∅
  removed : s.staging.removed = ∅
  nodup : r.names.Nodup
  asked : ∀ unit ∈ r.units, unit.Generated ∧ unit.name ∈ live.map TypeModel.name
  dead : ∀ name ∈ r.removed, name ∉ live.map TypeModel.name
  registered : ∀ name ∈ s.registry.registered, name ∈ r.removed ∨ name ∈ live.map TypeModel.name
  held : ∀ t ∈ live, ∃ unit, t.generate = .ok unit ∧
    ((∃ u ∈ r.units, u.name = t.name ∧ u.digest = unit.digest) ∨
      t.name ∉ r.names ∧ s.staging.compiledDigest? t.name = some unit.digest)

/-! ### Taking the request out -/

/-- Takes a batch in and takes all that waits out. -/
def stage (s : Stores) (batch : SourceBatch) : CompileRequest × Stores :=
  let staging := s.staging.take batch.units batch.removed
  (⟨staging.staged.toList, staging.removed.toList⟩,
    { s with staging := { staging with staged := ∅, removed := ∅ } })

theorem Consistent.stage {s : Stores} (h : s.Consistent) (batch : SourceBatch) :
    (s.stage batch).2.Consistent :=
  h.of_compiled (fun name hname => by rwa [Stores.stage, Staging.compiled_take] at hname) rfl rfl

theorem nodup_stage (s : Stores) (batch : SourceBatch) : (s.stage batch).1.names.Nodup :=
  (s.staging.take batch.units batch.removed).staged.nodup

theorem InStep.stage {s : Stores} {schema schema' : Schema} {batch : SourceBatch} (h : s.InStep schema)
    (hrequest : schema.request = (.ok batch, schema')) :
    (s.stage batch).2.Taken (s.stage batch).1 schema.live := by
  obtain ⟨hunits, hremoved, -⟩ := Schema.request_eq_ok hrequest
  have hnames : batch.units.map SourceUnit.name = schema.liveNames := Schema.names_of_generated hunits
  have hnodup : (batch.units.map SourceUnit.name).Nodup := hnames ▸ schema.nodup_liveNames
  refine ⟨h.toConsistent.stage batch, rfl, rfl, s.nodup_stage batch, ?_, ?_, ?_, ?_⟩
  · intro unit hunit
    rcases Staging.mem_staged_take hunit with hoffered | ⟨hkept, hwaited⟩
    · obtain ⟨t, -, hgenerate⟩ := Schema.exists_of_generated hunits hoffered
      have hlive : unit.name ∈ schema.liveNames := hnames ▸ List.mem_map_of_mem hoffered
      exact ⟨⟨t, hgenerate⟩, hlive⟩
    · obtain ⟨hgenerated, htracks⟩ := h.staged unit hwaited
      exact ⟨hgenerated, htracks.resolve_right (hremoved ▸ hkept)⟩
  · intro name hname
    have := (Staging.mem_removed_take.1 (mem_toList_iff.1 hname)).1
    rwa [hnames] at this
  · intro name hname
    by_cases hlive : name ∈ schema.liveNames
    · exact Or.inr hlive
    · refine Or.inl (mem_toList_iff.2 (Staging.mem_removed_take.2 ⟨by rwa [hnames], ?_⟩))
      rw [hremoved]
      rcases h.registered name hname with hwaits | htracks
      · exact Or.inr hwaits
      · exact Or.inl (htracks.resolve_left hlive)
  · intro t ht
    obtain ⟨unit, hmem, hgenerate⟩ := Schema.exists_generated hunits ht
    have hname := TypeModel.name_of_generate hgenerate
    refine ⟨unit, hgenerate, ?_⟩
    have hholds : (s.staging.take batch.units batch.removed).Holds unit.name unit.digest :=
      Staging.take_holds hnodup hmem
    rcases hholds with
      ⟨waiting, hfind, hdigest⟩ | ⟨hnot, hcompiled⟩
    · have hwaiting : waiting.name = unit.name := Roster.name_of_find? hfind
      exact Or.inl ⟨waiting, Roster.mem_of_find? hfind, hwaiting.trans hname, hdigest⟩
    · rw [hname] at hnot hcompiled
      exact Or.inr ⟨hnot, hcompiled⟩

/-! ### However the pass ends -/

section

variable {s s' : Stores} {r : CompileRequest} {live : List TypeModel} {schema : Schema}
  {produced : List CompiledUnit}

theorem Taken.name_asked (h : s.Taken r live) {name : String} (hname : name ∈ r.names) :
    name ∈ live.map TypeModel.name := by
  obtain ⟨unit, hunit, rfl⟩ := List.mem_map.1 hname
  exact (h.asked unit hunit).2

theorem Taken.not_mem_staged (h : s.Taken r live) (unit : SourceUnit) : unit ∉ s.staging.staged.toList := by
  rw [h.staged]
  exact List.not_mem_nil

/-- An error that was located at an entity was located within a type that is live. -/
theorem Taken.owner_of_mem_errorTokens (h : s.Taken r live) {diagnostics : List Diagnostic} {token : Token}
    (htoken : token ∈ errorTokens r.units diagnostics) {e : EntityRef} (he : token.entity = some e) :
    e.owner ∈ live.map TypeModel.name := by
  obtain ⟨d, -, rfl⟩ := List.mem_map.1 htoken
  rcases hfind : r.units.find? (·.name == d.unit) with _ | unit <;> rw [hfind] at he
  · cases he
  · obtain ⟨⟨t, hgenerate⟩, hlive⟩ := h.asked unit (List.mem_of_find?_eq_some hfind)
    rwa [Token.owner_of_entity hgenerate he, ← TypeModel.name_of_generate hgenerate]

/-- A batch put back after an error waits as it did before. -/
theorem Taken.restage (h : s.Taken r live) (htracks : ∀ name ∈ live.map TypeModel.name, schema.Tracks name)
    (hfailed : s.Failed r s') :
    InStep { s' with staging := s'.staging.take r.units r.removed } schema := by
  refine ⟨?_, ?_, ?_⟩
  · refine h.toConsistent.of_compiled (fun name hname => ?_) hfailed.registry (hfailed.library h.nodup)
    rwa [Staging.compiled_take, hfailed.staging] at hname
  · intro name hname
    have hname : name ∈ s.registry.registered := hfailed.registry ▸ hname
    rcases h.registered name hname with hremoved | hlive
    · refine Or.inl (Staging.mem_removed_take.2 ⟨fun hunit => ?_, Or.inl hremoved⟩)
      exact h.dead name hremoved (h.name_asked hunit)
    · exact Or.inr (htracks name hlive)
  · intro unit hunit
    rcases Staging.mem_staged_take hunit with hasked | ⟨-, hwaited⟩
    · exact (h.asked unit hasked).imp_right (htracks unit.name)
    · exact absurd (hfailed.staging ▸ hwaited) (h.not_mem_staged unit)

/-- A rejected batch is forgotten, but its removals wait again. -/
theorem Taken.rejected (h : s.Taken r live) (htracks : ∀ name ∈ live.map TypeModel.name, schema.Tracks name)
    (hrejected : s.Rejected r s') : s'.InStep schema := by
  refine ⟨h.toConsistent.rejected hrejected, ?_, ?_⟩ <;> subst hrejected
  · intro name hname
    rcases h.registered name hname with hremoved | hlive
    · exact Or.inl (Staging.mem_removed_stageRemovals.2 (Or.inl hremoved))
    · exact Or.inr (htracks name hlive)
  · intro unit hunit
    exact absurd (Staging.mem_staged_stageRemovals.1 hunit).2 (h.not_mem_staged unit)

theorem Taken.mem_retiring (h : s.Taken r live) {name : String} : name ∈ r.retiring ↔ name ∈ r.removed := by
  simp only [CompileRequest.retiring, List.mem_filter, decide_eq_true_eq, and_iff_left_iff_imp]
  exact fun hremoved hunit => h.dead name hremoved (h.name_asked hunit)

theorem Taken.mem_registered_installed (h : s.Taken r live) (hinstalled : s.Installed r produced s') {name : String} :
    name ∈ s'.registry.registered ↔ name ∈ live.map TypeModel.name := by
  obtain ⟨loaded, hloaded, -, hregistry⟩ := hinstalled.registry
  rw [hregistry, Registry.mem_registered_publish, hloaded, h.mem_retiring]
  constructor
  · rintro (hunit | ⟨hold, hkept⟩)
    · exact h.name_asked hunit
    · exact (h.registered name hold).resolve_left hkept
  · intro hlive
    obtain ⟨t, ht, rfl⟩ := List.mem_map.1 hlive
    obtain ⟨unit, -, ⟨u, hu, hname, -⟩ | ⟨-, hdigest⟩⟩ := h.held t ht
    · exact Or.inl (hname ▸ List.mem_map_of_mem hu)
    · obtain ⟨stamp, hstamp, -⟩ := Option.map_eq_some_iff.1 hdigest
      have hcompiled := Roster.mem_names_iff_find?.2 ⟨stamp, hstamp⟩
      exact Or.inr ⟨h.compiled t.name hcompiled, fun hremoved => h.dead t.name hremoved hlive⟩

theorem Taken.compiledDigest?_installed (h : s.Taken r live) (hinstalled : s.Installed r produced s') {t : TypeModel}
    (ht : t ∈ live) :
    ∃ unit, t.generate = .ok unit ∧ s'.staging.compiledDigest? t.name = some unit.digest := by
  obtain ⟨unit, hgenerate, hheld⟩ := h.held t ht
  have hkept : t.name ∉ r.retiring := fun hretired =>
    h.dead t.name (h.mem_retiring.1 hretired) (List.mem_map_of_mem ht)
  refine ⟨unit, hgenerate, ?_⟩
  rw [hinstalled.staging, Staging.compiledDigest?_forgetAll hkept]
  rcases hheld with ⟨u, hu, hname, hdigest⟩ | ⟨hnot, hdigest⟩
  · rw [← hname, ← hdigest]
    exact Staging.compiledDigest?_markCompiled h.nodup hu
  · rw [Staging.compiledDigest?_markCompiled_of_not_mem hnot, hdigest]

theorem Taken.converged_installed (h : s.Taken r live) (hnodup : (live.map TypeModel.name).Nodup)
    (hinstalled : s.Installed r produced s') : s'.Converged live where
  names := by
    have hsound := (h.toConsistent.installed hinstalled).sound
    rw [hsound.names_eq]
    exact sortNames_eq_of_mem_iff hsound.nodup hnodup fun _ => h.mem_registered_installed hinstalled
  digests := fun _ ht => h.compiledDigest?_installed hinstalled ht

theorem Taken.inStep_installed (h : s.Taken r live)
    (htracks : ∀ name ∈ live.map TypeModel.name, schema.Tracks name)
    (hinstalled : s.Installed r produced s') : s'.InStep schema where
  toConsistent := h.toConsistent.installed hinstalled
  registered := fun name hname =>
    Or.inr (htracks name ((h.mem_registered_installed hinstalled).1 hname))
  staged := by
    intro unit hunit
    rw [hinstalled.staging, Staging.mem_staged_forgetAll] at hunit
    exact absurd hunit.2 (h.not_mem_staged unit)

theorem Taken.converged_of_isEmpty (h : s.Taken r live) (hnodup : (live.map TypeModel.name).Nodup)
    (hempty : r.isEmpty = true) : s.Converged live := by
  simp only [CompileRequest.isEmpty, Bool.and_eq_true, List.isEmpty_iff] at hempty
  have hdigest : ∀ t ∈ live, ∃ unit, t.generate = .ok unit ∧
      s.staging.compiledDigest? t.name = some unit.digest := by
    intro t ht
    obtain ⟨unit, hgenerate, ⟨u, hu, -⟩ | ⟨-, hdigest⟩⟩ := h.held t ht
    · simp [hempty.1] at hu
    · exact ⟨unit, hgenerate, hdigest⟩
  refine ⟨?_, hdigest⟩
  rw [h.sound.names_eq]
  refine sortNames_eq_of_mem_iff h.sound.nodup hnodup fun name => ⟨fun hname => ?_, fun hname => ?_⟩
  · exact (h.registered name hname).resolve_left (by simp [hempty.2])
  · obtain ⟨t, ht, rfl⟩ := List.mem_map.1 hname
    obtain ⟨unit, -, hunit⟩ := hdigest t ht
    obtain ⟨stamp, hstamp, -⟩ := Option.map_eq_some_iff.1 hunit
    exact h.compiled t.name (Roster.mem_names_iff_find?.2 ⟨stamp, hstamp⟩)

theorem Taken.inStep_of_isEmpty (h : s.Taken r live)
    (htracks : ∀ name ∈ live.map TypeModel.name, schema.Tracks name) (hempty : r.isEmpty = true) :
    s.InStep schema where
  toConsistent := h.toConsistent
  registered := by
    intro name hname
    simp only [CompileRequest.isEmpty, Bool.and_eq_true, List.isEmpty_iff] at hempty
    exact Or.inr (htracks name ((h.registered name hname).resolve_left (by simp [hempty.2])))
  staged := fun unit hunit => absurd hunit (h.not_mem_staged unit)

end

end Stores

end HotSchema
