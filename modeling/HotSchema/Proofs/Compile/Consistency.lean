import HotSchema.Proofs.Compile.Pass
/-!
# Stores that agree with each other

What is recorded as compiled is registered, what is registered is in the library, and what is registered
was compiled at run time. A pass keeps that however it ends, so long as its request names every unit once:
what is produced beside the request only adds to the library, and a name leaves the library only together
with its entry in the registry. In such stores a registered name always resolves, whatever the host does.
-/

namespace HotSchema

namespace Stores

structure Consistent (s : Stores) : Prop where
  sound : s.registry.Sound
  compiled : ∀ name ∈ s.staging.compiled.names, name ∈ s.registry.registered
  library : ∀ name ∈ s.registry.registered, name ∈ s.library.names
  dynamic : ∀ t ∈ s.registry.current.table, t.origin = .dynamic

variable {s s' : Stores} {r : CompileRequest}

/-- Forgetting digests keeps the stores consistent, and what waits in the staging does not matter. -/
theorem Consistent.of_compiled (h : s.Consistent)
    (hcompiled : ∀ name ∈ s'.staging.compiled.names, name ∈ s.staging.compiled.names)
    (hregistry : s'.registry = s.registry) (hlibrary : s'.library = s.library) : s'.Consistent where
  sound := hregistry ▸ h.sound
  compiled := fun name hname => hregistry ▸ h.compiled name (hcompiled name hname)
  library := by
    rw [hregistry, hlibrary]
    exact h.library
  dynamic := hregistry ▸ h.dynamic

theorem Consistent.of_empty (generation : Nat) (hregistry : s.registry.current = Snapshot.empty generation)
    (hcompiled : s.staging.compiled = ∅) : s.Consistent where
  sound := .empty generation hregistry
  compiled := by simp [hcompiled]
  library := by simp [Registry.registered, hregistry, Snapshot.empty, Snapshot.ofTable]
  dynamic := by simp [hregistry, Snapshot.empty, Snapshot.ofTable]

theorem Consistent.withHost (h : s.Consistent) (host : HostResolver) : Consistent { s with host } :=
  ⟨h.sound, h.compiled, h.library, h.dynamic⟩

/-! ### Passes -/

theorem Consistent.rejected (h : s.Consistent) (hrejected : s.Rejected r s') : s'.Consistent := by
  subst hrejected
  refine h.of_compiled (fun name hname => ?_) rfl rfl
  rw [Staging.compiled_stageRemovals, Staging.invalidate, Roster.mem_names_eraseAll] at hname
  exact hname.2

theorem Consistent.installed {produced : List CompiledUnit} (h : s.Consistent)
    (hinstalled : s.Installed r produced s') : s'.Consistent := by
  obtain ⟨loaded, hloaded, hdynamic, hregistry⟩ := hinstalled.registry
  refine ⟨?_, ?_, ?_, ?_⟩
  · rw [hregistry]
    exact h.sound.publish (hloaded ▸ hinstalled.nodup)
  · intro name hname
    rw [hinstalled.staging, Staging.mem_compiled_forgetAll, Staging.mem_compiled_markCompiled] at hname
    rw [hregistry, Registry.mem_registered_publish, hloaded]
    rcases hname.2 with hunit | hcompiled
    · exact Or.inl hunit
    · exact Or.inr ⟨h.compiled name hcompiled, hname.1⟩
  · intro name hname
    rw [hregistry, Registry.mem_registered_publish, hloaded] at hname
    rw [hinstalled.library, Roster.mem_names_eraseAll, Roster.mem_names_insertAll]
    rcases hname with hunit | ⟨hold, hkept⟩
    · exact ⟨fun hretired => not_mem_of_mem_retiring hretired hunit, Or.inl (hinstalled.produced name hunit)⟩
    · exact ⟨hkept, Or.inr (h.library name hold)⟩
  · intro t ht
    rw [hregistry] at ht
    rcases List.mem_append.1 ht with hkept | hnew
    · exact h.dynamic t (List.mem_of_mem_filter hkept)
    · exact hdynamic t hnew

/-- A pass leaves consistent stores, in whichever way it ends. -/
theorem Consistent.ended {output : CompilerOutput} {result : Except EngineError CompileOutcome}
    (h : s.Consistent) (hnodup : r.names.Nodup) (hended : s.Ended r output result s') : s'.Consistent := by
  cases hended with
  | nothing => exact h
  | error _ hfailed =>
    exact h.of_compiled (by simp [hfailed.staging]) hfailed.registry (hfailed.library hnodup)
  | rejected _ hrejected => exact h.rejected hrejected
  | installed _ hinstalled => exact h.installed hinstalled

/-! ### Resolving -/

theorem Consistent.instantiate_of_registered (h : s.Consistent) {name : String}
    (hname : name ∈ s.registry.registered) :
    ∃ t ∈ s.registry.current.table, s.instantiate name = .ok t ∧ (s.registry.current.Fits → t.name = name) := by
  obtain ⟨t, ht, hget, htname⟩ := h.sound.exists_get? hname
  have hcontains : s.library.contains name = true := Roster.contains_iff.2 (h.library name hname)
  exact ⟨t, ht, by simp [instantiate, hget, hcontains], htname⟩

theorem Consistent.instantiate_ne (h : s.Consistent) (name missing : String) :
    s.instantiate name ≠ .error (.loaderInconsistency missing) := by
  by_cases hname : name ∈ s.registry.registered
  · obtain ⟨t, -, hok, -⟩ := h.instantiate_of_registered hname
    simp [hok]
  · have hget : s.registry.get? name = none := by
      rw [Option.eq_none_iff_forall_ne_some]
      exact fun ref hget => hname (h.sound.registered_of_get? hget)
    rw [instantiate, hget]
    dsimp only
    split <;> simp

end Stores

end HotSchema
