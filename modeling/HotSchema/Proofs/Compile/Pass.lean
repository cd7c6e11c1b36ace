import HotSchema.Compile.Pass
import HotSchema.Proofs.Registry
import HotSchema.Proofs.Staging
/-!
# What a compile pass can come to

A pass ends in one of four ways: it had nothing to do, it ended in an error, its batch was rejected, or its
batch was installed. What the stores look like afterwards is said here once for each, and nothing later
opens a pass again.
-/

namespace HotSchema

namespace Stores

/-- The stores after a pass that ended in an error. What was produced may have come into the library, but
not if the request names every unit once. -/
structure Failed (s : Stores) (r : CompileRequest) (s' : Stores) : Prop where
  staging : s'.staging = s.staging
  registry : s'.registry = s.registry
  hub : s'.hub = s.hub
  host : s'.host = s.host
  library : r.names.Nodup → s'.library = s.library

theorem Failed.refl (s : Stores) (r : CompileRequest) : s.Failed r s := ⟨rfl, rfl, rfl, rfl, fun _ => rfl⟩

def Rejected (s : Stores) (r : CompileRequest) (s' : Stores) : Prop :=
  s' = { s with staging := (s.staging.invalidate r.names).stageRemovals r.removed }

/-- The stores after a pass that installed. All that was produced came into the library, asked for or not,
while the registry got what was asked for. -/
structure Installed (s : Stores) (r : CompileRequest) (produced : List CompiledUnit) (s' : Stores) : Prop where
  staging : s'.staging = (s.staging.markCompiled r.units).forgetAll r.retiring
  library : s'.library = (s.library.insertAll produced).eraseAll r.retiring
  registry : ∃ loaded : List LoadedType, loaded.map Named.name = r.names ∧
    (∀ t ∈ loaded, t.origin = .dynamic) ∧ s'.registry = (s.registry.publish loaded r.retiring).2
  produced : ∀ name ∈ r.names, name ∈ produced.map CompiledUnit.name
  nodup : r.names.Nodup
  host : s'.host = s.host

/-! ### Loading -/

theorem name_of_load {library : Library} {host : HostResolver} {name : String} {t : LoadedType}
    (h : library.load host name = some t) : t.name = name := by
  unfold Library.load at h
  split at h
  · next unit hfind =>
    cases h
    exact Roster.name_of_find? hfind
  · obtain ⟨unit, _, rfl⟩ := Option.map_eq_some_iff.1 h
    rfl

theorem names_of_loadAll {library : Library} {host : HostResolver} {names : List String}
    {loaded : List LoadedType} (h : loadAll library host names = .ok loaded) :
    loaded.map Named.name = names := by
  induction names generalizing loaded with
  | nil => cases h; rfl
  | cons name rest ih =>
    unfold loadAll at h
    split at h
    · next t hload =>
      split at h
      · split at h
        · next hrest =>
          cases h
          rw [List.map_cons, ih hrest]
          exact congrArg (· :: rest) (name_of_load hload)
        · cases h
      · cases h
    · cases h

theorem dynamic_of_loadAll {library : Library} {host : HostResolver} {names : List String}
    {loaded : List LoadedType} (h : loadAll library host names = .ok loaded) :
    ∀ t ∈ loaded, t.origin = .dynamic := by
  induction names generalizing loaded with
  | nil => cases h; simp
  | cons name rest ih =>
    unfold loadAll at h
    split at h
    · split at h
      · next hdynamic =>
        split at h
        · next hrest =>
          cases h
          exact List.forall_mem_cons.2 ⟨hdynamic, ih hrest⟩
        · cases h
      · cases h
    · cases h

/-- Names that are in the library are all loaded, whatever the host has. -/
theorem loadAll_of_mem {library : Library} {host : HostResolver} {names : List String}
    (h : ∀ name ∈ names, name ∈ library.names) : ∃ loaded, loadAll library host names = .ok loaded := by
  induction names with
  | nil => exact ⟨[], rfl⟩
  | cons name rest ih =>
    obtain ⟨hname, hnames⟩ := List.forall_mem_cons.1 h
    obtain ⟨loaded, hrest⟩ := ih hnames
    obtain ⟨unit, hunit⟩ := Roster.mem_names_iff_find?.1 hname
    refine ⟨⟨unit.name, unit, .dynamic⟩ :: loaded, ?_⟩
    simp [loadAll, Library.load, hunit, hrest]

theorem not_mem_of_mem_retiring {r : CompileRequest} {name : String} (h : name ∈ r.retiring) :
    name ∉ r.names := by
  simpa using (List.mem_filter.1 h).2

/-- Once all that a request asks for was produced, all of it loads. -/
theorem exists_loaded {r : CompileRequest} {produced : List CompiledUnit}
    (hproduced : ∀ name ∈ r.names, name ∈ produced.map CompiledUnit.name) (library : Library) (host : HostResolver) :
    ∃ loaded, loadAll (library.insertAll produced) host r.names = .ok loaded ∧
      loaded.map Named.name = r.names ∧ ∀ name ∈ r.retiring, name ∉ loaded.map Named.name := by
  obtain ⟨loaded, hload⟩ : ∃ loaded, loadAll (library.insertAll produced) host r.names = .ok loaded :=
    loadAll_of_mem fun name hname => Roster.mem_names_insertAll.2 (Or.inl (hproduced name hname))
  have hnames := names_of_loadAll hload
  refine ⟨loaded, hload, hnames, ?_⟩
  rw [hnames]
  exact fun name => not_mem_of_mem_retiring

/-! ### Installing -/

theorem find?_missing_eq_none {r : CompileRequest} {produced : List CompiledUnit} :
    (r.names.find? fun name => name ∉ produced.map CompiledUnit.name) = none ↔
      ∀ name ∈ r.names, name ∈ produced.map CompiledUnit.name := by
  simp [List.find?_eq_none]

theorem install_of_missing (s : Stores) {r : CompileRequest} {produced : List CompiledUnit}
    (h : ¬ ∀ name ∈ r.names, name ∈ produced.map CompiledUnit.name) (origin : Option String) :
    ∃ missing, s.install r produced origin = (.error (.loaderInconsistency missing), s) := by
  rw [← find?_missing_eq_none] at h
  obtain ⟨missing, hmissing⟩ := Option.ne_none_iff_exists'.1 h
  exact ⟨missing, by rw [install, hmissing]⟩

theorem install_cases {s s' : Stores} {r : CompileRequest} {produced : List CompiledUnit}
    {origin : Option String} {result : Except EngineError CompileOutcome}
    (h : s.install r produced origin = (result, s')) :
    (∃ error, result = .error error) ∧ s.Failed r s' ∨
      (∃ outcome, result = .ok outcome ∧ outcome.success = true ∧ outcome.diagnostics = []) ∧
        s.Installed r produced s' := by
  by_cases hproduced : ∀ name ∈ r.names, name ∈ produced.map CompiledUnit.name
  · obtain ⟨loaded, hload, hnames, hretiring⟩ := exists_loaded hproduced s.library s.host
    simp only [install, find?_missing_eq_none.2 hproduced, hload] at h
    split at h
    · next hinstall =>
      cases h
      refine Or.inl ⟨⟨_, rfl⟩, rfl, rfl, rfl, rfl, fun hnodup => ?_⟩
      rw [Registry.install_of_nodup (hnames ▸ hnodup) hretiring] at hinstall
      cases hinstall
    · next hinstall =>
      cases h
      obtain ⟨hnodup, hregistry⟩ := Registry.install_eq_ok hinstall
      refine Or.inr ⟨⟨_, rfl, rfl, rfl⟩, rfl, rfl, ?_, hproduced, hnames ▸ hnodup, rfl⟩
      exact ⟨loaded, hnames, dynamic_of_loadAll hload, hregistry⟩
  · obtain ⟨missing, hmissing⟩ := s.install_of_missing hproduced origin
    cases hmissing.symm.trans h
    exact Or.inl ⟨⟨_, rfl⟩, .refl s r⟩

/-! ### Passes -/

/-- What the caller learns from the compiler: nothing, if the call ended in an error. -/
def outputOf (call : CallEnd) : CompilerOutput :=
  match call.result with
  | .error _ => .empty
  | .ok output => output

/-- What the compiler tells a pass that calls it; a pass without units does not. -/
def compilerOutput {ω : Type} (scope : String) (invoke : Stores → CompilerCall → ω → CallEnd × ω)
    (r : CompileRequest) (s : Stores) (w : ω) : CompilerOutput :=
  if r.units.isEmpty then .empty else outputOf (invoke s ⟨r.units, s.library.listUnder scope⟩ w).1

/-- How a pass ends, given what the compiler told it. -/
inductive Ended (s : Stores) (r : CompileRequest) (output : CompilerOutput) :
    Except EngineError CompileOutcome → Stores → Prop where
  | nothing (h : r.isEmpty = true) : Ended s r output (.ok (.noop s.registry.generation)) s
  | error {s' : Stores} (error : EngineError) (h : s.Failed r s') : Ended s r output (.error error) s'
  | rejected {s' : Stores} (errors : errorTokens r.units output.diagnostics ≠ []) (h : s.Rejected r s') :
    Ended s r output
      (.ok ⟨false, errorTokens r.units output.diagnostics, [], [], s.registry.generation⟩) s'
  | installed {s' : Stores} {outcome : CompileOutcome} (succeeds : outcome.success = true)
      (h : s.Installed r output.units s') (clean : outcome.diagnostics = []) : Ended s r output (.ok outcome) s'

section

variable {s s' : Stores} {r : CompileRequest} {output : CompilerOutput}

theorem Ended.failed {error : EngineError} (h : s.Ended r output (.error error) s') : s.Failed r s' := by
  cases h with
  | error _ hfailed => exact hfailed

/-- A pass that fails tells of the errors that the compiler reported, located in what was compiled; there is one. -/
theorem Ended.diagnostics {outcome : CompileOutcome} (h : s.Ended r output (.ok outcome) s')
    (hfails : outcome.success = false) :
    outcome.diagnostics = errorTokens r.units output.diagnostics ∧ outcome.diagnostics ≠ [] := by
  cases h with
  | nothing => cases hfails
  | rejected herrors => exact ⟨rfl, herrors⟩
  | installed hsuccess => cases hsuccess.symm.trans hfails

/-- A pass tells of no other errors. -/
theorem Ended.mem_errorTokens {outcome : CompileOutcome} (h : s.Ended r output (.ok outcome) s') {token : Token}
    (htoken : token ∈ outcome.diagnostics) : token ∈ errorTokens r.units output.diagnostics := by
  cases h with
  | nothing => cases htoken
  | rejected => exact htoken
  | installed _ _ hclean =>
    rw [hclean] at htoken
    cases htoken

end

theorem ended_conclude (s : Stores) (r : CompileRequest) (origin : Option String) (call : CallEnd) :
    s.Ended r (outputOf call) (s.conclude r origin call).1 (s.conclude r origin call).2 := by
  unfold conclude outputOf
  rcases call.result with error | output <;> dsimp only
  · exact .error error (.refl s r)
  · split
    · split
      · exact .error _ (.refl s r)
      · rcases hinstall : s.install r output.units origin with ⟨result, s'⟩
        rcases install_cases hinstall with ⟨⟨error, rfl⟩, hfailed⟩ | ⟨⟨outcome, rfl, hsuccess, hclean⟩, hinstalled⟩
        · exact .error error hfailed
        · exact .installed hsuccess hinstalled hclean
    · next herrors => exact .rejected herrors rfl

/-- A pass ends in one of the four ways, and it leaves its world alone or calls the compiler once. -/
theorem compile_cases {ω : Type} {scope : String} {invoke : Stores → CompilerCall → ω → CallEnd × ω}
    {r : CompileRequest} {origin : Option String} {withdrawn : Bool} {s s' : Stores} {w w' : ω}
    {result : Except EngineError CompileOutcome}
    (h : compile scope invoke r origin withdrawn s w = (result, s', w')) :
    s.Ended r (compilerOutput scope invoke r s w) result s' ∧
      (w' = w ∨ ∃ call, w' = (invoke s call w).2) := by
  unfold compile at h
  unfold compilerOutput
  split_ifs at h with hempty hunits hwithdrawn
  · cases h
    exact ⟨.nothing hempty, Or.inl rfl⟩
  · simp only [Prod.mk.injEq] at h
    obtain ⟨rfl, rfl, rfl⟩ := h
    rw [if_pos hunits]
    exact ⟨ended_conclude s r origin ⟨.ok .empty, withdrawn⟩, Or.inl rfl⟩
  · cases h
    exact ⟨.error _ (.refl s r), Or.inl rfl⟩
  · simp only [Prod.mk.injEq] at h
    obtain ⟨rfl, rfl, rfl⟩ := h
    rw [if_neg hunits]
    exact ⟨ended_conclude s r origin _, Or.inr ⟨_, rfl⟩⟩

/-! ### What the sessions are told -/

/-- The pass published the next generation and told of it: which names it loaded, and which are gone. -/
structure Announced (s : Stores) (r : CompileRequest) (origin : Option String) (outcome : CompileOutcome)
    (s' : Stores) : Prop where
  success : outcome.success = true
  loaded : outcome.loaded = r.names
  retired : outcome.retired = s.registry.registered.filter (· ∉ s'.registry.registered)
  next : s'.registry.generation = s.registry.generation + 1
  generation : outcome.generation = s'.registry.generation
  hub : s'.hub = s.hub.publish ⟨true, s'.registry.generation, outcome.loaded ++ outcome.retired⟩ origin

/-- The pass published nothing and told nobody. -/
structure Silent (s s' : Stores) : Prop where
  registry : s'.registry = s.registry
  hub : s'.hub = s.hub

theorem announced_of_install {s s' : Stores} {r : CompileRequest} {produced : List CompiledUnit}
    {origin : Option String} {outcome : CompileOutcome} (h : s.install r produced origin = (.ok outcome, s')) :
    s.Announced r origin outcome s' := by
  unfold install at h
  split at h
  · cases h
  · dsimp only at h
    split at h
    · cases h
    · next loaded hload =>
      have hnames := names_of_loadAll hload
      have hretiring : ∀ name ∈ r.retiring, name ∉ loaded.map Named.name := by
        rw [hnames]
        exact fun name => not_mem_of_mem_retiring
      rcases hinstall : s.registry.install loaded r.retiring with ⟨error | report, registry⟩ <;>
        rw [hinstall] at h <;> cases h
      have hpublished := Registry.install_of_nodup (r := s.registry) (Registry.install_eq_ok hinstall).1 hretiring
      obtain ⟨hreport, rfl⟩ := Prod.mk.inj (hinstall.symm.trans hpublished)
      cases hreport
      refine ⟨rfl, rfl, ?_, rfl, rfl, rfl⟩
      refine List.filter_congr fun name hname => ?_
      -- What was registered is gone afterwards exactly if it was to be retired.
      have hgone : name ∉ (s.registry.publish loaded r.retiring).2.registered ↔ name ∈ r.retiring := by
        rw [Registry.mem_registered_publish]
        constructor
        · intro hnot
          by_contra hkept
          exact hnot (Or.inr ⟨hname, hkept⟩)
        · rintro hretired (hnew | ⟨-, hkept⟩)
          · exact hretiring name hretired hnew
          · exact hkept hretired
      exact decide_eq_decide.2 hgone.symm

theorem announced_of_conclude {s s' : Stores} {r : CompileRequest} {origin : Option String} {call : CallEnd}
    {outcome : CompileOutcome} (h : s.conclude r origin call = (.ok outcome, s')) (hsuccess : outcome.success = true) :
    s.Announced r origin outcome s' := by
  unfold conclude at h
  split at h
  · cases h
  · split at h
    · split at h
      · cases h
      · exact announced_of_install h
    · cases h
      cases hsuccess

/-- A pass tells the sessions exactly if it succeeds with something to do. -/
theorem compile_told {ω : Type} {scope : String} {invoke : Stores → CompilerCall → ω → CallEnd × ω}
    {r : CompileRequest} {origin : Option String} {withdrawn : Bool} {s s' : Stores} {w w' : ω}
    {result : Except EngineError CompileOutcome}
    (h : compile scope invoke r origin withdrawn s w = (result, s', w')) :
    s.Silent s' ∧ (r.isEmpty = true ∨ ∀ outcome, result = .ok outcome → outcome.success = false) ∨
      ∃ outcome, result = .ok outcome ∧ r.isEmpty = false ∧ s.Announced r origin outcome s' := by
  have hended := (compile_cases h).1
  unfold compile at h
  by_cases hempty : r.isEmpty = true
  · rw [if_pos hempty] at h
    cases h
    exact Or.inl ⟨⟨rfl, rfl⟩, Or.inl hempty⟩
  · rw [if_neg hempty] at h
    cases hended with
    | nothing hnothing => exact absurd hnothing hempty
    | error _ hfailed => exact Or.inl ⟨⟨hfailed.registry, hfailed.hub⟩, Or.inr (by simp)⟩
    | rejected _ hrejected =>
      subst hrejected
      exact Or.inl ⟨⟨rfl, rfl⟩, Or.inr (by rintro _ ⟨⟩; rfl)⟩
    | installed hsuccess _ =>
      refine Or.inr ⟨_, rfl, by simpa using hempty, ?_⟩
      split_ifs at h <;> simp only [Prod.mk.injEq, reduceCtorEq, false_and] at h
      all_goals
        obtain ⟨hresult, hstores, -⟩ := h
        exact announced_of_conclude (Prod.ext hresult hstores) hsuccess

/-- The generation that a pass tells of is the one of the registry that it leaves. -/
theorem generation_of_compile {ω : Type} {scope : String} {invoke : Stores → CompilerCall → ω → CallEnd × ω}
    {r : CompileRequest} {origin : Option String} {withdrawn : Bool} {s s' : Stores} {w w' : ω}
    {outcome : CompileOutcome} (h : compile scope invoke r origin withdrawn s w = (.ok outcome, s', w')) :
    outcome.generation = s'.registry.generation := by
  rcases compile_told h with ⟨hsilent, hempty | hfails⟩ | ⟨outcome', hok, -, hannounced⟩
  · rw [compile, if_pos hempty] at h
    cases h
    rfl
  · have hfails := hfails outcome rfl
    rw [hsilent.registry]
    cases (compile_cases h).1 with
    | nothing => rfl
    | rejected => rfl
    | installed hsuccess => cases hsuccess.symm.trans hfails
  · cases hok
    exact hannounced.generation

end Stores

end HotSchema
