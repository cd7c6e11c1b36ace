import HotSchema.Proofs.Compile.Pass
/-!
# What a pass that ends in an error leaves behind

A pass that ends in an error leaves the registry, the staging and the sessions as they were. The library takes
in what was produced before the registry looks at the batch, and the registry refuses a batch that names a
type twice. So all is as it was exactly if the request names every type once, or the pass did not come to
install anything, or the library had all that was produced before.
-/

namespace HotSchema

namespace Stores

/-- A call that a pass installs from: the caller stayed, and every type that was asked for was produced. -/
structure Delivered (r : CompileRequest) (call : CallEnd) : Prop where
  stayed : call.withdrawn = false
  produced : ∀ name ∈ r.names, name ∈ (outputOf call).units.map CompiledUnit.name

theorem Failed.eq_of_nodup {s s' : Stores} {r : CompileRequest} (h : s.Failed r s') (hnodup : r.names.Nodup) :
    s' = s := by
  obtain ⟨hstaging, hregistry, hhub, hhost, hlibrary⟩ := h
  have hlibrary := hlibrary hnodup
  cases s
  cases s'
  simp_all

/-! ### Installing -/

/-- A request with a name twice is refused by the registry, when the library has its units already. -/
theorem install_of_repeated (s : Stores) {r : CompileRequest} {produced : List CompiledUnit}
    (hproduced : ∀ name ∈ r.names, name ∈ produced.map CompiledUnit.name) (hrepeated : ¬ r.names.Nodup)
    (origin : Option String) :
    ∃ name, s.install r produced origin =
      (.error (.registry (.duplicateInBatch s.registry.label name)),
        { s with library := s.library.insertAll produced }) := by
  obtain ⟨loaded, hload, hnames, -⟩ := exists_loaded hproduced s.library s.host
  obtain ⟨name, hinstall⟩ := Registry.install_of_repeated (r := s.registry) r.retiring (hnames ▸ hrepeated)
  refine ⟨name, ?_⟩
  unfold install
  simp only [find?_missing_eq_none.2 hproduced, hload, hinstall]

theorem install_error_cases {s s' : Stores} {r : CompileRequest} {produced : List CompiledUnit}
    {origin : Option String} {error : EngineError} (h : s.install r produced origin = (.error error, s')) :
    (r.names.Nodup ∨ ¬ ∀ name ∈ r.names, name ∈ produced.map CompiledUnit.name) ∧ s' = s ∨
      (¬ r.names.Nodup ∧ ∀ name ∈ r.names, name ∈ produced.map CompiledUnit.name) ∧
        s' = { s with library := s.library.insertAll produced } := by
  by_cases hnodup : r.names.Nodup
  · rcases install_cases h with ⟨-, hfailed⟩ | ⟨⟨outcome, hok, -⟩, -⟩
    · exact Or.inl ⟨Or.inl hnodup, hfailed.eq_of_nodup hnodup⟩
    · cases hok
  · by_cases hproduced : ∀ name ∈ r.names, name ∈ produced.map CompiledUnit.name
    · obtain ⟨name, hinstall⟩ := s.install_of_repeated hproduced hnodup origin
      rw [hinstall] at h
      cases h
      exact Or.inr ⟨⟨hnodup, hproduced⟩, rfl⟩
    · obtain ⟨missing, hinstall⟩ := s.install_of_missing hproduced origin
      rw [hinstall] at h
      cases h
      exact Or.inl ⟨Or.inr hproduced, rfl⟩

/-! ### Passes -/

theorem not_delivered_of_error {r : CompileRequest} {call : CallEnd} {error : EngineError}
    (hresult : call.result = .error error) : r.names.Nodup ∨ ¬ Delivered r call := by
  rcases hnames : r.names with _ | ⟨name, rest⟩
  · exact Or.inl List.nodup_nil
  · refine Or.inr fun hdelivered => ?_
    have hproduced := hdelivered.produced name (by simp [hnames])
    simp [outputOf, hresult, CompilerOutput.empty] at hproduced

theorem conclude_error_cases {s s' : Stores} {r : CompileRequest} {origin : Option String} {call : CallEnd}
    {error : EngineError} (h : s.conclude r origin call = (.error error, s')) :
    (r.names.Nodup ∨ ¬ Delivered r call) ∧ s' = s ∨
      (¬ r.names.Nodup ∧ Delivered r call) ∧
        s' = { s with library := s.library.insertAll (outputOf call).units } := by
  unfold conclude at h
  split at h
  · next hresult =>
    cases h
    exact Or.inl ⟨not_delivered_of_error hresult, rfl⟩
  · next output hresult =>
    have houtput : outputOf call = output := by rw [outputOf, hresult]
    split at h
    · split at h
      · next hwithdrawn =>
        cases h
        exact Or.inl ⟨Or.inr fun hdelivered => by simp [hdelivered.stayed] at hwithdrawn, rfl⟩
      · next hstayed =>
        have hstayed : call.withdrawn = false := by simpa using hstayed
        rw [houtput]
        rcases install_error_cases h with ⟨hkept, hsame⟩ | ⟨⟨hrepeated, hproduced⟩, hput⟩
        · exact Or.inl ⟨hkept.imp_right fun hmissing hdelivered => hmissing (houtput ▸ hdelivered.produced), hsame⟩
        · exact Or.inr ⟨⟨hrepeated, hstayed, houtput ▸ hproduced⟩, hput⟩
    · cases h

theorem compile_error_cases {ω : Type} {scope : String} {invoke : Stores → CompilerCall → ω → CallEnd × ω}
    {r : CompileRequest} {origin : Option String} {withdrawn : Bool} {s s' : Stores} {w w' : ω}
    {error : EngineError} (h : compile scope invoke r origin withdrawn s w = (.error error, s', w')) :
    let call := (invoke s ⟨r.units, s.library.listUnder scope⟩ w).1
    (r.names.Nodup ∨ withdrawn = true ∨ ¬ Delivered r call) ∧ s' = s ∨
      (¬ r.names.Nodup ∧ withdrawn = false ∧ Delivered r call) ∧
        s' = { s with library := s.library.insertAll (outputOf call).units } := by
  intro call
  unfold compile at h
  split_ifs at h with hempty hunits hwithdrawn
  · cases h
  · have hnodup : r.names.Nodup := by simp [CompileRequest.names, List.isEmpty_iff.1 hunits]
    simp only [Prod.mk.injEq] at h
    obtain ⟨hresult, hstores, -⟩ := h
    rcases conclude_error_cases (Prod.ext hresult hstores) with ⟨-, hsame⟩ | ⟨⟨hrepeated, -⟩, -⟩
    · exact Or.inl ⟨Or.inl hnodup, hsame⟩
    · exact absurd hnodup hrepeated
  · cases h
    exact Or.inl ⟨Or.inr (Or.inl hwithdrawn), rfl⟩
  · simp only [Prod.mk.injEq] at h
    obtain ⟨hresult, hstores, -⟩ := h
    rcases conclude_error_cases (Prod.ext hresult hstores) with ⟨hkept, hsame⟩ | ⟨⟨hrepeated, hdelivered⟩, hput⟩
    · exact Or.inl ⟨hkept.imp_right Or.inr, hsame⟩
    · exact Or.inr ⟨⟨hrepeated, by simpa using hwithdrawn, hdelivered⟩, hput⟩

/-- A pass that ends in an error leaves the registry, the staging and the listeners as they were, and it leaves
everything as it was exactly if the request names each type once, the pass stopped before installing, or the
library already had what was produced. -/
theorem error_leaves_stores_iff {ω : Type} {scope : String} {invoke : Stores → CompilerCall → ω → CallEnd × ω}
    {r : CompileRequest} {origin : Option String} {withdrawn : Bool} {s s' : Stores} {w w' : ω}
    {error : EngineError} (h : compile scope invoke r origin withdrawn s w = (.error error, s', w')) :
    let call := (invoke s ⟨r.units, s.library.listUnder scope⟩ w).1
    s'.registry = s.registry ∧ s'.staging = s.staging ∧ s'.hub = s.hub ∧ s'.host = s.host ∧
      (s' = s ↔ r.names.Nodup ∨ withdrawn = true ∨ ¬ Delivered r call ∨
        s.library.insertAll (outputOf call).units = s.library) := by
  intro call
  rcases compile_error_cases h with ⟨hkept, rfl⟩ | ⟨⟨hrepeated, hasked, hdelivered⟩, rfl⟩
  · refine ⟨rfl, rfl, rfl, rfl, iff_of_true rfl ?_⟩
    exact hkept.imp_right (Or.imp_right Or.inl)
  · refine ⟨rfl, rfl, rfl, rfl, ?_⟩
    constructor
    · intro hsame
      exact Or.inr (Or.inr (Or.inr (congrArg Stores.library hsame)))
    · rintro (hnodup | hwithdrawn | hmissing | hhad)
      · exact absurd hnodup hrepeated
      · rw [hasked] at hwithdrawn
        cases hwithdrawn
      · exact absurd hdelivered hmissing
      · show ({ s with library := s.library.insertAll (outputOf call).units } : Stores) = s
        rw [hhad]

/-! ### A type that is asked for twice -/

/-- A compiler that makes every unit into its text, unless it gives out. -/
def echoing (works : Bool) : Stores → CompilerCall → Unit → CallEnd × Unit :=
  fun _ call _ => (⟨if works then .ok ⟨[], echoUnits call.batch⟩ else .error (.toolchainTimeout 5), false⟩, ())

def askedTwice : CompileRequest :=
  ⟨[⟨"app.A", "type A", [.anonymous 1]⟩, ⟨"app.A", "type A", [.anonymous 1]⟩], []⟩

/-- When the compiler gives out, the request does not matter. -/
theorem stores_left_by_timeout :
    ∃ error s', compile "app" (echoing false) askedTwice none false (.new none) () = (.error error, s', ()) ∧
      ¬ askedTwice.names.Nodup ∧ s' = .new none := by
  have hcompile : compile "app" (echoing false) askedTwice none false (.new none) () =
    (.error (.toolchainTimeout 5), .new none, ()) := rfl
  have hmissing : ¬ Delivered askedTwice (echoing false (.new none) ⟨askedTwice.units, []⟩ ()).1 := by
    intro hdelivered
    have hproduced := hdelivered.produced "app.A" (by decide)
    cases hproduced
  exact ⟨_, _, hcompile, by decide, (error_leaves_stores_iff hcompile).2.2.2.2.2 (Or.inr (Or.inr (Or.inl hmissing)))⟩

theorem unit_left_by_refused_request :
    ∃ error s', compile "app" (echoing true) askedTwice none false (.new none) () = (.error error, s', ()) ∧
      s'.library.contains "app.A" = true ∧ (Stores.new none).library.contains "app.A" = false :=
  ⟨.registry (.duplicateInBatch "types" "app.A"), _, rfl, rfl, rfl⟩

end Stores

end HotSchema
