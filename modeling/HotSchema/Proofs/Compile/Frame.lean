import HotSchema.Proofs.Compile.Pass
/-!
# What a pass leaves alone

A pass that succeeds replaces and retires the names of its request, in the registry and among the digests,
and no others. The library is different: it takes in all that was produced. So of a name that the pass was
not asked about the library has the last unit that was produced under it, and else the unit it had before;
and where nothing was produced the name resolves as before, through the loader and for use.

The registry is taken to be sound, as it is from its first generation on: an install indexes its table anew. What a
lookup finds is told of tables that fit their index, before the pass and after it.
-/

namespace HotSchema

namespace Stores

theorem instantiate_congr {s s' : Stores} {name : String}
    (hregistry : s'.registry.current.get? name = s.registry.current.get? name)
    (hlibrary : s'.library.find? name = s.library.find? name) (hhost : s'.host = s.host) :
    s'.instantiate name = s.instantiate name := by
  have hcontains : s'.library.contains name = s.library.contains name := by
    rw [← Roster.find?_isSome, ← Roster.find?_isSome, hlibrary]
  unfold instantiate Registry.get? Library.load
  rw [hregistry, hlibrary, hhost, hcontains]
  rcases s.registry.current.get? name with _ | t <;> rfl

def registered? (s : Stores) (name : String) : Option LoadedType :=
  s.registry.current.table.find? fun t => t.name == name

/-- What becomes of a name in a pass that was not asked about it, given what was produced. -/
structure Framed (s s' : Stores) (produced : List CompiledUnit) (name : String) : Prop where
  entry : s'.registered? name = s.registered? name
  registry : s.registry.current.Fits → s'.registry.current.Fits →
    s'.registry.current.get? name = s.registry.current.get? name
  digest : s'.staging.compiledDigest? name = s.staging.compiledDigest? name
  library : s'.library.find? name = (produced.reverse.find? (·.name == name)).or (s.library.find? name)
  host : s'.host = s.host

theorem Installed.framed {s s' : Stores} {r : CompileRequest} {produced : List CompiledUnit} {name : String}
    (h : s.Installed r produced s') (hsound : s.registry.Sound) (hunit : name ∉ r.names)
    (hremoved : name ∉ r.removed) : s.Framed s' produced name := by
  obtain ⟨loaded, hloaded, -, hregistry⟩ := h.registry
  have hretiring : name ∉ r.retiring := fun hmem => hremoved (List.mem_of_mem_filter hmem)
  have hnew : name ∉ loaded.map Named.name := by rwa [hloaded]
  have hentry : s'.registered? name = s.registered? name := by
    rw [registered?, hregistry]
    exact s.registry.find?_publish_of_not_mem hretiring hnew
  have hsound' : s'.registry.Sound := hregistry ▸ hsound.publish (hloaded ▸ h.nodup)
  refine ⟨hentry, fun hbefore hafter => ?_, ?_, ?_, h.host⟩
  · rw [hsound'.get?_eq hafter, hsound.get?_eq hbefore]
    exact hentry
  · rw [h.staging, Staging.compiledDigest?_forgetAll hretiring,
      Staging.compiledDigest?_markCompiled_of_not_mem hunit]
  · rw [h.library, Roster.find?_eraseAll_of_not_mem hretiring, Roster.find?_insertAll]
    rfl

theorem Framed.resolves {s s' : Stores} {produced : List CompiledUnit} {name : String}
    (h : s.Framed s' produced name) (hproduced : name ∉ produced.map CompiledUnit.name) :
    s'.library.load s'.host name = s.library.load s.host name ∧
      (s.registry.current.Fits → s'.registry.current.Fits → s'.instantiate name = s.instantiate name) := by
  have hnone : produced.reverse.find? (·.name == name) = none := by
    rw [List.find?_eq_none]
    intro unit hunit heq
    exact hproduced (List.mem_map.2 ⟨unit, List.mem_reverse.1 hunit, by simpa using heq⟩)
  have hlibrary : s'.library.find? name = s.library.find? name := by
    rw [h.library, hnone, Option.none_or]
  refine ⟨?_, fun hbefore hafter => instantiate_congr (h.registry hbefore hafter) hlibrary h.host⟩
  rw [Library.load, Library.load, hlibrary, h.host]

/-- After a pass that succeeds, a name that it was not asked about has its old entry in the registry and its
old digest; the library has the last unit produced under it, or the old one. If none was produced, the name
resolves as it did. -/
theorem compile_framed {ω : Type} {scope : String} {invoke : Stores → CompilerCall → ω → CallEnd × ω}
    {r : CompileRequest} {origin : Option String} {withdrawn : Bool} {s s' : Stores} {w w' : ω}
    {outcome : CompileOutcome} (hsound : s.registry.Sound)
    (hcompile : compile scope invoke r origin withdrawn s w = (.ok outcome, s', w'))
    (hsuccess : outcome.success = true) {name : String} (hunit : name ∉ r.names) (hremoved : name ∉ r.removed) :
    let produced := (compilerOutput scope invoke r s w).units
    s.Framed s' produced name ∧
      (name ∉ produced.map CompiledUnit.name →
        s'.library.load s'.host name = s.library.load s.host name ∧
          (s.registry.current.Fits → s'.registry.current.Fits → s'.instantiate name = s.instantiate name)) := by
  intro produced
  have hframed : s.Framed s' produced name := by
    rcases (compile_cases hcompile).1 with hempty | _ | _ | ⟨-, hinstalled⟩
    · have hnothing : produced = [] := by
        have hunits : r.units.isEmpty = true := by
          simp only [CompileRequest.isEmpty, Bool.and_eq_true] at hempty
          exact hempty.1
        show (compilerOutput scope invoke r s w).units = []
        rw [compilerOutput, if_pos hunits]
        rfl
      rw [hnothing]
      exact ⟨rfl, fun _ _ => rfl, rfl, rfl, rfl⟩
    · cases hsuccess
    · exact hinstalled.framed hsound hunit hremoved
  exact ⟨hframed, hframed.resolves⟩

/-! ### Siblings that are compiled along -/

/-- A compiler that makes the same units whatever it is given. -/
def producing (units : List CompiledUnit) : Stores → CompilerCall → Unit → CallEnd × Unit :=
  fun _ _ _ => (⟨.ok ⟨[], units⟩, false⟩, ())

def requestFor (name : String) : CompileRequest := ⟨[⟨name, "type", [.anonymous 1]⟩], []⟩

/-- Stores with one type, of which loader and registry have the same payload. -/
def withSibling : Stores :=
  (compile "app" (producing [⟨"app.B", ⟨#[1]⟩⟩]) (requestFor "app.B") none false (.new none) ()).2.1

theorem sibling_kept :
    ∃ outcome s', compile "app" (producing [⟨"app.A", ⟨#[2]⟩⟩]) (requestFor "app.A") none false withSibling () =
        (.ok outcome, s', ()) ∧ outcome.success = true ∧
      s'.instantiate "app.B" = withSibling.instantiate "app.B" ∧
      withSibling.registry.registered = ["app.B"] := by
  have hcompile : compile "app" (producing [⟨"app.A", ⟨#[2]⟩⟩]) (requestFor "app.A") none false withSibling () =
    (.ok ⟨true, [], ["app.A"], [], 2⟩, _, ()) := rfl
  have hsound : withSibling.registry.Sound := ⟨by decide, rfl⟩
  have hunit : "app.B" ∉ (requestFor "app.A").names := by decide
  have hframed := compile_framed hsound hcompile rfl hunit (by decide)
  exact ⟨_, _, hcompile, rfl, (hframed.2 (by decide)).2 (by decide) (by decide), rfl⟩

/-- A compiler that makes the sibling anew, with another payload, puts that into the library, while the
registry keeps the one it had. -/
theorem sibling_superseded :
    ∃ outcome s', compile "app" (producing [⟨"app.A", ⟨#[2]⟩⟩, ⟨"app.B", ⟨#[3]⟩⟩]) (requestFor "app.A") none false
        withSibling () = (.ok outcome, s', ()) ∧ outcome.success = true ∧
      "app.B" ∉ (requestFor "app.A").names ∧ "app.B" ∉ (requestFor "app.A").removed ∧
      (withSibling.library.load withSibling.host "app.B").map LoadedType.unit =
        (withSibling.registry.current.get? "app.B").map LoadedType.unit ∧
      s'.library.find? "app.B" ≠ withSibling.library.find? "app.B" ∧
      (s'.library.load s'.host "app.B").map LoadedType.unit ≠
        (s'.registry.current.get? "app.B").map LoadedType.unit := by
  refine ⟨⟨true, [], ["app.A"], [], 2⟩, _, rfl, rfl, by decide, by decide, rfl, ?_, ?_⟩
  · decide
  · decide

end Stores

end HotSchema
