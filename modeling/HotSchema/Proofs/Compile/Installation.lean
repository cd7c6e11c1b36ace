import HotSchema.Proofs.Compile.Pass
/-!
# When a pass installs, and what

A pass publishes a generation exactly if nothing stands in its way: the caller stays until the compiler returns, the
compiler answers within its budget and reports no error, and every type that was asked for was produced. A pass that
only retires types calls no compiler, and needs the caller to stay. The generation that is published is the old one
with the types that were asked for in the place of their old definitions, each with what was last produced under its
name, and without the types that were removed and not asked for. Of these no trace is left in the other stores, while
the digests of what was asked for are recorded.
-/

namespace HotSchema

/-- The compiler answers before the budget is used up, or when it just is. -/
def Response.InTime (r : Response) (budget : Nat) : Prop :=
  match r.duration with
  | .immediate => True
  | .seconds n => n ≤ budget
  | .endless => False

/-- A caller who stays gets what the compiler answers in time. -/
theorem Response.settle_eq_ok_iff {r : Response} {budget : Nat} {output : CompilerOutput} :
    r.settle budget false = .ok output ↔ r.InTime budget ∧ r.result = .ok output := by
  unfold settle InTime
  rcases r.duration with _ | n | _
  · simp
  · rcases n with _ | n
    · simp
    · by_cases h : n + 1 ≤ budget <;> simp [h]
  · simp

namespace Stores

/-! ### Loading what was produced -/

def lastProduced (produced : List CompiledUnit) (name : String) : Option CompiledUnit :=
  produced.reverse.find? (·.name == name)

/-- The type that a name is loaded as, once some units are in the library. -/
def loadedFrom (produced : List CompiledUnit) (name : String) : Option LoadedType :=
  (lastProduced produced name).map fun unit => ⟨name, unit, .dynamic⟩

theorem exists_lastProduced {produced : List CompiledUnit} {name : String}
    (h : name ∈ produced.map CompiledUnit.name) :
    ∃ unit ∈ produced, unit.name = name ∧ lastProduced produced name = some unit := by
  obtain ⟨made, hmade, hname⟩ := List.mem_map.1 h
  have hsome : (lastProduced produced name).isSome = true := by
    rw [lastProduced, List.find?_isSome]
    exact ⟨made, List.mem_reverse.2 hmade, by simpa using hname⟩
  obtain ⟨unit, hunit⟩ := Option.isSome_iff_exists.1 hsome
  exact ⟨unit, List.mem_reverse.1 (List.mem_of_find?_eq_some hunit), by simpa using List.find?_some hunit, hunit⟩

theorem load_insertAll {produced : List CompiledUnit} {name : String} {unit : CompiledUnit}
    (h : lastProduced produced name = some unit) (library : Library) (host : HostResolver) :
    Library.load (library.insertAll produced) host name = some ⟨name, unit, .dynamic⟩ := by
  have hname : unit.name = name := by simpa using List.find?_some h
  have hfind : (library.insertAll produced).find? name = some unit := by
    rw [Roster.find?_insertAll]
    exact congrArg (Option.or · _) h
  rw [Library.load, hfind, ← hname]

/-- What is loaded of some names that were all produced. -/
theorem loadAll_insertAll {produced : List CompiledUnit} {names : List String}
    (h : ∀ name ∈ names, name ∈ produced.map CompiledUnit.name) (library : Library) (host : HostResolver) :
    loadAll (library.insertAll produced) host names = .ok (names.filterMap (loadedFrom produced)) := by
  induction names with
  | nil => rfl
  | cons name rest ih =>
    obtain ⟨hname, hrest⟩ := List.forall_mem_cons.1 h
    obtain ⟨unit, -, -, hunit⟩ := exists_lastProduced hname
    have hloaded : loadedFrom produced name = some ⟨name, unit, .dynamic⟩ := by rw [loadedFrom, hunit, Option.map_some]
    rw [loadAll, load_insertAll hunit, List.filterMap_cons_some hloaded, ih hrest]
    rfl

theorem names_filterMap_loadedFrom {produced : List CompiledUnit} {names : List String}
    (h : ∀ name ∈ names, name ∈ produced.map CompiledUnit.name) :
    (names.filterMap (loadedFrom produced)).map Named.name = names :=
  names_of_loadAll (loadAll_insertAll h ∅ ⟨fun _ => none⟩)

theorem install_of_produced (s : Stores) {r : CompileRequest} {produced : List CompiledUnit}
    (hproduced : ∀ name ∈ r.names, name ∈ produced.map CompiledUnit.name) (hnodup : r.names.Nodup)
    (origin : Option String) :
    (s.install r produced origin).2 =
      { s with
        registry := (s.registry.publish (r.names.filterMap (loadedFrom produced)) r.retiring).2
        library := (s.library.insertAll produced).eraseAll r.retiring
        staging := (s.staging.markCompiled r.units).forgetAll r.retiring
        hub := (s.install r produced origin).2.hub } := by
  have hload := loadAll_insertAll hproduced s.library s.host
  have hnames := names_filterMap_loadedFrom hproduced
  have hretiring : ∀ name ∈ r.retiring, name ∉ (r.names.filterMap (loadedFrom produced)).map Named.name := by
    rw [hnames]
    exact fun name => not_mem_of_mem_retiring
  simp only [install, find?_missing_eq_none.2 hproduced, hload,
    Registry.install_of_nodup (hnames.symm ▸ hnodup) hretiring]
  rfl

/-! ### What an install leaves -/

/-- The stores after a pass that installed some of what was produced: the next generation of the registry, and the
other stores in agreement with it. -/
structure Replaced (s : Stores) (r : CompileRequest) (produced : List CompiledUnit) (s' : Stores) : Prop where
  generation : s'.registry.generation = s.registry.generation + 1
  table : s'.registry.current.table =
    (s.registry.current.table.filter fun t => t.name ∉ r.names ∧ t.name ∉ r.removed) ++
      r.names.filterMap (loadedFrom produced)
  indexed : s'.registry.current = Snapshot.ofTable s'.registry.current.table s'.registry.generation
  /-- What is found in the new generation, if the old one was sound and both fit their index. -/
  found : s.registry.Sound → s.registry.current.Fits → s'.registry.current.Fits → ∀ name, s'.registry.current.get? name =
    if name ∈ r.names then loadedFrom produced name
    else if name ∈ r.removed then none
    else s.registry.current.get? name
  produced : ∀ name ∈ r.names, ∃ unit ∈ produced, unit.name = name ∧ lastProduced produced name = some unit
  gone : ∀ name ∈ r.removed, name ∉ r.names →
    s'.library.find? name = none ∧ s'.staging.staged.find? name = none ∧ name ∉ s'.staging.removed.names ∧
      s'.staging.compiledDigest? name = none
  digests : ∀ unit ∈ r.units, s'.staging.compiledDigest? unit.name = some unit.digest
  fullRebuild : s'.staging.fullRebuild = false

theorem mem_retiring_iff {r : CompileRequest} {name : String} :
    name ∈ r.retiring ↔ name ∈ r.removed ∧ name ∉ r.names := by
  simp [CompileRequest.retiring]

theorem get?_published {registry : Registry LoadedType} (hsound : registry.Sound) {r : CompileRequest}
    {produced : List CompiledUnit} (hproduced : ∀ name ∈ r.names, name ∈ produced.map CompiledUnit.name)
    (hnodup : r.names.Nodup) (hbefore : registry.current.Fits)
    (hafter : (registry.publish (r.names.filterMap (loadedFrom produced)) r.retiring).2.current.Fits) (name : String) :
    (registry.publish (r.names.filterMap (loadedFrom produced)) r.retiring).2.current.get? name =
      if name ∈ r.names then loadedFrom produced name
      else if name ∈ r.removed then none
      else registry.current.get? name := by
  have hnames := names_filterMap_loadedFrom hproduced
  have hbatch : ((r.names.filterMap (loadedFrom produced)).map Named.name).Nodup := hnames.symm ▸ hnodup
  have hpublished : (registry.publish (r.names.filterMap (loadedFrom produced)) r.retiring).2.Sound :=
    hsound.publish hbatch
  split_ifs with hasked hremoved
  · obtain ⟨unit, -, -, hunit⟩ := exists_lastProduced (hproduced name hasked)
    have hloaded : loadedFrom produced name = some ⟨name, unit, .dynamic⟩ := by rw [loadedFrom, hunit, Option.map_some]
    have hmem : ⟨name, unit, .dynamic⟩ ∈
        (registry.publish (r.names.filterMap (loadedFrom produced)) r.retiring).2.current.table :=
      List.mem_append_right _ (List.mem_filterMap.2 ⟨name, hasked, hloaded⟩)
    rw [hpublished.get?_eq hafter, hloaded]
    exact find?_key_of_mem hpublished.nodup hmem
  · rw [hpublished.get?_eq hafter, List.find?_eq_none]
    intro t ht heq
    have hregistered : name ∈ (registry.publish (r.names.filterMap (loadedFrom produced)) r.retiring).2.registered :=
      List.mem_map.2 ⟨t, ht, beq_iff_eq.1 heq⟩
    rw [Registry.mem_registered_publish, hnames] at hregistered
    rcases hregistered with hnew | ⟨-, hkept⟩
    · exact hasked hnew
    · exact hkept (mem_retiring_iff.2 ⟨hremoved, hasked⟩)
  · rw [hpublished.get?_eq hafter, hsound.get?_eq hbefore]
    refine registry.find?_publish_of_not_mem (fun hmem => hremoved (mem_retiring_iff.1 hmem).1) ?_
    rwa [hnames]

theorem replaced_install (s : Stores) {r : CompileRequest} {produced : List CompiledUnit}
    (hproduced : ∀ name ∈ r.names, name ∈ produced.map CompiledUnit.name) (hnodup : r.names.Nodup)
    (origin : Option String) : s.Replaced r produced (s.install r produced origin).2 := by
  rw [s.install_of_produced hproduced hnodup origin]
  refine
    { generation := rfl
      table := ?_
      indexed := rfl
      found := fun hsound hbefore hafter => get?_published hsound hproduced hnodup hbefore hafter
      produced := fun name hname => exists_lastProduced (hproduced name hname)
      gone := fun name hremoved hasked => ?_
      digests := fun unit hunit => ?_
      fullRebuild := by rw [Staging.forgetAll_eq]; rfl }
  · show s.registry.current.table.filter _ ++ _ = _
    refine congrArg (· ++ _) (List.filter_congr fun t _ => ?_)
    rw [Bool.eq_iff_iff, names_filterMap_loadedFrom hproduced]
    simp only [Bool.and_eq_true, decide_eq_true_eq, mem_retiring_iff]
    show ¬(t.name ∈ r.removed ∧ t.name ∉ r.names) ∧ t.name ∉ r.names ↔ _
    tauto
  · have hretiring : name ∈ r.retiring := mem_retiring_iff.2 ⟨hremoved, hasked⟩
    rw [Staging.forgetAll_eq]
    refine ⟨Roster.find?_eraseAll_of_mem hretiring, Roster.find?_eraseAll_of_mem hretiring, ?_, ?_⟩
    · exact fun hmem => (Roster.mem_names_eraseAll.1 hmem).1 hretiring
    · exact congrArg (Option.map Stamp.digest) (Roster.find?_eraseAll_of_mem hretiring)
  · have hkept : unit.name ∉ r.retiring := fun hmem => not_mem_of_mem_retiring hmem (List.mem_map_of_mem hunit)
    rw [Staging.compiledDigest?_forgetAll hkept]
    exact Staging.compiledDigest?_markCompiled hnodup hunit

/-! ### Passes -/

/-- What lets a pass install, and the units that it installs from: the caller withdrew neither before the pass nor
during the call, if there was one, and the call came to its end in time, without an error and with all that was asked
for. -/
inductive Cleared (r : CompileRequest) (budget : Nat) (withdrawn : Bool) (response : Response) (left : Bool) :
    List CompiledUnit → Prop where
  | retiring (hunits : r.units = []) (hwithdrawn : withdrawn = false) : Cleared r budget withdrawn response left []
  | delivered {output : CompilerOutput} (hunits : r.units ≠ []) (hwithdrawn : withdrawn = false)
    (hleft : left = false) (intime : response.InTime budget) (answered : response.result = .ok output)
    (clean : ∀ d ∈ output.diagnostics, d.severity ≠ .error)
    (produced : ∀ name ∈ r.names, ∃ unit ∈ output.units, unit.name = name) :
    Cleared r budget withdrawn response left output.units

theorem errorTokens_eq_nil_iff {batch : List SourceUnit} {diagnostics : List Diagnostic} :
    errorTokens batch diagnostics = [] ↔ ∀ d ∈ diagnostics, d.severity ≠ .error := by
  simp [errorTokens, List.filter_eq_nil_iff, Diagnostic.isError]

theorem conclude_of_clean (s : Stores) {r : CompileRequest} (origin : Option String) {call : CallEnd}
    {output : CompilerOutput} (hresult : call.result = .ok output) (hstayed : call.withdrawn = false)
    (hclean : ∀ d ∈ output.diagnostics, d.severity ≠ .error) :
    s.conclude r origin call = s.install r output.units origin := by
  unfold conclude
  rw [hresult]
  dsimp only
  rw [errorTokens_eq_nil_iff.2 hclean, hstayed]
  rfl

/-- A pass that succeeds after a call was told of no error, and found all that was asked for. -/
theorem clean_of_conclude {s s' : Stores} {r : CompileRequest} {origin : Option String} {call : CallEnd}
    {outcome : CompileOutcome} (h : s.conclude r origin call = (.ok outcome, s')) (hsuccess : outcome.success = true) :
    ∃ output, call.result = .ok output ∧ call.withdrawn = false ∧
      (∀ d ∈ output.diagnostics, d.severity ≠ .error) ∧
      ∀ name ∈ r.names, name ∈ output.units.map CompiledUnit.name := by
  unfold conclude at h
  split at h
  · cases h
  · next output hresult =>
    split at h
    · next hclean =>
      split at h
      · cases h
      · next hstayed =>
        refine ⟨output, hresult, by simpa using hstayed, errorTokens_eq_nil_iff.1 hclean, ?_⟩
        by_contra hmissing
        obtain ⟨missing, hinstall⟩ := s.install_of_missing hmissing origin
        cases hinstall.symm.trans h
    · cases h
      cases hsuccess

/-- What a pass goes on with. A pass without units makes no call, and neither does one that was withdrawn from. -/
def callEnd (r : CompileRequest) (budget : Nat) (withdrawn : Bool) (response : Response) (left : Bool) : CallEnd :=
  if r.units = [] then ⟨.ok .empty, withdrawn⟩
  else if withdrawn then ⟨.error .cancelled, true⟩
  else ⟨response.settle budget left, left⟩

theorem cleared_iff {r : CompileRequest} {budget : Nat} {withdrawn : Bool} {response : Response} {left : Bool}
    {produced : List CompiledUnit} :
    Cleared r budget withdrawn response left produced ↔
      ∃ output, (callEnd r budget withdrawn response left).result = .ok output ∧
        (callEnd r budget withdrawn response left).withdrawn = false ∧
        (∀ d ∈ output.diagnostics, d.severity ≠ .error) ∧
        (∀ name ∈ r.names, name ∈ output.units.map CompiledUnit.name) ∧ output.units = produced := by
  unfold callEnd
  constructor
  · rintro (⟨hunits, rfl⟩ | ⟨hunits, rfl, rfl, hintime, hanswered, hclean, hproduced⟩)
    · rw [if_pos hunits]
      exact ⟨.empty, rfl, rfl, by simp [CompilerOutput.empty], by simp [CompileRequest.names, hunits], rfl⟩
    · rw [if_neg hunits, if_neg Bool.false_ne_true]
      refine ⟨_, Response.settle_eq_ok_iff.2 ⟨hintime, hanswered⟩, rfl, hclean, fun name hname => ?_, rfl⟩
      exact List.mem_map.2 (hproduced name hname)
  · rintro ⟨output, hresult, hstayed, hclean, hproduced, rfl⟩
    by_cases hunits : r.units = []
    · rw [if_pos hunits] at hresult hstayed
      cases hresult
      exact .retiring hunits hstayed
    · rw [if_neg hunits] at hresult hstayed
      cases withdrawn with
      | true => cases hresult
      | false =>
        obtain rfl : left = false := hstayed
        obtain ⟨hintime, hanswered⟩ := Response.settle_eq_ok_iff.1 hresult
        exact .delivered hunits rfl rfl hintime hanswered hclean fun name hname => List.mem_map.1 (hproduced name hname)

section

variable {ω : Type} {scope : String} {invoke : Stores → CompilerCall → ω → CallEnd × ω} {r : CompileRequest}
  {origin : Option String} {withdrawn : Bool} {s : Stores} {w : ω} {budget : Nat} {response : Response} {left : Bool}

theorem compile_concludes (origin : Option String) (withdrawn : Bool) (hrequest : r.isEmpty = false)
    (hcall : r.units ≠ [] →
      (invoke s ⟨r.units, s.library.listUnder scope⟩ w).1 = ⟨response.settle budget left, left⟩) :
    (compile scope invoke r origin withdrawn s w).1 =
        (s.conclude r origin (callEnd r budget withdrawn response left)).1 ∧
      (compile scope invoke r origin withdrawn s w).2.1 =
        (s.conclude r origin (callEnd r budget withdrawn response left)).2 := by
  unfold compile callEnd
  rw [if_neg (by simp [hrequest])]
  by_cases hunits : r.units = []
  · rw [if_pos (by simp [hunits]), if_pos hunits]
    exact ⟨rfl, rfl⟩
  · rw [if_neg (by simpa using hunits), if_neg hunits]
    cases withdrawn with
    | true => exact ⟨rfl, rfl⟩
    | false =>
      rw [if_neg Bool.false_ne_true, if_neg Bool.false_ne_true, ← hcall hunits]
      exact ⟨rfl, rfl⟩

/-- A pass publishes a generation exactly if it is cleared to; then it replaces and drops what it was asked to, and
else it leaves the registry as it was. -/
theorem publishes_iff_cleared (hrequest : r.isEmpty = false) (hnodup : r.names.Nodup)
    (hcall : r.units ≠ [] →
      (invoke s ⟨r.units, s.library.listUnder scope⟩ w).1 = ⟨response.settle budget left, left⟩) :
    let s' := (compile scope invoke r origin withdrawn s w).2.1
    (s'.registry.generation = s.registry.generation + 1 ↔ ∃ produced, Cleared r budget withdrawn response left produced) ∧
      (∀ produced, Cleared r budget withdrawn response left produced → s.Replaced r produced s') ∧
      ((¬ ∃ produced, Cleared r budget withdrawn response left produced) → s'.registry = s.registry) := by
  intro s'
  have hconcludes := compile_concludes origin withdrawn hrequest hcall
  have hreplaced (produced : List CompiledUnit) (hcleared : Cleared r budget withdrawn response left produced) :
      s.Replaced r produced s' := by
    obtain ⟨output, hresult, hstayed, hclean, hproduced, rfl⟩ := cleared_iff.1 hcleared
    show s.Replaced r output.units (compile scope invoke r origin withdrawn s w).2.1
    rw [hconcludes.2, s.conclude_of_clean origin hresult hstayed hclean]
    exact s.replaced_install hproduced hnodup origin
  -- A pass that tells of a new generation succeeded, and so it was cleared to.
  have hended : s'.registry = s.registry ∨ ∃ produced, Cleared r budget withdrawn response left produced := by
    have hcompile : compile scope invoke r origin withdrawn s w =
        ((compile scope invoke r origin withdrawn s w).1, s', (compile scope invoke r origin withdrawn s w).2.2) := rfl
    rcases compile_told hcompile with ⟨hsilent, -⟩ | ⟨outcome, hok, -, hannounced⟩
    · exact Or.inl hsilent.registry
    · rw [hconcludes.1] at hok
      obtain ⟨output, hresult, hstayed, hclean, hproduced⟩ := clean_of_conclude (Prod.ext hok rfl) hannounced.success
      exact Or.inr ⟨_, cleared_iff.2 ⟨output, hresult, hstayed, hclean, hproduced, rfl⟩⟩
  refine ⟨⟨fun hnext => ?_, ?_⟩, hreplaced, fun hnot => hended.resolve_right hnot⟩
  · refine hended.resolve_left fun hsame => ?_
    rw [hsame] at hnext
    omega
  · rintro ⟨produced, hcleared⟩
    exact (hreplaced produced hcleared).generation

end

/-! ### A type that is produced twice -/

def answering (response : Response) (budget : Nat) (left : Bool) : Stores → CompilerCall → Unit → CallEnd × Unit :=
  fun _ _ _ => (⟨response.settle budget left, left⟩, ())

/-- A registry of two types, in its first generation. -/
def twoServed : Stores :=
  { Stores.new none with
    registry := ((Registry.new "types").publish
      [⟨"app.A", .ofText "app.A" "one", .dynamic⟩, ⟨"app.B", .ofText "app.B" "one", .dynamic⟩] []).2 }

/-- Both types are removed, and one of them is defined anew. -/
def renewal : CompileRequest := ⟨[⟨"app.A", "type A", [.anonymous 1]⟩], ["app.A", "app.B"]⟩

/-- A warning, the type twice, and another that nobody asked for. -/
def twoVersions : CompilerOutput :=
  ⟨[⟨.warning, "app.A", 1, "unused", none⟩],
    [.ofText "app.A" "two", .ofText "app.C" "two", .ofText "app.A" "three"]⟩

/-- It comes when the budget of the call is just used up. -/
def atTheLast : Response := ⟨.seconds 5, .ok twoVersions⟩

/-- What was produced last is published. If the caller leaves before that, nothing is. -/
theorem published_unless_left :
    (renewal.isEmpty = false ∧ renewal.names.Nodup) ∧
      (compile "app" (answering atTheLast 5 false) renewal none false twoServed ()).2.1.registry.current.table =
        [⟨"app.A", .ofText "app.A" "three", .dynamic⟩] ∧
      (compile "app" (answering atTheLast 5 true) renewal none false twoServed ()).2.1.registry = twoServed.registry := by
  have hanswered : ∀ left, renewal.units ≠ [] →
      (answering atTheLast 5 left twoServed ⟨renewal.units, twoServed.library.listUnder "app"⟩ ()).1 =
        ⟨atTheLast.settle 5 left, left⟩ := fun _ _ => rfl
  have hintime : atTheLast.InTime 5 := Nat.le_refl 5
  have hcleared : Cleared renewal 5 false atTheLast false twoVersions.units :=
    .delivered (by decide) rfl rfl hintime rfl (by decide) (by decide)
  have hleft : ¬ ∃ produced, Cleared renewal 5 false atTheLast true produced := by
    rintro ⟨produced, hretiring | ⟨-, -, hstayed⟩⟩
    · cases hretiring
    · cases hstayed
  refine ⟨⟨rfl, by decide⟩, ?_, ?_⟩
  · exact ((publishes_iff_cleared rfl (by decide) (hanswered false)).2.1 _ hcleared).table
  · exact (publishes_iff_cleared rfl (by decide) (hanswered true)).2.2 hleft

end Stores

end HotSchema
