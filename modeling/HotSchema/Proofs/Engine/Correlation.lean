import HotSchema.Proofs.Engine.Batches
import HotSchema.Proofs.Engine.Convergence
import HotSchema.Proofs.Source.Offers
/-!
# In whose lines errors are located

A pass locates the errors of the compiler in the units that it compiled. Those have the digests of the units that
the schema handed out, but a unit that waited before, perhaps since a run that was broken off, is compiled in place
of a new one of its digest. Then an error may be located at an entity that the type no longer has. So errors are
located as in the units that were handed out exactly if what waited under their names, with their digests, had
their spans.
-/

namespace HotSchema

/-- The units of a batch whose names a request asks for. -/
def SourceBatch.requested (batch : SourceBatch) (r : CompileRequest) : List SourceUnit :=
  batch.units.filter fun unit => unit.name ∈ r.names

theorem SourceUnit.Generated.numberable {unit : SourceUnit} (h : unit.Generated) : Numberable unit.spans := by
  obtain ⟨t, ht⟩ := h
  exact numberable_of_ofSpans ht

theorem Token.correlate_of_spans {unit unit' : SourceUnit} (h : unit.spans = unit'.spans) (d : Diagnostic) :
    correlate d (some unit) = correlate d (some unit') := by
  simp [correlate, h]

namespace Stores

/-! ### Located errors -/

theorem errorTokens_singleton {units : List SourceUnit} (hnodup : (units.map SourceUnit.name).Nodup)
    {unit : SourceUnit} (h : unit ∈ units) (line : UInt32) :
    errorTokens units [.error unit.name line ""] = [Token.correlate (.error unit.name line "") (some unit)] := by
  rw [← find?_key_of_mem hnodup h]
  rfl

/-- Errors are located alike in two lists of units of the same names exactly if the units have the same spans. -/
theorem errorTokens_eq_iff {units units' : List SourceUnit} (hnodup : (units.map SourceUnit.name).Nodup)
    (hnodup' : (units'.map SourceUnit.name).Nodup)
    (hnames : ∀ name, name ∈ units.map SourceUnit.name ↔ name ∈ units'.map SourceUnit.name)
    (hspans : ∀ unit ∈ units, Numberable unit.spans) (hspans' : ∀ unit ∈ units', Numberable unit.spans) :
    (∀ diagnostics, errorTokens units diagnostics = errorTokens units' diagnostics) ↔
      ∀ unit ∈ units, ∀ unit' ∈ units', unit'.name = unit.name → unit.spans = unit'.spans := by
  constructor
  · intro hsame unit hunit unit' hunit' hname
    refine Token.spans_eq_of_correlate (hspans unit hunit) (hspans' unit' hunit') unit.name "" fun line => ?_
    have htokens := hsame [.error unit.name line ""]
    rw [errorTokens_singleton hnodup hunit, ← hname, errorTokens_singleton hnodup' hunit', hname] at htokens
    exact (List.cons.inj htokens).1
  · intro hsame diagnostics
    refine List.map_congr_left fun d _ => ?_
    rcases hfind : units.find? (·.name == d.unit) with _ | unit
    · have hnone : units'.find? (·.name == d.unit) = none := by
        rw [List.find?_eq_none] at hfind ⊢
        intro unit' hunit' hname
        have hlisted : d.unit ∈ units'.map SourceUnit.name := List.mem_map.2 ⟨unit', hunit', by simpa using hname⟩
        obtain ⟨unit, hunit, heq⟩ := List.mem_map.1 ((hnames d.unit).2 hlisted)
        exact hfind unit hunit (by simpa using heq)
      rw [hfind, hnone]
    · have hname : unit.name = d.unit := by simpa using List.find?_some hfind
      have hunit := List.mem_of_find?_eq_some hfind
      obtain ⟨unit', hunit', hname'⟩ := List.mem_map.1 ((hnames d.unit).1 (List.mem_map.2 ⟨unit, hunit, hname⟩))
      have hfind' := find?_key_of_mem hnodup' hunit'
      rw [hname'] at hfind'
      rw [hfind, hfind']
      exact Token.correlate_of_spans (hsame unit hunit unit' hunit' (hname'.trans hname.symm)) d

/-! ### Requests -/

variable {s : Stores} {schema schema' : Schema} {batch : SourceBatch}

theorem nodup_of_request (hrequest : schema.request = (.ok batch, schema')) :
    (batch.units.map SourceUnit.name).Nodup := by
  obtain ⟨hunits, -, -⟩ := Schema.request_eq_ok hrequest
  rw [Schema.names_of_generated hunits]
  exact schema.nodup_liveNames

/-- What is compiled has the digest of what the schema handed out under its name. The two are alike exactly if what
waited before was like what was handed out, if it had its digest and was not to be retired. -/
theorem alike_of_stage (hrequest : schema.request = (.ok batch, schema')) :
    ∀ unit ∈ (s.stage batch).1.units, ∀ generated ∈ batch.units, generated.name = unit.name →
      unit.digest = generated.digest ∧ ∀ {α : Type} (f : SourceUnit → α),
        f unit = f generated ↔ (s.staging.stageRemovals batch.removed).Alike f generated := by
  intro unit hunit generated hgenerated hname
  have hfind : (s.staging.take batch.units batch.removed).staged.find? unit.name = some unit := Roster.find?_of_mem hunit
  rw [← hname] at hfind
  exact Staging.alike_of_take (nodup_of_request hrequest) hgenerated hfind

theorem InStep.generated_of_request (h : s.InStep schema) (hrequest : schema.request = (.ok batch, schema')) :
    ∀ unit ∈ (s.stage batch).1.units, ∃ generated ∈ batch.units, generated.name = unit.name := by
  obtain ⟨hunits, -, -⟩ := Schema.request_eq_ok hrequest
  intro unit hunit
  have hlive := ((h.stage hrequest).asked unit hunit).2
  exact List.mem_map.1 (Schema.names_of_generated hunits ▸ hlive)

theorem InStep.mem_names_requested (h : s.InStep schema) (hrequest : schema.request = (.ok batch, schema'))
    {name : String} :
    name ∈ (s.stage batch).1.names ↔ name ∈ (batch.requested (s.stage batch).1).map SourceUnit.name := by
  constructor
  · intro hname
    obtain ⟨unit, hunit, rfl⟩ := List.mem_map.1 hname
    obtain ⟨generated, hgenerated, hsame⟩ := h.generated_of_request hrequest unit hunit
    refine List.mem_map.2 ⟨generated, List.mem_filter.2 ⟨hgenerated, ?_⟩, hsame⟩
    rw [hsame]
    exact decide_eq_true hname
  · intro hname
    obtain ⟨generated, hgenerated, rfl⟩ := List.mem_map.1 hname
    exact of_decide_eq_true (List.mem_filter.1 hgenerated).2

/-- Errors are located as in the units handed out exactly if no unit of the digest of one of them waited under its
name with other spans. -/
theorem InStep.located_iff (h : s.InStep schema) (hrequest : schema.request = (.ok batch, schema')) :
    let r := (s.stage batch).1
    (∀ diagnostics, errorTokens r.units diagnostics = errorTokens (batch.requested r) diagnostics) ↔
      ∀ generated ∈ batch.requested r, (s.staging.stageRemovals batch.removed).Alike SourceUnit.spans generated := by
  intro r
  have htaken := h.stage hrequest
  have halike := alike_of_stage (s := s) hrequest
  obtain ⟨hunits, -, -⟩ := Schema.request_eq_ok hrequest
  have hnumberable : ∀ generated ∈ batch.requested r, Numberable generated.spans := by
    intro generated hgenerated
    obtain ⟨t, -, ht⟩ := Schema.exists_of_generated hunits (List.mem_of_mem_filter hgenerated)
    exact SourceUnit.numberable_of_ofSpans ht
  have hrequested : ((batch.requested r).map SourceUnit.name).Nodup :=
    (nodup_of_request hrequest).sublist (List.filter_sublist.map _)
  refine (errorTokens_eq_iff htaken.nodup hrequested (fun _ => h.mem_names_requested hrequest)
    (fun unit hunit => (htaken.asked unit hunit).1.numberable) hnumberable).trans ?_
  constructor
  · intro hspans generated hgenerated
    have hasked : generated.name ∈ r.names := of_decide_eq_true (List.mem_filter.1 hgenerated).2
    obtain ⟨unit, hunit, hname⟩ := List.mem_map.1 hasked
    obtain ⟨-, hiff⟩ := halike unit hunit generated (List.mem_of_mem_filter hgenerated) hname.symm
    exact (hiff _).1 (hspans unit hunit generated hgenerated hname.symm)
  · intro hwaiting unit hunit generated hgenerated hname
    obtain ⟨-, hiff⟩ := halike unit hunit generated (List.mem_of_mem_filter hgenerated) hname
    exact (hiff _).2 (hwaiting generated hgenerated)

end Stores

namespace Engine

variable {e e' : Engine} {origin : Option String} {batch : SourceBatch}

/-- Whatever is done to a staging, what is taken out of it has the digest of the unit offered last under its name,
and is that unit exactly if no other unit of that digest waited under the name when it was offered. In every pass
of an engine the units that are compiled are those that the schema handed out, and the errors are located as in
those, exactly if what an earlier run left waiting of their digests was the same, or had the same spans. -/
theorem units_offered_last {settings : Settings} {host : HostTypes} {schema : Schema} {toolchain : Toolchain}
    {start : Engine} (hnew : Engine.new settings host schema toolchain = .ok start) (history : List Event) :
    (∀ calls : List StagingCall, ∀ unit ∈ (calls.foldl Staging.perform .empty).takeDirty.1,
      ∃ before last after, calls = before ++ .offer last :: after ∧ last.name = unit.name ∧
        (∀ other, .offer other ∈ after → other.name ≠ unit.name) ∧ unit.digest = last.digest ∧
        (unit = last ↔ (before.foldl Staging.perform .empty).Alike id last)) ∧
      ∀ r ∈ start.runsIn history, ∀ p ∈ r.passes, ∀ batch e, p.before.askForUnits = (.ok batch, e) →
        let request := (e.stage batch).1
        let left := p.before.stores.staging.stageRemovals batch.removed
        (∀ unit ∈ request.units, ∃ generated ∈ batch.units, generated.name = unit.name ∧
          unit.digest = generated.digest ∧ (unit = generated ↔ left.Alike id generated)) ∧
        (∀ outcome, p.result = .ok outcome → outcome.success = false →
          outcome.diagnostics = Stores.errorTokens request.units ((e.stage batch).2.output request).diagnostics) ∧
        ((∀ diagnostics, Stores.errorTokens request.units diagnostics =
            Stores.errorTokens (batch.requested request) diagnostics) ↔
          ∀ generated ∈ batch.requested request, left.Alike SourceUnit.spans generated) := by
  obtain ⟨-, rfl⟩ := new_eq_ok hnew
  constructor
  · intro calls unit hunit
    obtain ⟨before, last, after, hcalls, hname, hafter, hdigest, halike⟩ :=
      Staging.offered_last (Roster.find?_of_mem hunit)
    exact ⟨before, last, after, hcalls, hname, hafter, hdigest, halike id⟩
  · intro r hr p hp batch e hasked request left
    obtain ⟨hbefore, hrecord⟩ := forall_runsIn keptByEvents_inStep (inStep_fresh ..) history r hr
    rw [hrecord] at hp
    obtain ⟨hstep, hpass⟩ := forall_passes keptByRuns_inStep hbefore r.origin p hp
    have hrequest := request_of_askForUnits hstep.plain hasked
    have hstores : e.stores = p.before.stores := congrArg (·.2.stores) hasked.symm
    have hsame : request = (p.before.stores.stage batch).1 := congrArg (fun s : Stores => (s.stage batch).1) hstores
    refine ⟨fun unit hunit => ?_, fun outcome hresult hfails => ?_, ?_⟩
    · rw [hsame] at hunit
      obtain ⟨generated, hgenerated, hname⟩ := hstep.stores.generated_of_request hrequest unit hunit
      obtain ⟨hdigest, halike⟩ := Stores.alike_of_stage hrequest unit hunit generated hgenerated hname
      exact ⟨generated, hgenerated, hname, hdigest, halike id⟩
    · rw [hresult] at hpass
      exact (diagnostics_of_pass hpass hfails hasked).1
    · rw [hsame]
      exact hstep.stores.located_iff hrequest

def property (id source : String) : TypeModel := ⟨"app.A", "type A", [⟨.property, id, id, source⟩]⟩

/-- A compiler that finds the property wrong. -/
def refusing : Toolchain := ⟨.echo, [some ⟨[], .immediate, .reports [.error "app.A" 2 "not understood"] [] none⟩]⟩

/-- A run is withdrawn from, and the type gets another property. -/
def redefined (t : TypeModel) : List Event :=
  [.edit (.upsert (property "p1" "x: int")), .run none true, .edit (.upsert t)]

/-- The text is another one, so what was left waiting gives way to it, and errors are located in the new property. -/
theorem redefined_text_located :
    ∃ start, Engine.new .default none .empty refusing = .ok start ∧
      ∃ r ∈ start.runsIn (redefined (property "p2" "x: text") ++ [.run none false]), ∃ p ∈ r.passes,
        p.before.stores.staging.staged.names = ["app.A"] ∧
          ∃ batch e, p.before.askForUnits = (.ok batch, e) ∧ (e.stage batch).1.names = ["app.A"] ∧
            (∀ unit ∈ (e.stage batch).1.units, unit ∈ batch.units) ∧
            ∀ diagnostics, Stores.errorTokens (e.stage batch).1.units diagnostics =
              Stores.errorTokens (batch.requested (e.stage batch).1) diagnostics := by
  have hnew : Engine.new .default none .empty refusing = .ok (fresh .default none .empty refusing) := rfl
  let e := ((fresh .default none .empty refusing).after (redefined (property "p2" "x: text"))).called false
  have hr : e.record none ∈
      (fresh .default none .empty refusing).runsIn (redefined (property "p2" "x: text") ++ [.run none false]) :=
    record_mem_runsIn ..
  obtain ⟨-, hlocated⟩ := units_offered_last hnew (redefined (property "p2" "x: text") ++ [.run none false])
  have hmade : (e.record none).passes.head?.map (fun p => (p.before.stores.staging.staged.names,
      p.before.askForUnits.1.toOption.map fun batch => ((p.before.askForUnits.2.stage batch).1.names,
        decide (∀ generated ∈ batch.units,
          (p.before.stores.staging.stageRemovals batch.removed).Alike id generated)))) =
      some (["app.A"], some (["app.A"], true)) := by decide +kernel
  obtain ⟨p, hp, hpass⟩ := Option.map_eq_some_iff.1 hmade
  obtain ⟨hstaged, hanswer⟩ := Prod.mk.inj hpass
  obtain ⟨batch, hbatch, hbatch'⟩ := Option.map_eq_some_iff.1 hanswer
  obtain ⟨hnames, halike⟩ := Prod.mk.inj hbatch'
  have halike := of_decide_eq_true halike
  have hasked : p.before.askForUnits = (.ok batch, p.before.askForUnits.2) := Prod.ext (eq_ok_of_toOption hbatch) rfl
  have hmem := List.mem_of_head? hp
  obtain ⟨hsame, -, htokens⟩ := hlocated _ hr p hmem batch _ hasked
  refine ⟨_, hnew, _, hr, p, hmem, hstaged, batch, _, hasked, hnames, fun unit hunit => ?_, htokens.2 ?_⟩
  · obtain ⟨generated, hgenerated, -, -, hiff⟩ := hsame unit hunit
    rw [hiff.2 (halike generated hgenerated)]
    exact hgenerated
  · intro generated hgenerated waiting hwaiting hdigest
    exact congrArg SourceUnit.spans (halike generated (List.mem_of_mem_filter hgenerated) waiting hwaiting hdigest)

/-- A unit of the same text with other spans is not let in, and the one that waited is taken. After a run that was
withdrawn from, an error in the new property is so located at the old one, which the type no longer has. -/
theorem replaced_property_located :
    (∃ old new : SourceUnit, old ≠ new ∧ old.name = new.name ∧
      ([.offer old, .offer new].foldl Staging.perform .empty).takeDirty.1 = [old]) ∧
      ∃ start, Engine.new .default none .empty refusing = .ok start ∧
        ∃ r ∈ start.runsIn (redefined (property "p2" "x: int") ++ [.run none false]),
          r.before.schema.live = [property "p2" "x: int"] ∧
            ∃ report, r.result = .ok report ∧
              report.diagnostics.map (fun token => token.entity.map EntityRef.id) = [some "p1"] := by
  constructor
  · refine ⟨⟨"app.A", "type A", [⟨1, some ⟨.property, "p1", "x", "app.A"⟩⟩]⟩,
      ⟨"app.A", "type A", [⟨1, some ⟨.property, "p2", "x", "app.A"⟩⟩]⟩, by decide, rfl, ?_⟩
    decide +kernel
  · refine ⟨_, rfl, _, record_mem_runsIn _ _ none false, by decide +kernel, ?_⟩
    have hmade : ((((fresh .default none .empty refusing).after (redefined (property "p2" "x: int"))).called false).record
        none).result.toOption.map (fun report => report.diagnostics.map fun token => token.entity.map EntityRef.id) =
          some [some "p1"] := by decide +kernel
    obtain ⟨report, hreport, hdiagnostics⟩ := Option.map_eq_some_iff.1 hmade
    exact ⟨report, eq_ok_of_toOption hreport, hdiagnostics⟩

end Engine

end HotSchema
