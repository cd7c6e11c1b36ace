import HotSchema.Proofs.Compile.Pass
import HotSchema.Proofs.Source.Waiting
/-!
# Batches that are rejected

A pass that was told of an error installs nothing and reports the errors, each located in the first unit of the
batch that goes by its name. What it then does to the staging is what makes a full retry certain: the batch has
no digests any more, so each of its units waits as soon as it is offered again, even if its text is the same; and
the removals of the batch wait again, each once. All else is left alone.
-/

namespace HotSchema

namespace Stores

/-- After the pass the batch is compiled again as soon as it is offered, its removals wait, and all else is as it
was. -/
structure Retries (s : Stores) (r : CompileRequest) (s' : Stores) : Prop where
  forgotten : ∀ name ∈ r.names, s'.staging.compiledDigest? name = none
  /-- A unit that is not let in has its text waiting already. -/
  offered : ∀ unit : SourceUnit, unit.name ∈ r.names →
    (s'.staging.offer unit).2.isDirty unit.name = true ∧
      ((s'.staging.offer unit).1 = .added ∨
        (s'.staging.staged.find? unit.name).map SourceUnit.digest = some unit.digest)
  removals : ∀ name ∈ r.removed, s'.staging.removed.toList.count name = 1
  otherDigests : ∀ name, name ∉ r.names → s'.staging.compiledDigest? name = s.staging.compiledDigest? name
  otherRemovals : ∃ new, s'.staging.removed.toList = s.staging.removed.toList ++ new ∧ ∀ name ∈ new, name ∈ r.removed
  otherUnits : s'.staging.staged.toList = s.staging.staged.toList.filter fun unit => unit.name ∉ r.removed
  fullRebuild : s'.staging.fullRebuild = s.staging.fullRebuild
  others : s' = { s with staging := s'.staging }

theorem Rejected.retries {s s' : Stores} {r : CompileRequest} (h : s.Rejected r s') : s.Retries r s' := by
  have hstaging : s'.staging = (s.staging.invalidate r.names).stageRemovals r.removed :=
    congrArg Stores.staging h
  rw [Staging.stageRemovals_eq] at hstaging
  have hforgotten : ∀ name ∈ r.names, s'.staging.compiledDigest? name = none := by
    intro name hname
    rw [hstaging]
    exact congrArg (Option.map Stamp.digest) (Roster.find?_eraseAll_of_mem hname)
  refine
    { forgotten := hforgotten
      offered := fun unit hunit => Staging.dirty_offer (hforgotten unit.name hunit)
      removals := fun name hname => ?_
      otherDigests := fun name hname => ?_
      otherRemovals := ?_
      otherUnits := ?_
      fullRebuild := by rw [hstaging]; rfl
      others := by rw [h] }
  · have hwaits : name ∈ s'.staging.removed.names := by
      rw [hstaging]
      exact Roster.mem_names_insertAll.2 (Or.inl (by rwa [map_name_strings]))
    exact List.count_eq_one_of_mem s'.staging.removed.nodup_strings (mem_toList_iff.2 hwaits)
  · rw [hstaging]
    exact congrArg (Option.map Stamp.digest) (Roster.find?_eraseAll_of_not_mem hname)
  · rw [hstaging]
    exact Roster.toList_insertAll_strings s.staging.removed r.removed
  · rw [hstaging]
    exact Roster.toList_eraseAll s.staging.staged r.removed

/-! ### Passes -/

theorem conclude_of_error (s : Stores) (r : CompileRequest) (origin : Option String) {call : CallEnd}
    {output : CompilerOutput} (hcall : call.result = .ok output)
    (herror : ∃ d ∈ output.diagnostics, d.isError = true) :
    s.conclude r origin call = ((.ok (s.reject r (errorTokens r.units output.diagnostics)).1),
      (s.reject r (errorTokens r.units output.diagnostics)).2) := by
  obtain ⟨d, hd, hsevere⟩ := herror
  have herrors : errorTokens r.units output.diagnostics ≠ [] := by
    intro hnone
    have hfiltered := List.map_eq_nil_iff.1 hnone
    rw [List.filter_eq_nil_iff] at hfiltered
    exact hfiltered d hd hsevere
  unfold conclude
  rw [hcall]
  dsimp only
  split
  · next hnone => exact absurd hnone herrors
  · rfl

/-- If the compiler's answer holds an error, the pass reports that it failed, with exactly the errors in the order in
which they came, each located in the first unit of its name; and its batch will be compiled again. -/
theorem errors_retried {ω : Type} {scope : String} {invoke : Stores → CompilerCall → ω → CallEnd × ω}
    {r : CompileRequest} (hunits : r.units ≠ []) (origin : Option String) {s : Stores} {w : ω}
    {output : CompilerOutput} (hcall : (invoke s ⟨r.units, s.library.listUnder scope⟩ w).1.result = .ok output)
    (herror : ∃ d ∈ output.diagnostics, d.severity = .error) :
    let errors := (output.diagnostics.filter fun d => d.severity = .error).map fun d =>
      Token.correlate d (r.units.find? fun unit => unit.name = d.unit)
    ∃ s', compile scope invoke r origin false s w =
        (.ok ⟨false, errors, [], [], s.registry.generation⟩, s',
          (invoke s ⟨r.units, s.library.listUnder scope⟩ w).2) ∧
      s.Retries r s' := by
  intro errors
  have hisError : ∃ d ∈ output.diagnostics, d.isError = true := by
    obtain ⟨d, hd, hsevere⟩ := herror
    exact ⟨d, hd, by simp [Diagnostic.isError, hsevere]⟩
  have hnonempty : r.units.isEmpty = false := by simpa using hunits
  have hrequest : r.isEmpty = false := by simp [CompileRequest.isEmpty, hnonempty]
  have hrejected := s.conclude_of_error r origin hcall hisError
  refine ⟨(s.reject r errors).2, ?_, Rejected.retries rfl⟩
  unfold compile
  rw [if_neg (by simp [hrequest]), if_neg (by simp [hnonempty]), if_neg Bool.false_ne_true]
  dsimp only
  rw [hrejected]
  rfl

/-! ### A batch with an error in one unit -/

/-- A type that waits, one that is compiled, and one whose removal waits. -/
def someWaiting : Stores :=
  { Stores.new none with
    staging :=
      { staged := .ofList [⟨"app.Gone", "type Gone", [.anonymous 1]⟩, ⟨"app.Other", "type Other", [.anonymous 1]⟩]
        removed := .ofList ["app.Old"]
        compiled := .ofList [⟨"app.A", 1⟩, ⟨"app.Other", 2⟩]
        fullRebuild := false } }

def twoUnits : CompileRequest :=
  ⟨[⟨"app.A", "type A", [.anonymous 1]⟩, ⟨"app.B", "type B", [.anonymous 1]⟩], ["app.Gone", "app.Old", "app.Gone"]⟩

/-- A compiler that warns of the first unit and refuses the second, and the first as well, while the caller
withdraws. -/
def refusing : Stores → CompilerCall → Unit → CallEnd × Unit :=
  fun _ _ _ => (⟨.ok ⟨[⟨.warning, "app.A", 1, "unused", none⟩, .error "app.B" 1 "syntax error",
    ⟨.note, "app.B", 1, "here", none⟩, .error "app.A" 2 "syntax error"], []⟩, true⟩, ())

theorem refused_batch_retried :
    ∃ errors s', compile "app" refusing twoUnits none false someWaiting () = (.ok ⟨false, errors, [], [], 0⟩, s', ()) ∧
      errors.map (fun token => (token.unit, token.spanIndex)) = [("app.B", some 0), ("app.A", none)] ∧
      s'.staging.removed.toList = ["app.Old", "app.Gone"] ∧ s'.staging.staged.names = ["app.Other"] ∧
      s'.staging.compiled.names = ["app.Other"] ∧ someWaiting.Retries twoUnits s' := by
  obtain ⟨s', hcompile, hretries⟩ := @errors_retried Unit "app" refusing twoUnits (by decide) none someWaiting () _ rfl
    ⟨.error "app.B" 1 "syntax error", by decide, rfl⟩
  have hstores : s' = (compile "app" refusing twoUnits none false someWaiting ()).2.1 := by rw [hcompile]
  refine ⟨_, s', hcompile, by decide, ?_, ?_, ?_, hretries⟩ <;> rw [hstores] <;> decide +kernel

end Stores

end HotSchema
