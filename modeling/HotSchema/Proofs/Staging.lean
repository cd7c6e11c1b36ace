import HotSchema.Proofs.Roster
import HotSchema.Source.Staging
/-!
# What waits in the staging

Taking a batch in leaves every offered text either waiting or recorded as compiled, takes its name off the
removals, and queues the removals that were not offered again. Digests are recorded and forgotten by
compile passes alone.
-/

namespace HotSchema

namespace Staging

/-- The text with a digest waits under a name, or it is the one last compiled and nothing waits. -/
def Holds (s : Staging) (name : String) (digest : UInt64) : Prop :=
  (∃ unit, s.staged.find? name = some unit ∧ unit.digest = digest) ∨
    name ∉ s.staged.names ∧ s.compiledDigest? name = some digest

/-! ### One offer -/

@[simp] theorem removed_offer (s : Staging) (unit : SourceUnit) :
    (s.offer unit).2.removed = s.removed.erase unit.name := by
  unfold offer
  dsimp only
  split_ifs <;> rfl

@[simp] theorem compiled_offer (s : Staging) (unit : SourceUnit) :
    (s.offer unit).2.compiled = s.compiled := by
  unfold offer
  dsimp only
  split_ifs <;> rfl

theorem find?_staged_offer_of_ne (s : Staging) {unit : SourceUnit} {name : String} (h : name ≠ unit.name) :
    (s.offer unit).2.staged.find? name = s.staged.find? name := by
  unfold offer
  dsimp only
  split_ifs
  · rfl
  · exact (Roster.find?_erase _ _ _).trans (if_neg h)
  · exact (Roster.find?_insert _ _ _).trans (if_neg h)

theorem mem_staged_offer {s : Staging} {unit waiting : SourceUnit}
    (h : waiting ∈ (s.offer unit).2.staged.toList) : waiting = unit ∨ waiting ∈ s.staged.toList := by
  unfold offer at h
  dsimp only at h
  split_ifs at h
  · exact Or.inr h
  · exact Or.inr (List.mem_of_mem_filter h)
  · exact Roster.mem_of_mem_insert h

theorem offer_holds (s : Staging) (unit : SourceUnit) : (s.offer unit).2.Holds unit.name unit.digest := by
  unfold offer
  dsimp only
  split_ifs with hwaits hcompiled
  · obtain ⟨waiting, hfind, hdigest⟩ := Option.map_eq_some_iff.1 hwaits
    exact Or.inl ⟨waiting, hfind, hdigest⟩
  · simp only [Bool.and_eq_true, decide_eq_true_eq] at hcompiled
    exact Or.inr ⟨by simp, hcompiled.2⟩
  · exact Or.inl ⟨unit, (Roster.find?_insert _ _ _).trans (if_pos rfl), rfl⟩

theorem Holds.offer_of_ne {s : Staging} {name : String} {digest : UInt64} (h : s.Holds name digest)
    {unit : SourceUnit} (hne : name ≠ unit.name) : (s.offer unit).2.Holds name digest := by
  unfold Holds at *
  rw [← Roster.find?_eq_none_iff] at *
  rwa [find?_staged_offer_of_ne s hne, compiledDigest?, compiled_offer]

/-! ### A list of offers -/

def offerAll (s : Staging) (units : List SourceUnit) : Staging :=
  units.foldl (fun s unit => (s.offer unit).2) s

def stageRemovals (s : Staging) (names : List String) : Staging := names.foldl stageRemoval s

theorem take_eq (s : Staging) (units : List SourceUnit) (removed : List String) :
    s.take units removed = (s.stageRemovals removed).offerAll units := rfl

theorem offerAll_cons (s : Staging) (unit : SourceUnit) (rest : List SourceUnit) :
    s.offerAll (unit :: rest) = (s.offer unit).2.offerAll rest := rfl

@[simp] theorem compiled_offerAll (s : Staging) (units : List SourceUnit) :
    (s.offerAll units).compiled = s.compiled := by
  induction units generalizing s with
  | nil => rfl
  | cons unit rest ih => rw [offerAll_cons, ih, compiled_offer]

theorem mem_removed_offerAll {s : Staging} {units : List SourceUnit} {name : String} :
    name ∈ (s.offerAll units).removed.names ↔
      name ∉ units.map SourceUnit.name ∧ name ∈ s.removed.names := by
  induction units generalizing s with
  | nil => simp [offerAll]
  | cons unit rest ih =>
    rw [offerAll_cons, ih, removed_offer, Roster.mem_names_erase, List.map_cons, List.mem_cons]
    tauto

theorem mem_staged_offerAll {s : Staging} {units : List SourceUnit} {waiting : SourceUnit}
    (h : waiting ∈ (s.offerAll units).staged.toList) : waiting ∈ units ∨ waiting ∈ s.staged.toList := by
  induction units generalizing s with
  | nil => exact Or.inr h
  | cons unit rest ih =>
    rcases ih h with hrest | hoffered
    · exact Or.inl (List.mem_cons_of_mem _ hrest)
    · rcases mem_staged_offer hoffered with rfl | hwaited
      · exact Or.inl List.mem_cons_self
      · exact Or.inr hwaited

theorem Holds.offerAll {s : Staging} {name : String} {digest : UInt64} (h : s.Holds name digest)
    {units : List SourceUnit} (hname : name ∉ units.map SourceUnit.name) :
    (s.offerAll units).Holds name digest := by
  induction units generalizing s with
  | nil => exact h
  | cons unit rest ih =>
    rw [List.map_cons, List.mem_cons, not_or] at hname
    exact ih (h.offer_of_ne hname.1) hname.2

theorem offerAll_holds {s : Staging} {units : List SourceUnit} (hnodup : (units.map SourceUnit.name).Nodup)
    {unit : SourceUnit} (h : unit ∈ units) : (s.offerAll units).Holds unit.name unit.digest := by
  induction units generalizing s with
  | nil => simp at h
  | cons first rest ih =>
    rw [List.map_cons, List.nodup_cons] at hnodup
    rw [offerAll_cons]
    rcases List.mem_cons.1 h with rfl | h
    · exact (offer_holds s unit).offerAll hnodup.1
    · exact ih hnodup.2 h

/-! ### A list of removals -/

theorem stageRemovals_eq (s : Staging) (names : List String) : s.stageRemovals names =
    { s with staged := s.staged.eraseAll names, removed := s.removed.insertAll names } := by
  induction names generalizing s with
  | nil => rfl
  | cons name rest ih => exact ih (s.stageRemoval name)

@[simp] theorem compiled_stageRemovals (s : Staging) (names : List String) :
    (s.stageRemovals names).compiled = s.compiled := by
  rw [stageRemovals_eq]

theorem mem_removed_stageRemovals {s : Staging} {names : List String} {name : String} :
    name ∈ (s.stageRemovals names).removed.names ↔ name ∈ names ∨ name ∈ s.removed.names := by
  rw [stageRemovals_eq, Roster.mem_names_insertAll, map_name_strings]

theorem mem_staged_stageRemovals {s : Staging} {names : List String} {unit : SourceUnit} :
    unit ∈ (s.stageRemovals names).staged.toList ↔ unit.name ∉ names ∧ unit ∈ s.staged.toList := by
  rw [stageRemovals_eq, Roster.toList_eraseAll, List.mem_filter, decide_eq_true_eq, and_comm]
  rfl

/-! ### A batch -/

@[simp] theorem compiled_take (s : Staging) (units : List SourceUnit) (removed : List String) :
    (s.take units removed).compiled = s.compiled := by
  rw [take_eq, compiled_offerAll, compiled_stageRemovals]

theorem mem_removed_take {s : Staging} {units : List SourceUnit} {removed : List String} {name : String} :
    name ∈ (s.take units removed).removed.names ↔
      name ∉ units.map SourceUnit.name ∧ (name ∈ removed ∨ name ∈ s.removed.names) := by
  rw [take_eq, mem_removed_offerAll, mem_removed_stageRemovals]

theorem mem_staged_take {s : Staging} {units : List SourceUnit} {removed : List String} {unit : SourceUnit}
    (h : unit ∈ (s.take units removed).staged.toList) :
    unit ∈ units ∨ unit.name ∉ removed ∧ unit ∈ s.staged.toList := by
  rw [take_eq] at h
  exact (mem_staged_offerAll h).imp_right mem_staged_stageRemovals.1

theorem take_holds {s : Staging} {units : List SourceUnit} {removed : List String}
    (hnodup : (units.map SourceUnit.name).Nodup) {unit : SourceUnit} (h : unit ∈ units) :
    (s.take units removed).Holds unit.name unit.digest :=
  offerAll_holds hnodup h

/-! ### After a compile pass -/

theorem mem_compiled_markCompiled {s : Staging} {units : List SourceUnit} {name : String} :
    name ∈ (s.markCompiled units).compiled.names ↔
      name ∈ units.map SourceUnit.name ∨ name ∈ s.compiled.names := by
  simp only [markCompiled, Roster.mem_names_insertAll, List.map_map]
  rfl

theorem compiledDigest?_markCompiled {s : Staging} {units : List SourceUnit}
    (hnodup : (units.map SourceUnit.name).Nodup) {unit : SourceUnit} (h : unit ∈ units) :
    (s.markCompiled units).compiledDigest? unit.name = some unit.digest := by
  have hstamp := Roster.find?_insertAll_of_mem (r := s.compiled)
    (l := units.map fun unit => (⟨unit.name, unit.digest⟩ : Stamp)) (a := ⟨unit.name, unit.digest⟩)
    (by rwa [List.map_map]) (List.mem_map.2 ⟨unit, h, rfl⟩)
  exact congrArg (Option.map Stamp.digest) hstamp

theorem compiledDigest?_markCompiled_of_not_mem {s : Staging} {units : List SourceUnit} {name : String}
    (h : name ∉ units.map SourceUnit.name) :
    (s.markCompiled units).compiledDigest? name = s.compiledDigest? name := by
  refine congrArg (Option.map Stamp.digest) (Roster.find?_insertAll_of_not_mem ?_)
  rwa [List.map_map]

def forgetAll (s : Staging) (names : List String) : Staging :=
  names.foldl (fun s name => (s.forget name).2) s

theorem forgetAll_cons (s : Staging) (name : String) (rest : List String) :
    s.forgetAll (name :: rest) = (s.forget name).2.forgetAll rest := rfl

theorem forgetAll_eq (s : Staging) (names : List String) : s.forgetAll names =
    { s with
      staged := s.staged.eraseAll names
      removed := s.removed.eraseAll names
      compiled := s.compiled.eraseAll names } := by
  induction names generalizing s with
  | nil => rfl
  | cons name rest ih => exact ih (s.forget name).2

theorem mem_compiled_forgetAll {s : Staging} {names : List String} {name : String} :
    name ∈ (s.forgetAll names).compiled.names ↔ name ∉ names ∧ name ∈ s.compiled.names := by
  induction names generalizing s with
  | nil => simp [forgetAll]
  | cons first rest ih =>
    rw [forgetAll_cons, ih, forget, Roster.mem_names_erase, List.mem_cons]
    tauto

theorem mem_staged_forgetAll {s : Staging} {names : List String} {unit : SourceUnit} :
    unit ∈ (s.forgetAll names).staged.toList ↔ unit.name ∉ names ∧ unit ∈ s.staged.toList := by
  induction names generalizing s with
  | nil => simp [forgetAll]
  | cons first rest ih =>
    rw [forgetAll_cons, ih, forget]
    simp only [Roster.toList_erase, List.mem_filter, bne_iff_ne, List.mem_cons]
    show _ ∧ _ ∧ unit.name ≠ first ↔ _
    tauto

theorem compiledDigest?_forgetAll {s : Staging} {names : List String} {name : String} (h : name ∉ names) :
    (s.forgetAll names).compiledDigest? name = s.compiledDigest? name := by
  induction names generalizing s with
  | nil => rfl
  | cons first rest ih =>
    rw [List.mem_cons, not_or] at h
    rw [forgetAll_cons, ih h.2]
    exact congrArg (Option.map Stamp.digest) ((Roster.find?_erase _ _ _).trans (if_neg h.1))

end Staging

end HotSchema
