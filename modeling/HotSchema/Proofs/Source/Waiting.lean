import HotSchema.Proofs.Staging
/-!
# What waits, waits once and for a reason

No name waits both to be compiled and to be retired, whatever is done to a staging and in whatever order.
And a unit waits only if its text is not the one last compiled, unless everything is to be compiled again.
The second is not kept when digests are recorded, but digests are recorded only while no unit waits: it is
enough that both hold of a staging without units, and that offers, removals and a wish for a full rebuild
keep them.
-/

namespace HotSchema

/-- Everything that can be done to a staging. -/
inductive StagingCall where
  | offer (unit : SourceUnit)
  | forget (name : String)
  | stageRemoval (name : String)
  | clear
  | takeDirty
  | takeRemoved
  | requestFullRebuild
  | markCompiled (units : List SourceUnit)
  | invalidate (names : List String)
  | reset

namespace Staging

def perform (s : Staging) : StagingCall → Staging
  | .offer unit => (s.offer unit).2
  | .forget name => (s.forget name).2
  | .stageRemoval name => s.stageRemoval name
  | .clear => s.clear
  | .takeDirty => s.takeDirty.2
  | .takeRemoved => s.takeRemoved.2
  | .requestFullRebuild => s.requestFullRebuild
  | .markCompiled units => s.markCompiled units
  | .invalidate names => s.invalidate names
  | .reset => empty

/-! ### No name waits twice -/

/-- No name waits both to be compiled and to be retired. -/
def Separate (s : Staging) : Prop := ∀ name ∈ s.staged.names, name ∉ s.removed.names

theorem separate_of_idle {s : Staging} (h : s.staged = ∅) : s.Separate := by
  intro name hname
  rw [h] at hname
  cases hname

/-- Nothing new waits, so nothing new waits twice. -/
theorem Separate.of_subset {s s' : Staging} (h : s.Separate)
    (hstaged : ∀ name ∈ s'.staged.names, name ∈ s.staged.names)
    (hremoved : ∀ name ∈ s'.removed.names, name ∈ s.removed.names) : s'.Separate :=
  fun name hname hretired => h name (hstaged name hname) (hremoved name hretired)

theorem mem_names_offer {s : Staging} {unit : SourceUnit} {name : String}
    (h : name ∈ (s.offer unit).2.staged.names) : name = unit.name ∨ name ∈ s.staged.names := by
  obtain ⟨waiting, hwaiting, rfl⟩ := Roster.mem_names_iff.1 h
  rcases mem_staged_offer hwaiting with rfl | hwaited
  · exact Or.inl rfl
  · exact Or.inr (Roster.mem_names_iff.2 ⟨waiting, hwaited, rfl⟩)

theorem Separate.offer {s : Staging} (h : s.Separate) (unit : SourceUnit) : (s.offer unit).2.Separate := by
  intro name hname hretired
  rw [removed_offer, Roster.mem_names_erase] at hretired
  rcases mem_names_offer hname with heq | hwaited
  · exact hretired.1 heq
  · exact h name hwaited hretired.2

theorem Separate.stageRemoval {s : Staging} (h : s.Separate) (name : String) :
    (s.stageRemoval name).Separate := by
  intro other hother hretired
  obtain ⟨hne, hwaited⟩ := Roster.mem_names_erase.1 hother
  rcases Roster.mem_names_insert.1 hretired with heq | hwasRetired
  · exact hne heq
  · exact h other hwaited hwasRetired

theorem Separate.perform {s : Staging} (h : s.Separate) (call : StagingCall) : (s.perform call).Separate := by
  cases call with
  | offer unit => exact h.offer unit
  | stageRemoval name => exact h.stageRemoval name
  | forget name =>
    exact h.of_subset (fun _ hother => (Roster.mem_names_erase.1 hother).2)
      fun _ hother => (Roster.mem_names_erase.1 hother).2
  | clear | takeDirty | reset => exact separate_of_idle rfl
  | takeRemoved => exact h.of_subset (fun _ hother => hother) (List.forall_mem_nil _)
  | requestFullRebuild | markCompiled _ | invalidate _ => exact h

/-- Whatever is done to a staging, no name waits twice. -/
theorem separate_performed (calls : List StagingCall) : (calls.foldl perform empty).Separate := by
  suffices h : ∀ s : Staging, s.Separate → (calls.foldl perform s).Separate from h empty (separate_of_idle rfl)
  induction calls with
  | nil => exact fun _ hs => hs
  | cons call rest ih => exact fun s hs => ih _ (hs.perform call)

/-! ### Nothing waits without need -/

/-- Whether the text with a digest has to be compiled under a name: it is not the one last compiled, or
everything is compiled again. -/
def Due (s : Staging) (name : String) (digest : UInt64) : Prop :=
  s.fullRebuild = true ∨ s.compiledDigest? name ≠ some digest

/-- Every unit that waits has to be compiled. -/
def AllDue (s : Staging) : Prop := ∀ unit ∈ s.staged.toList, s.Due unit.name unit.digest

theorem allDue_of_idle {s : Staging} (h : s.staged = ∅) : s.AllDue := by
  intro unit hunit
  rw [h] at hunit
  cases hunit

@[simp] theorem fullRebuild_offer (s : Staging) (unit : SourceUnit) :
    (s.offer unit).2.fullRebuild = s.fullRebuild := by
  unfold offer
  dsimp only
  split_ifs <;> rfl

theorem due_offer {s : Staging} {unit : SourceUnit} {name : String} {digest : UInt64} :
    (s.offer unit).2.Due name digest ↔ s.Due name digest := by
  simp only [Due, compiledDigest?, fullRebuild_offer, compiled_offer]

theorem AllDue.offer {s : Staging} (h : s.AllDue) (unit : SourceUnit) : (s.offer unit).2.AllDue := by
  intro waiting hwaiting
  rw [due_offer]
  unfold Staging.offer at hwaiting
  dsimp only at hwaiting
  split_ifs at hwaiting with hwaits hcompiled
  · exact h waiting hwaiting
  · exact h waiting (List.mem_of_mem_filter hwaiting)
  · rcases Roster.mem_of_mem_insert hwaiting with rfl | hwaited
    · -- The unit was let in, so its text is not the one last compiled.
      by_contra hdue
      obtain ⟨hpartial, hsame⟩ := not_or.1 hdue
      have hpartial : s.fullRebuild = false := by simpa using hpartial
      have hsame : s.compiledDigest? waiting.name = some waiting.digest := not_not.1 hsame
      exact hcompiled (Bool.and_eq_true_iff.2 ⟨by rw [hpartial]; rfl, decide_eq_true hsame⟩)
    · exact h waiting hwaited

/-- A text that has to be compiled and does not wait yet is let in. -/
theorem offer_of_due {s : Staging} {unit : SourceUnit} (hdue : s.Due unit.name unit.digest)
    (hnew : (s.staged.find? unit.name).map SourceUnit.digest ≠ some unit.digest) :
    s.offer unit =
      (.added, { s with staged := s.staged.insert unit, removed := s.removed.erase unit.name }) := by
  have hcompiled : ¬ (!s.fullRebuild && s.compiledDigest? unit.name = some unit.digest) = true := by
    rcases hdue with hfull | hchanged
    · simp [hfull]
    · simp [hchanged]
  unfold offer
  dsimp only
  rw [if_neg hnew]
  exact if_neg hcompiled

/-- A name without a digest waits once a unit is offered under it; the unit is let in unless its text waits
already. -/
theorem dirty_offer {s : Staging} {unit : SourceUnit} (h : s.compiledDigest? unit.name = none) :
    (s.offer unit).2.isDirty unit.name = true ∧
      ((s.offer unit).1 = .added ∨ (s.staged.find? unit.name).map SourceUnit.digest = some unit.digest) := by
  constructor
  · rcases offer_holds s unit with ⟨waiting, hfind, -⟩ | ⟨-, hrecorded⟩
    · exact Roster.contains_iff.2 (Roster.mem_names_iff_find?.2 ⟨waiting, hfind⟩)
    · rw [compiledDigest?, compiled_offer, ← compiledDigest?, h] at hrecorded
      cases hrecorded
  · by_cases hwaits : (s.staged.find? unit.name).map SourceUnit.digest = some unit.digest
    · exact Or.inr hwaits
    · have hdue : s.Due unit.name unit.digest := Or.inr (by simp [h])
      exact Or.inl (congrArg Prod.fst (offer_of_due hdue hwaits))

theorem AllDue.stageRemoval {s : Staging} (h : s.AllDue) (name : String) : (s.stageRemoval name).AllDue :=
  fun unit hunit => h unit (List.mem_of_mem_filter hunit)

theorem AllDue.requestFullRebuild (s : Staging) : s.requestFullRebuild.AllDue := fun _ _ => Or.inl rfl

/-! ### What a batch does -/

/-- What holds of every staging without units, and is kept by all that happens while units wait. -/
structure KeptByOffers (Q : Staging → Prop) : Prop where
  idle : ∀ s, s.staged = ∅ → Q s
  offer : ∀ s unit, Q s → Q (s.offer unit).2
  stageRemoval : ∀ s name, Q s → Q (s.stageRemoval name)
  requestFullRebuild : ∀ s, Q s → Q s.requestFullRebuild

theorem keptByOffers_separate : KeptByOffers Separate where
  idle := fun _ => separate_of_idle
  offer := fun _ unit h => h.offer unit
  stageRemoval := fun _ name h => h.stageRemoval name
  requestFullRebuild := fun _ h => h

theorem keptByOffers_allDue : KeptByOffers AllDue where
  idle := fun _ => allDue_of_idle
  offer := fun _ unit h => h.offer unit
  stageRemoval := fun _ name h => h.stageRemoval name
  requestFullRebuild := fun s _ => .requestFullRebuild s

theorem offerAll_preserves {Q : Staging → Prop} (hoffer : ∀ s unit, Q s → Q (s.offer unit).2) {s : Staging}
    (h : Q s) (units : List SourceUnit) : Q (s.offerAll units) := by
  induction units generalizing s with
  | nil => exact h
  | cons unit rest ih => exact ih (hoffer s unit h)

theorem stageRemovals_preserves {Q : Staging → Prop} (hremoval : ∀ s name, Q s → Q (s.stageRemoval name))
    {s : Staging} (h : Q s) (names : List String) : Q (s.stageRemovals names) := by
  induction names generalizing s with
  | nil => exact h
  | cons name rest ih => exact ih (hremoval s name h)

theorem KeptByOffers.take {Q : Staging → Prop} (hkept : KeptByOffers Q) {s : Staging} (h : Q s)
    (units : List SourceUnit) (removed : List String) : Q (s.take units removed) :=
  offerAll_preserves hkept.offer (stageRemovals_preserves hkept.stageRemoval h removed) units

@[simp] theorem fullRebuild_take (s : Staging) (units : List SourceUnit) (removed : List String) :
    (s.take units removed).fullRebuild = s.fullRebuild := by
  have hoffered := offerAll_preserves (Q := fun s' => s'.fullRebuild = s.fullRebuild)
    (fun s' unit h => (s'.fullRebuild_offer unit).trans h) (s := s.stageRemovals removed)
  have hremoved := stageRemovals_preserves (Q := fun s' => s'.fullRebuild = s.fullRebuild)
    (fun _ _ h => h) rfl removed
  exact hoffered hremoved units

theorem due_take {s : Staging} {units : List SourceUnit} {removed : List String} {name : String}
    {digest : UInt64} : (s.take units removed).Due name digest ↔ s.Due name digest := by
  simp only [Due, compiledDigest?, fullRebuild_take, compiled_take]

/-- When everything is compiled again, every unit that is offered waits. -/
theorem mem_names_offer_iff {s : Staging} (hfull : s.fullRebuild = true) {unit : SourceUnit} {name : String} :
    name ∈ (s.offer unit).2.staged.names ↔ name = unit.name ∨ name ∈ s.staged.names := by
  refine ⟨mem_names_offer, fun h => ?_⟩
  unfold offer
  dsimp only
  split_ifs with hwaits hcompiled
  · rcases h with rfl | hwaited
    · obtain ⟨waiting, hfind, -⟩ := Option.map_eq_some_iff.1 hwaits
      exact Roster.mem_names_iff_find?.2 ⟨waiting, hfind⟩
    · exact hwaited
  · simp [hfull] at hcompiled
  · exact Roster.mem_names_insert.2 h

theorem mem_names_offerAll {s : Staging} (hfull : s.fullRebuild = true) {units : List SourceUnit} {name : String}
    (h : name ∈ units.map SourceUnit.name ∨ name ∈ s.staged.names) : name ∈ (s.offerAll units).staged.names := by
  induction units generalizing s with
  | nil => exact h.resolve_left List.not_mem_nil
  | cons unit rest ih =>
    refine ih ((s.fullRebuild_offer unit).trans hfull) ?_
    rw [mem_names_offer_iff hfull]
    rw [List.map_cons, List.mem_cons] at h
    tauto

theorem mem_names_take {s : Staging} (hfull : s.fullRebuild = true) {units : List SourceUnit}
    (removed : List String) {name : String} (h : name ∈ units.map SourceUnit.name) :
    name ∈ (s.take units removed).staged.names := by
  have hremoved := stageRemovals_preserves (Q := fun s => s.fullRebuild = true) (fun _ _ h => h) hfull removed
  exact mem_names_offerAll hremoved (Or.inl h)

end Staging

end HotSchema
