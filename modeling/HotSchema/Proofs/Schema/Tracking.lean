import HotSchema.Healing.Pass
import HotSchema.Proofs.Schema.History
/-!
# No type ceases to be live unnoticed

A type that is live stays tracked: whatever is done to the schema, it is live afterwards or its name is
among the removals that the next request hands out. Edits, transactions and repairs all keep to that, and
a request hands the removals out together with the units of all that is live.
-/

namespace HotSchema

namespace Schema

def liveNames (s : Schema) : List String := s.live.map TypeModel.name

/-- The type is live, or its removal waits for the next request. -/
def Tracks (s : Schema) (name : String) : Prop := name ∈ s.liveNames ∨ name ∈ s.removed

/-- What the first schema tracks the second does too. -/
def KeepsTrack (s s' : Schema) : Prop := ∀ name, s.Tracks name → s'.Tracks name

theorem KeepsTrack.refl (s : Schema) : s.KeepsTrack s := fun _ h => h

theorem KeepsTrack.trans {s₁ s₂ s₃ : Schema} (h₁ : s₁.KeepsTrack s₂) (h₂ : s₂.KeepsTrack s₃) :
    s₁.KeepsTrack s₃ :=
  fun name h => h₂ name (h₁ name h)

theorem mem_liveNames {s : Schema} {name : String} :
    name ∈ s.liveNames ↔ name ∈ s.types.names ∧ name ∉ s.blacklist.names := by
  simp only [liveNames, live, isBlacklisted, List.mem_map, List.mem_filter, Bool.not_eq_true',
    ← Bool.not_eq_true, Roster.contains_iff, Roster.mem_names_iff]
  constructor
  · rintro ⟨t, ⟨ht, hlive⟩, rfl⟩
    exact ⟨⟨t, ht, rfl⟩, hlive⟩
  · rintro ⟨⟨t, ht, rfl⟩, hlive⟩
    exact ⟨t, ⟨ht, hlive⟩, rfl⟩

theorem nodup_liveNames (s : Schema) : s.liveNames.Nodup :=
  s.types.nodup.sublist (List.filter_sublist.map _)

theorem KeepsTrack.of_eq {s s' : Schema} (htypes : s'.types = s.types)
    (hblacklist : s'.blacklist = s.blacklist) (hremoved : s'.removed = s.removed) : s.KeepsTrack s' := by
  intro name h
  unfold Tracks at *
  rwa [mem_liveNames, htypes, hblacklist, hremoved, ← mem_liveNames]

end Schema

/-! ### Edits -/

def SchemaContents.Tracks (c : SchemaContents) (name : String) : Prop :=
  name ∈ c.types.names ∧ name ∉ c.blacklist.names ∨ name ∈ c.removed

theorem EditEffect.tracks {c c' : SchemaContents} (h : EditEffect c c') {name : String} (htracks : c.Tracks name) :
    c'.Tracks name := by
  cases h with
  | nothing => exact htracks
  | defined t => exact htracks.imp_left fun hlive => ⟨Roster.mem_names_insert.2 (Or.inr hlive.1), hlive.2⟩
  | cleared other =>
    exact htracks.imp_left fun hlive => ⟨hlive.1, fun hlisted => hlive.2 (Roster.mem_names_erase.1 hlisted).2⟩
  | @removed other hother =>
    rcases htracks with hlive | hwaits
    · by_cases heq : name = other
      · exact Or.inr (by simp [heq])
      · exact Or.inl ⟨Roster.mem_names_erase.2 ⟨heq, hlive.1⟩, hlive.2⟩
    · exact Or.inr (List.mem_append_left _ hwaits)
  | @blacklisted other hother =>
    rcases htracks with hlive | hwaits
    · by_cases heq : name = other
      · subst heq
        exact Or.inr (by simp [Roster.contains_iff, hlive.1])
      · refine Or.inl ⟨hlive.1, ?_⟩
        rw [Roster.mem_names_insert, not_or]
        exact ⟨heq, hlive.2⟩
    · refine Or.inr ?_
      dsimp only
      split
      · exact List.mem_append_left _ hwaits
      · exact hwaits
  | @committed tx hedits =>
    rcases htracks with hlive | hwaits
    · by_cases hdeleted : name ∈ tx.removed
      · exact Or.inr (List.mem_append_right _ hdeleted)
      · refine Or.inl ⟨?_, hlive.2⟩
        dsimp only
        rw [hedits.names, List.mem_filter]
        exact ⟨hlive.1, by simpa using hdeleted⟩
    · exact Or.inr (List.mem_append_left _ hwaits)

theorem EditEffect.keepsTrack {s s' : Schema} (h : EditEffect s.contents s'.contents) : s.KeepsTrack s' := by
  have hcontents (s : Schema) (name : String) : s.Tracks name ↔ s.contents.Tracks name :=
    or_congr Schema.mem_liveNames Iff.rfl
  exact fun name htracks => (hcontents s' name).2 (h.tracks ((hcontents s name).1 htracks))

theorem Schema.keepsTrack_edit (s : Schema) (edit : Edit) : s.KeepsTrack (s.edit edit).2 := (s.effect_edit edit).keepsTrack

/-! ### Repairs -/

theorem Handler.effect_deleteInTransaction (s : Schema) (kinds : List EntityKind) (key : EntityKey) :
    EditEffect s.contents (deleteInTransaction s kinds key).2.contents := by
  unfold deleteInTransaction
  rcases s.begin_cases with ⟨error, hbegin⟩ | hbegin
  · rw [hbegin]
    exact .nothing
  · rw [hbegin]
    dsimp only
    split
    · exact .nothing
    · next entity _ =>
      have hedits := (Transaction.edits_begin s.types).changed (Transaction.changed_delete ⟨s.types, []⟩ entity)
      split
      · exact .nothing
      · next hdelete =>
        rw [hdelete] at hedits
        have hcommit := Schema.effect_commit hedits
        split <;> next heq => rwa [heq] at hcommit

/-- What blacklisting a type and deleting an entity keep true. -/
structure KeptByRepairs (P : Schema → Prop) : Prop where
  blacklist : ∀ s name, P s → P (s.addToBlacklist name).2
  delete : ∀ s kinds key, P s → P (Handler.deleteInTransaction s kinds key).2

section

variable {P : Schema → Prop} (hkept : KeptByRepairs P) {s : Schema} (h : P s)
include hkept h

theorem Handler.apply_preserves (handler : Handler) (t : Token) : P (handler.apply t s).2 := by
  unfold Handler.apply
  split
  · exact h
  · unfold Handler.carryOut
    split
    · next name _ =>
      have hnext := hkept.blacklist s name h
      split <;> next heq => rwa [heq] at hnext
    · next kinds key _ =>
      have hnext := hkept.delete s kinds key h
      split <;> next heq => rwa [heq] at hnext

theorem Pipeline.healToken_preserves (t : Token) (p : Pipeline) : P (healToken t p s).2 := by
  induction p generalizing s with
  | nil => exact h
  | cons handler rest ih =>
    have hnext := Handler.apply_preserves hkept h handler t
    unfold healToken
    split
    · next heq => rwa [heq] at hnext
    · next heq =>
      rw [heq] at hnext
      exact ih hnext

theorem Pipeline.healInOrder_preserves (p : Pipeline) (tokens : List Token) :
    P (p.healInOrder tokens s).2 := by
  induction tokens generalizing s with
  | nil => exact h
  | cons t rest ih => exact ih (healToken_preserves hkept h t p)

theorem Pipeline.heal_preserves (p : Pipeline) (tokens : List Token) : P (p.heal tokens s).2 :=
  p.healInOrder_preserves hkept h _

end

theorem Pipeline.keepsTrack_heal (p : Pipeline) (tokens : List Token) (s : Schema) :
    s.KeepsTrack (p.heal tokens s).2 := by
  have hkept : KeptByRepairs s.KeepsTrack := {
    blacklist := fun s' name h => h.trans (s'.effect_addToBlacklist name).keepsTrack
    delete := fun s' kinds key h => h.trans (Handler.effect_deleteInTransaction s' kinds key).keepsTrack }
  exact p.heal_preserves hkept (.refl s) tokens

/-! ### Requests -/

theorem SourceUnit.name_of_ofSpans {name text : String} {spans : List SourceSpan} {unit : SourceUnit}
    (h : ofSpans name text spans = .ok unit) : unit.name = name := by
  unfold ofSpans at h
  split at h
  · cases h
  · split at h
    · cases h
    · dsimp only at h
      split_ifs at h <;> cases h <;> rfl

theorem TypeModel.name_of_generate {t : TypeModel} {unit : SourceUnit} (h : t.generate = .ok unit) :
    unit.name = t.name :=
  SourceUnit.name_of_ofSpans h

namespace Schema

theorem generateAll_eq_ok {l : List TypeModel} {units : List SourceUnit} (h : generateAll l = .ok units) :
    List.Forall₂ (fun t unit => t.generate = .ok unit) l units := by
  induction l generalizing units with
  | nil => cases h; exact .nil
  | cons t rest ih =>
    unfold generateAll at h
    split at h
    · cases h
    · next unit hunit =>
      split at h
      · cases h
      · next hrest =>
        cases h
        exact .cons hunit (ih hrest)

/-- A request that is answered hands out the units of the live types and all removals. -/
theorem request_eq_ok {s s' : Schema} {batch : SourceBatch} (h : s.request = (.ok batch, s')) :
    List.Forall₂ (fun t unit => t.generate = .ok unit) s.live batch.units ∧
      batch.removed = s.removed ∧ s' = { s with removed := [] } := by
  unfold request at h
  split at h
  · cases h
  · next hunits =>
    cases h
    exact ⟨generateAll_eq_ok hunits, rfl, rfl⟩

theorem request_eq_error {s s' : Schema} {error : SourceError} (h : s.request = (.error error, s')) :
    s' = s := by
  unfold request at h
  split at h
  · cases h
    rfl
  · cases h

theorem names_of_generated {l : List TypeModel} {units : List SourceUnit}
    (h : List.Forall₂ (fun t unit => t.generate = .ok unit) l units) :
    units.map SourceUnit.name = l.map TypeModel.name := by
  induction h with
  | nil => rfl
  | cons hunit _ ih => rw [List.map_cons, List.map_cons, ih, TypeModel.name_of_generate hunit]

theorem exists_generated {l : List TypeModel} {units : List SourceUnit}
    (h : List.Forall₂ (fun t unit => t.generate = .ok unit) l units) {t : TypeModel} (ht : t ∈ l) :
    ∃ unit ∈ units, t.generate = .ok unit := by
  induction h with
  | nil => simp at ht
  | cons hunit _ ih =>
    rcases List.mem_cons.1 ht with rfl | ht
    · exact ⟨_, List.mem_cons_self, hunit⟩
    · obtain ⟨unit, hmem, hgenerate⟩ := ih ht
      exact ⟨unit, List.mem_cons_of_mem _ hmem, hgenerate⟩

theorem exists_of_generated {l : List TypeModel} {units : List SourceUnit}
    (h : List.Forall₂ (fun t unit => t.generate = .ok unit) l units) {unit : SourceUnit} (hunit : unit ∈ units) :
    ∃ t ∈ l, t.generate = .ok unit := by
  induction h with
  | nil => simp at hunit
  | cons hfirst _ ih =>
    rcases List.mem_cons.1 hunit with rfl | hunit
    · exact ⟨_, List.mem_cons_self, hfirst⟩
    · obtain ⟨t, ht, hgenerate⟩ := ih hunit
      exact ⟨t, List.mem_cons_of_mem _ ht, hgenerate⟩

end Schema

end HotSchema
