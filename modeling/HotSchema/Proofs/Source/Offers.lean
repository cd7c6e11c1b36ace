import HotSchema.Proofs.Source.Waiting
import Mathlib.Data.List.Induction
/-!
# The unit offered last

A unit that waits was offered, and no other was offered under its name since, but for those whose text was
waiting already. An offer goes by the digest alone: it is refused if a unit of that digest waits under the name,
and then that unit waits on, whatever its spans. So what waits is the unit offered last exactly if there was no
other unit of its digest to wait on.
-/

namespace HotSchema

namespace Staging

/-- A unit that waits under the name of another and has its digest is like it, as far as `f` can tell. -/
def Alike {α : Type} (s : Staging) (f : SourceUnit → α) (unit : SourceUnit) : Prop :=
  ∀ waiting, s.staged.find? unit.name = some waiting → waiting.digest = unit.digest → f waiting = f unit

instance {α : Type} [DecidableEq α] (s : Staging) (f : SourceUnit → α) (unit : SourceUnit) :
    Decidable (s.Alike f unit) :=
  decidable_of_iff (∀ waiting ∈ s.staged.find? unit.name, waiting.digest = unit.digest → f waiting = f unit)
    Iff.rfl

theorem alike_congr {α : Type} {s s' : Staging} {f : SourceUnit → α} {unit : SourceUnit}
    (h : s.staged.find? unit.name = s'.staged.find? unit.name) : s.Alike f unit ↔ s'.Alike f unit := by
  unfold Alike
  rw [h]

theorem alike_of_offer {s : Staging} {offered unit : SourceUnit}
    (h : (s.offer offered).2.staged.find? offered.name = some unit) :
    unit.digest = offered.digest ∧
      ∀ {α : Type} (f : SourceUnit → α), f unit = f offered ↔ s.Alike f offered := by
  unfold offer at h
  dsimp only at h
  split_ifs at h with hwaits hcompiled
  · obtain ⟨waiting, hfind, hdigest⟩ := Option.map_eq_some_iff.1 hwaits
    cases h.symm.trans hfind
    refine ⟨hdigest, fun f => ⟨fun hsame other hother _ => ?_, fun halike => halike unit hfind hdigest⟩⟩
    cases hfind.symm.trans hother
    exact hsame
  · rw [show (s.staged.erase offered.name).find? offered.name = none from
      (Roster.find?_erase _ _ _).trans (if_pos rfl)] at h
    cases h
  · rw [show (s.staged.insert offered).find? offered.name = some offered from
      (Roster.find?_insert _ _ _).trans (if_pos rfl)] at h
    cases h
    refine ⟨rfl, fun f => ⟨fun _ other hother hdigest => ?_, fun _ => rfl⟩⟩
    exact absurd (Option.map_eq_some_iff.2 ⟨other, hother, hdigest⟩) hwaits

/-! ### A history of offers -/

theorem find?_staged_perform {s : Staging} {call : StagingCall} {name : String}
    (hcall : ∀ offered, call = .offer offered → offered.name ≠ name) {unit : SourceUnit}
    (h : (s.perform call).staged.find? name = some unit) : s.staged.find? name = some unit := by
  cases call with
  | offer offered => rwa [perform, find?_staged_offer_of_ne s (hcall offered rfl).symm] at h
  | forget dropped | stageRemoval dropped =>
    have hkept : (if name = dropped then none else s.staged.find? name) = some unit :=
      (Roster.find?_erase _ _ _).symm.trans h
    split_ifs at hkept
    exact hkept
  | clear | takeDirty | reset => cases h
  | takeRemoved | requestFullRebuild | markCompiled _ | invalidate _ => exact h

/-- What waits in the end was offered once, and what was offered last under its name has its digest. The two are
alike exactly if what waited when the last was offered, of its digest, was like it. -/
theorem offered_last {calls : List StagingCall} {name : String} {unit : SourceUnit}
    (h : (calls.foldl perform empty).staged.find? name = some unit) :
    ∃ before last after, calls = before ++ .offer last :: after ∧ last.name = name ∧
      (∀ other, .offer other ∈ after → other.name ≠ name) ∧ unit.digest = last.digest ∧
      ∀ {α : Type} (f : SourceUnit → α), f unit = f last ↔ (before.foldl perform empty).Alike f last := by
  induction calls using List.reverseRecOn with
  | nil => cases h
  | append_singleton calls call ih =>
    rw [List.foldl_append] at h
    by_cases hcall : ∃ offered, call = .offer offered ∧ offered.name = name
    · obtain ⟨offered, rfl, rfl⟩ := hcall
      obtain ⟨hdigest, halike⟩ := alike_of_offer h
      exact ⟨calls, offered, [], rfl, rfl, by simp, hdigest, halike⟩
    · have hother (offered : SourceUnit) (heq : call = .offer offered) : offered.name ≠ name :=
        fun hname => hcall ⟨offered, heq, hname⟩
      obtain ⟨before, last, after, rfl, hname, hafter, hlast⟩ := ih (find?_staged_perform hother h)
      refine ⟨before, last, after ++ [call], by simp, hname, fun other hmem => ?_, hlast⟩
      rcases List.mem_append.1 hmem with hearlier | hnow
      · exact hafter other hearlier
      · exact hother other (List.mem_singleton.1 hnow).symm

/-! ### A batch -/

theorem find?_staged_offerAll_of_not_mem {s : Staging} {units : List SourceUnit} {name : String}
    (h : name ∉ units.map SourceUnit.name) : (s.offerAll units).staged.find? name = s.staged.find? name := by
  induction units generalizing s with
  | nil => rfl
  | cons unit rest ih =>
    rw [List.map_cons, List.mem_cons, not_or] at h
    rw [offerAll_cons, ih h.2, find?_staged_offer_of_ne s h.1]

theorem alike_of_take {s : Staging} {units : List SourceUnit} {removed : List String} {offered unit : SourceUnit}
    (hnodup : (units.map SourceUnit.name).Nodup) (hoffered : offered ∈ units)
    (h : (s.take units removed).staged.find? offered.name = some unit) :
    unit.digest = offered.digest ∧
      ∀ {α : Type} (f : SourceUnit → α), f unit = f offered ↔ (s.stageRemovals removed).Alike f offered := by
  obtain ⟨left, right, rfl⟩ := List.append_of_mem hoffered
  rw [List.map_append, List.map_cons, List.nodup_middle, List.nodup_cons, List.mem_append, not_or] at hnodup
  obtain ⟨⟨hleft, hright⟩, -⟩ := hnodup
  have hsplit : s.take (left ++ offered :: right) removed =
      ((((s.stageRemovals removed).offerAll left).offer offered).2).offerAll right := by
    rw [take_eq, offerAll, List.foldl_append]
    rfl
  rw [hsplit, find?_staged_offerAll_of_not_mem hright] at h
  obtain ⟨hdigest, halike⟩ := alike_of_offer h
  refine ⟨hdigest, fun f => (halike f).trans (alike_congr ?_)⟩
  exact find?_staged_offerAll_of_not_mem hleft

end Staging

end HotSchema
