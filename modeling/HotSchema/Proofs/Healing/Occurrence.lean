import HotSchema.Proofs.Healing.Fit
/-!
# Occurrences of a shape in a message

A shape occurs where one of its fits stands in the message. Of all occurrences one counts: it begins at the leftmost
place, and its fit is better than every other there. A search finds nothing exactly if there is no occurrence, and else
it finds the one that counts.
-/

namespace HotSchema.Shape

/-- The fit stands in the message, between what is before it and after it. -/
structure Occurs (shape : Shape) (message before : List Char) (f : Fit) (after : List Char) : Prop where
  has : shape.Has f
  stands : message = before ++ (f.text ++ after)

/-- No occurrence begins further left, and none that begins at the same place has a better fit. -/
structure Counts (shape : Shape) (message before : List Char) (f : Fit) (after : List Char) : Prop extends
    shape.Occurs message before f after where
  leftmost : ∀ before' g after', shape.Occurs message before' g after' → before.length ≤ before'.length
  best : ∀ g after', shape.Occurs message before g after' → g = f ∨ f.Better g

variable {shape : Shape} {message before after : List Char} {f : Fit}

theorem occurs_nil_iff : (∃ after, shape.Occurs message [] f after) ↔ f ∈ shape.fitsAt message := by
  rw [mem_fitsAt_iff]
  constructor
  · rintro ⟨after, hhas, hstands⟩
    exact ⟨hhas, after, hstands.symm⟩
  · rintro ⟨hhas, after, hstands⟩
    exact ⟨after, hhas, hstands.symm⟩

theorem Counts.unique {before' after' : List Char} {g : Fit} (hf : shape.Counts message before f after)
    (hg : shape.Counts message before' g after') : before = before' ∧ f = g ∧ after = after' := by
  have hlength : before.length = before'.length :=
    Nat.le_antisymm (hf.leftmost _ _ _ hg.toOccurs) (hg.leftmost _ _ _ hf.toOccurs)
  obtain ⟨rfl, hrest⟩ := List.append_inj (hf.stands.symm.trans hg.stands) hlength
  have hfit : f = g := by
    rcases hf.best _ _ hg.toOccurs with heq | hbetter
    · exact heq.symm
    · rcases hg.best _ _ hf.toOccurs with heq | hbetter'
      · exact heq
      · exact absurd hbetter' hbetter.asymm
  subst hfit
  exact ⟨rfl, rfl, List.append_cancel_left hrest⟩

/-! ### The search -/

theorem firstWay_of_fitsAt {rest : List Fit} (h : shape.fitsAt message = f :: rest) :
    shape.firstWay message = some (f.way ⟨message, none⟩) := by
  unfold firstWay
  rw [ways_eq, h]
  rfl

theorem firstWay_nil (h : shape.fitsAt [] = []) : shape.firstWay [] = none := by
  unfold firstWay
  rw [ways_eq, h]
  rfl

theorem firstWay_cons {c : Char} (h : shape.fitsAt (c :: message) = []) :
    shape.firstWay (c :: message) = shape.firstWay message := by
  rw [firstWay, ways_eq, h]
  rfl

/-- Where nothing fits at the start, an occurrence begins further right. -/
theorem Occurs.exists_cons (h : shape.Occurs message before f after) (hnone : shape.fitsAt message = []) :
    ∃ c message' before', message = c :: message' ∧ before = c :: before' ∧ shape.Occurs message' before' f after := by
  rcases before with _ | ⟨c, before'⟩
  · have hmem := occurs_nil_iff.1 ⟨after, h⟩
    rw [hnone] at hmem
    cases hmem
  · obtain ⟨hhas, rfl⟩ := h
    exact ⟨c, _, before', rfl, rfl, hhas, rfl⟩

/-- The best of the fits at the start of the message is the first of them. -/
theorem counts_of_fitsAt {rest : List Fit} (h : shape.fitsAt message = f :: rest) :
    ∃ after, shape.Counts message [] f after := by
  obtain ⟨after, hoccurs⟩ := occurs_nil_iff.2 (h ▸ List.mem_cons_self)
  have hbest := (List.pairwise_cons.1 (h ▸ pairwise_fitsAt shape message)).1
  refine ⟨after, hoccurs, fun _ _ _ _ => Nat.zero_le _, fun g after' hg => ?_⟩
  have hmem := occurs_nil_iff.1 ⟨after', hg⟩
  rw [h] at hmem
  rcases List.mem_cons.1 hmem with rfl | hmem
  · exact Or.inl rfl
  · exact Or.inr (hbest g hmem)

theorem Counts.cons {c : Char} (h : shape.Counts message before f after) (hnone : shape.fitsAt (c :: message) = []) :
    shape.Counts (c :: message) (c :: before) f after := by
  refine ⟨⟨h.has, congrArg (c :: ·) h.stands⟩, fun before' g after' hg => ?_, fun g after' hg => ?_⟩
  · obtain ⟨_, _, rest, heq, rfl, hrest⟩ := hg.exists_cons hnone
    cases heq
    exact Nat.succ_le_succ (h.leftmost _ _ _ hrest)
  · obtain ⟨_, _, _, heq, hbefore, hrest⟩ := hg.exists_cons hnone
    cases heq
    cases hbefore
    exact h.best g after' hrest

theorem not_occurs_of_firstWay_eq_none (h : shape.firstWay message = none) : ¬ shape.Occurs message before f after := by
  intro hoccurs
  induction message generalizing before with
  | nil =>
    rcases hfits : shape.fitsAt [] with _ | ⟨g, rest⟩
    · obtain ⟨c, message', _, heq, -⟩ := hoccurs.exists_cons hfits
      cases heq
    · rw [firstWay_of_fitsAt hfits] at h
      cases h
  | cons c message ih =>
    rcases hfits : shape.fitsAt (c :: message) with _ | ⟨g, rest⟩
    · obtain ⟨_, _, _, heq, -, hrest⟩ := hoccurs.exists_cons hfits
      cases heq
      exact ih (firstWay_cons hfits ▸ h) hrest
    · rw [firstWay_of_fitsAt hfits] at h
      cases h

/-- What a search finds is the occurrence that counts. -/
theorem counts_of_firstWay {w : Way} (h : shape.firstWay message = some w) :
    ∃ before f after, shape.Counts message before f after ∧ w.symbol = f.name.map String.ofList := by
  have hstart {message : List Char} {f : Fit} {rest : List Fit} (hfits : shape.fitsAt message = f :: rest)
      (hw : shape.firstWay message = some w) :
      ∃ before f after, shape.Counts message before f after ∧ w.symbol = f.name.map String.ofList := by
    obtain ⟨after, hcounts⟩ := counts_of_fitsAt hfits
    have hprefix : f.text <+: message := ⟨after, hcounts.stands.symm⟩
    refine ⟨[], f, after, hcounts, ?_⟩
    rw [firstWay_of_fitsAt hfits] at hw
    cases hw
    rw [Fit.symbol_way (w := ⟨message, none⟩) hprefix]
    exact Option.or_none
  induction message with
  | nil =>
    rcases hfits : shape.fitsAt [] with _ | ⟨f, rest⟩
    · rw [firstWay_nil hfits] at h
      cases h
    · exact hstart hfits h
  | cons c message ih =>
    rcases hfits : shape.fitsAt (c :: message) with _ | ⟨f, rest⟩
    · obtain ⟨before, f, after, hcounts, hsymbol⟩ := ih (firstWay_cons hfits ▸ h)
      exact ⟨c :: before, f, after, hcounts.cons hfits, hsymbol⟩
    · exact hstart hfits h

theorem firstWay_isSome_iff_occurs :
    (shape.firstWay message).isSome = true ↔ ∃ before f after, shape.Occurs message before f after := by
  constructor
  · intro h
    obtain ⟨w, hw⟩ := Option.isSome_iff_exists.1 h
    obtain ⟨before, f, after, hcounts, -⟩ := counts_of_firstWay hw
    exact ⟨before, f, after, hcounts.toOccurs⟩
  · rintro ⟨before, f, after, hoccurs⟩
    rw [Option.isSome_iff_ne_none]
    exact fun hnone => not_occurs_of_firstWay_eq_none hnone hoccurs

/-- The symbol that a search finds is the name in the occurrence that counts. -/
theorem Counts.symbol_firstWay (h : shape.Counts message before f after) :
    (shape.firstWay message).map Way.symbol = some (f.name.map String.ofList) := by
  obtain ⟨w, hw⟩ := Option.isSome_iff_exists.1 (firstWay_isSome_iff_occurs.2 ⟨before, f, after, h.toOccurs⟩)
  obtain ⟨before', g, after', hcounts, hsymbol⟩ := counts_of_firstWay hw
  obtain ⟨-, rfl, -⟩ := h.unique hcounts
  rw [hw, Option.map_some, hsymbol]

end HotSchema.Shape
