import HotSchema.Proofs.Healing.Letters
import HotSchema.Proofs.Healing.Shape
/-!
# Texts of a shape and the names in them

A shape built from parts reads a text part by part. Parts that hold no name only take their share of the text, and such a
part without runs takes just the words that it spells.
-/

namespace HotSchema.Shape

/-- The text has the shape, with that name in it. -/
def Reads (shape : Shape) (text : List Char) (name : Option (List Char)) : Prop :=
  ∃ f, shape.Has f ∧ f.text = text ∧ f.name = name

/-- No part of the shape is wanted as a name. -/
def isPlain : Shape → Bool
  | nothing => true
  | one _ => true
  | run _ => true
  | seq first next => first.isPlain && next.isPlain
  | choice first second => first.isPlain && second.isPlain
  | optional shape => shape.isPlain
  | named _ => false

theorem Has.name_eq_none {shape : Shape} {f : Fit} (h : shape.Has f) (hplain : shape.isPlain = true) : f.name = none := by
  induction h with
  | nothing | one _ | run _ | absent => rfl
  | seq _ _ ihFirst ihNext =>
    obtain ⟨hfirst, hnext⟩ := Bool.and_eq_true_iff.1 hplain
    rw [Fit.name, ihFirst hfirst, ihNext hnext]
    rfl
  | first _ ih => exact ih (Bool.and_eq_true_iff.1 hplain).1
  | second _ ih => exact ih (Bool.and_eq_true_iff.1 hplain).2
  | present _ ih => exact ih hplain
  | named _ _ => cases hplain

section

variable {first next shape : Shape} {c : CharClass} {s : List Char} {name : Option (List Char)}

theorem reads_seq_of_plain (hplain : first.isPlain = true) :
    (seq first next).Reads s name ↔ ∃ before after, s = before ++ after ∧ first.Takes before ∧ next.Reads after name := by
  constructor
  · rintro ⟨_, ⟨⟩, rfl, rfl⟩
    next f g hf hg =>
    refine ⟨f.text, g.text, rfl, hf.takes, g, hg, rfl, ?_⟩
    rw [Fit.name, hf.name_eq_none hplain, Option.or_none]
  · rintro ⟨_, _, rfl, hfirst, g, hg, rfl, rfl⟩
    obtain ⟨f, hf, rfl⟩ := hfirst.exists_has
    refine ⟨.seq f g, .seq hf hg, rfl, ?_⟩
    rw [Fit.name, hf.name_eq_none hplain, Option.or_none]

theorem reads_before_plain (hplain : next.isPlain = true) :
    (seq first next).Reads s name ↔ ∃ before after, s = before ++ after ∧ first.Reads before name ∧ next.Takes after := by
  constructor
  · rintro ⟨_, ⟨⟩, rfl, rfl⟩
    next f g hf hg =>
    refine ⟨f.text, g.text, rfl, ⟨f, hf, rfl, ?_⟩, hg.takes⟩
    rw [Fit.name, hg.name_eq_none hplain, Option.none_or]
  · rintro ⟨_, _, rfl, ⟨f, hf, rfl, rfl⟩, hnext⟩
    obtain ⟨g, hg, rfl⟩ := hnext.exists_has
    refine ⟨.seq f g, .seq hf hg, rfl, ?_⟩
    rw [Fit.name, hg.name_eq_none hplain, Option.none_or]

theorem reads_named_iff : (named shape).Reads s name ↔ shape.Takes s ∧ name = some s := by
  constructor
  · rintro ⟨_, ⟨⟩, rfl, rfl⟩
    next f hf => exact ⟨hf.takes, rfl⟩
  · rintro ⟨htakes, rfl⟩
    obtain ⟨f, hf, rfl⟩ := htakes.exists_has
    exact ⟨.named f, .named hf, rfl, rfl⟩

theorem takes_seq_iff :
    (seq first next).Takes s ↔ ∃ before after, s = before ++ after ∧ first.Takes before ∧ next.Takes after := by
  constructor
  · rintro (_ | _ | _ | ⟨hfirst, hnext⟩)
    exact ⟨_, _, rfl, hfirst, hnext⟩
  · rintro ⟨_, _, rfl, hfirst, hnext⟩
    exact .seq hfirst hnext

theorem takes_nothing_iff : nothing.Takes s ↔ s = [] := by
  constructor
  · rintro ⟨⟩
    rfl
  · rintro rfl
    exact .nothing

theorem takes_seq_nothing_iff : (seq first nothing).Takes s ↔ first.Takes s := by
  rw [takes_seq_iff]
  constructor
  · rintro ⟨before, after, rfl, hfirst, hnothing⟩
    rwa [takes_nothing_iff.1 hnothing, List.append_nil]
  · intro h
    exact ⟨s, [], (List.append_nil s).symm, h, .nothing⟩

theorem reads_seq_nothing_iff : (seq first nothing).Reads s name ↔ first.Reads s name := by
  rw [reads_before_plain rfl]
  constructor
  · rintro ⟨before, after, rfl, hfirst, hnothing⟩
    rwa [takes_nothing_iff.1 hnothing, List.append_nil]
  · intro h
    exact ⟨s, [], (List.append_nil s).symm, h, .nothing⟩

theorem takes_optional_iff : (optional shape).Takes s ↔ s = [] ∨ shape.Takes s := by
  constructor
  · intro h
    cases h with
    | present h => exact Or.inr h
    | absent => exact Or.inl rfl
  · rintro (rfl | h)
    · exact .absent
    · exact .present h

theorem takes_run_iff : (run c).Takes s ↔ ∀ x ∈ s, c.has x = true := by
  constructor
  · intro h
    cases h with
    | run hall => exact hall
  · exact .run

theorem takes_runs_iff : (runs c).Takes s ↔ s ≠ [] ∧ ∀ x ∈ s, c.has x = true := by
  constructor
  · intro h
    obtain ⟨_, _, rfl, hone, hrun⟩ := takes_seq_iff.1 h
    cases hone with
    | one hx => exact ⟨List.cons_ne_nil _ _, List.forall_mem_cons.2 ⟨hx, takes_run_iff.1 hrun⟩⟩
  · rintro ⟨hs, hall⟩
    exact takes_runs hs hall

end

/-! ### Words -/

/-- A shape with finitely many texts has those that agree with one of them, up to the case of letters. -/
theorem takes_iff_folded_mem {shape : Shape} {s : List Char} {keys : List (List Char)} (hkeys : shape.literals = some keys) :
    shape.Takes s ↔ folded s ∈ keys := by
  refine ⟨fun h => h.folded_mem_literals hkeys, fun h => ?_⟩
  induction shape generalizing s keys with
  | nothing =>
    cases hkeys
    rw [List.map_eq_nil_iff.1 (List.mem_singleton.1 h)]
    exact .nothing
  | one c =>
    cases c with
    | letter c =>
      cases hkeys
      obtain ⟨x, rfl, hx⟩ := List.map_eq_singleton_iff.1 (List.mem_singleton.1 h)
      exact .one (by simp [CharClass.has, hx])
    | blank | word | dotted | inParens => cases hkeys
  | run c => cases hkeys
  | seq first next ihFirst ihNext =>
    obtain ⟨befores, hbefores, hkeys⟩ := Option.bind_eq_some_iff.1 hkeys
    obtain ⟨afters, hafters, rfl⟩ := Option.map_eq_some_iff.1 hkeys
    obtain ⟨before, hbefore, h⟩ := List.mem_flatMap.1 h
    obtain ⟨after, hafter, h⟩ := List.mem_map.1 h
    obtain ⟨s, t, rfl, rfl, rfl⟩ := List.map_eq_append_iff.1 h.symm
    exact .seq (ihFirst hbefores hbefore) (ihNext hafters hafter)
  | choice first second ihFirst ihSecond =>
    obtain ⟨these, hthese, hkeys⟩ := Option.bind_eq_some_iff.1 hkeys
    obtain ⟨those, hthose, rfl⟩ := Option.map_eq_some_iff.1 hkeys
    rcases List.mem_append.1 h with h | h
    · exact .first (ihFirst hthese h)
    · exact .second (ihSecond hthose h)
  | optional shape ih =>
    obtain ⟨those, hthose, rfl⟩ := Option.map_eq_some_iff.1 hkeys
    rcases List.mem_append.1 h with h | h
    · exact .present (ih hthose h)
    · rw [List.map_eq_nil_iff.1 (List.mem_singleton.1 h)]
      exact .absent
  | named shape ih => exact .named (ih hkeys h)

/-- The words are written in small letters. -/
def IsSmall (words : List String) : Prop := ∀ word ∈ words, folded word.toList = word.toList

instance (words : List String) : Decidable (IsSmall words) := inferInstanceAs (Decidable (∀ word ∈ words, _))

theorem takes_iff_spells {shape : Shape} {s : List Char} {words : List String} (hsmall : IsSmall words)
    (hwords : shape.literals = some (words.map String.toList)) : shape.Takes s ↔ SpellsOne words s := by
  rw [takes_iff_folded_mem hwords, List.mem_map]
  refine exists_congr fun word => and_congr_right fun hword => ?_
  rw [Spells, forall₂_formOf_iff (hsmall word hword), eq_comm]
  rfl

/-- A sign has no form but itself. -/
def IsSign (c : Char) : Prop := foldCase c = c ∧ c.toUpper = c ∧ c ≠ 'k' ∧ c ≠ 's'

instance (c : Char) : Decidable (IsSign c) := inferInstanceAs (Decidable (_ ∧ _))

theorem foldCase_eq_sign_iff {c x : Char} (h : IsSign c) : foldCase x = c ↔ x = c := by
  obtain ⟨hsmall, hupper, hk, hs⟩ := h
  rw [foldCase_eq_iff hsmall, FormOf, hupper]
  simp [hk, hs]

theorem takes_sign_iff {sign : String} {c : Char} {s : List Char} (hsign : sign.toList = [c]) (hc : IsSign c) :
    (text sign).Takes s ↔ s = [c] := by
  have hkeys : (text sign).literals = some [[c]] := by simp [text, hsign, literals, hc.1]
  rw [takes_iff_folded_mem hkeys, List.mem_singleton, folded, List.map_eq_singleton_iff]
  constructor
  · rintro ⟨x, rfl, hx⟩
    rw [(foldCase_eq_sign_iff hc).1 hx]
  · rintro rfl
    exact ⟨c, rfl, hc.1⟩

theorem takes_optional_sign_iff {sign : String} {c : Char} {s : List Char} (hsign : sign.toList = [c]) (hc : IsSign c) :
    (optional (text sign)).Takes s ↔ s = [] ∨ s = [c] := by
  rw [takes_optional_iff, takes_sign_iff hsign hc]

end HotSchema.Shape
