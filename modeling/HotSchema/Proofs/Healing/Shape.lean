import HotSchema.Proofs.Healing.Occurrence
/-!
# Where a shape fits

The order of the ways decides which name a pattern reads off a message. Whether the pattern fits at all does not
depend on it: a shape is a set of texts, and it fits a message exactly if one of them stands somewhere in it.

A shape without runs has finitely many texts, up to the case of letters. If such a shape is part of a longer
one, the longer one fits only where one of those texts stands.
-/

namespace HotSchema

namespace Shape

/-- The texts that have the shape. -/
inductive Takes : Shape → List Char → Prop where
  | nothing : Takes nothing []
  | one {c : CharClass} {x : Char} (h : c.has x = true) : Takes (one c) [x]
  | run {c : CharClass} {s : List Char} (h : ∀ x ∈ s, c.has x = true) : Takes (run c) s
  | seq {first next : Shape} {s t : List Char} (hfirst : Takes first s) (hnext : Takes next t) :
    Takes (seq first next) (s ++ t)
  | first {first second : Shape} {s : List Char} (h : Takes first s) : Takes (choice first second) s
  | second {first second : Shape} {s : List Char} (h : Takes second s) : Takes (choice first second) s
  | present {shape : Shape} {s : List Char} (h : Takes shape s) : Takes (optional shape) s
  | absent {shape : Shape} : Takes (optional shape) []
  | named {shape : Shape} {s : List Char} (h : Takes shape s) : Takes (named shape) s

/-! ### Texts and fits -/

theorem Has.takes {shape : Shape} {f : Fit} (h : shape.Has f) : shape.Takes f.text := by
  induction h with
  | nothing => exact .nothing
  | one hx => exact .one hx
  | run hall => exact .run hall
  | seq _ _ ihFirst ihNext => exact .seq ihFirst ihNext
  | first _ ih => exact .first ih
  | second _ ih => exact .second ih
  | present _ ih => exact .present ih
  | absent => exact .absent
  | named _ ih => exact .named ih

theorem Takes.exists_has {shape : Shape} {s : List Char} (h : shape.Takes s) : ∃ f, shape.Has f ∧ f.text = s := by
  induction h with
  | nothing => exact ⟨.nothing, .nothing, rfl⟩
  | @one _ x hx => exact ⟨.one x, .one hx, rfl⟩
  | @run _ s hall => exact ⟨.run s, .run hall, rfl⟩
  | seq _ _ ihFirst ihNext =>
    obtain ⟨f, hf, rfl⟩ := ihFirst
    obtain ⟨g, hg, rfl⟩ := ihNext
    exact ⟨.seq f g, .seq hf hg, rfl⟩
  | first _ ih =>
    obtain ⟨f, hf, rfl⟩ := ih
    exact ⟨.first f, .first hf, rfl⟩
  | second _ ih =>
    obtain ⟨f, hf, rfl⟩ := ih
    exact ⟨.second f, .second hf, rfl⟩
  | present _ ih =>
    obtain ⟨f, hf, rfl⟩ := ih
    exact ⟨.present f, .present hf, rfl⟩
  | absent => exact ⟨.absent, .absent, rfl⟩
  | named _ ih =>
    obtain ⟨f, hf, rfl⟩ := ih
    exact ⟨.named f, .named hf, rfl⟩

/-- A shape fits a message exactly if one of its texts stands in it. -/
theorem firstWay_isSome_iff {shape : Shape} {s : List Char} :
    (shape.firstWay s).isSome = true ↔ ∃ taken, shape.Takes taken ∧ taken <:+: s := by
  rw [firstWay_isSome_iff_occurs]
  constructor
  · rintro ⟨before, f, after, hhas, rfl⟩
    exact ⟨f.text, hhas.takes, before, after, List.append_assoc _ _ _⟩
  · rintro ⟨taken, htakes, before, after, rfl⟩
    obtain ⟨f, hhas, rfl⟩ := htakes.exists_has
    exact ⟨before, f, after, hhas, List.append_assoc _ _ _⟩

/-! ### Shapes that are built -/

theorem takes_text (s : String) : (text s).Takes s.toList := by
  unfold text
  induction s.toList with
  | nil => exact .nothing
  | cons c rest ih => exact .seq (.one (by simp [CharClass.has])) ih

theorem takes_runs {c : CharClass} {s : List Char} (hs : s ≠ []) (hall : ∀ x ∈ s, c.has x = true) :
    (runs c).Takes s := by
  obtain ⟨x, rest, rfl⟩ := List.exists_cons_of_ne_nil hs
  obtain ⟨hfirst, hothers⟩ := List.forall_mem_cons.1 hall
  exact .seq (.one hfirst) (.run hothers)

theorem takes_nameOf {c : CharClass} {s : List Char} (h : (runs c).Takes s) : (nameOf c).Takes s := by
  have htakes : (nameOf c).Takes ([] ++ (s ++ ([] ++ []))) := .seq .absent (.seq (.named h) (.seq .absent .nothing))
  simpa using htakes

theorem takes_quoted {c : CharClass} {s : List Char} (h : (runs c).Takes s) :
    (nameOf c).Takes (['`'] ++ (s ++ ['`'])) := by
  have hquote : backtick.Takes ['`'] := .present (takes_text "`")
  exact .seq hquote (.seq (.named h) (.seq hquote .nothing))

/-! ### Texts that cannot be missing -/

/-- A text in lower case. -/
def folded (s : List Char) : List Char := s.map foldCase

@[simp] theorem folded_append (s t : List Char) : folded (s ++ t) = folded s ++ folded t := List.map_append

/-- The texts of a shape in lower case; none are given for a shape with a run or a class. -/
def literals : Shape → Option (List (List Char))
  | nothing => some [[]]
  | one (.letter c) => some [[foldCase c]]
  | one _ => none
  | run _ => none
  | seq first next =>
    first.literals.bind fun befores =>
      next.literals.map fun afters => befores.flatMap fun before => afters.map (before ++ ·)
  | choice first second => first.literals.bind fun these => second.literals.map (these ++ ·)
  | optional s => s.literals.map (· ++ [[]])
  | named s => s.literals

theorem Takes.folded_mem_literals {shape : Shape} {s : List Char} (h : shape.Takes s) {keys : List (List Char)}
    (hkeys : shape.literals = some keys) : folded s ∈ keys := by
  induction h generalizing keys with
  | nothing =>
    cases hkeys
    exact List.mem_cons_self
  | @one c x hfirst =>
    cases c with
    | letter c =>
      cases hkeys
      have hsame : foldCase x = foldCase c := by simpa [CharClass.has] using hfirst
      simp [folded, hsame]
    | blank | word | dotted | inParens => cases hkeys
  | run => cases hkeys
  | seq _ _ ihFirst ihNext =>
    obtain ⟨befores, hbefores, hkeys⟩ := Option.bind_eq_some_iff.1 hkeys
    obtain ⟨afters, hafters, rfl⟩ := Option.map_eq_some_iff.1 hkeys
    rw [folded_append]
    exact List.mem_flatMap.2 ⟨_, ihFirst hbefores, List.mem_map_of_mem (ihNext hafters)⟩
  | first _ ih =>
    obtain ⟨these, hthese, hkeys⟩ := Option.bind_eq_some_iff.1 hkeys
    obtain ⟨those, -, rfl⟩ := Option.map_eq_some_iff.1 hkeys
    exact List.mem_append_left _ (ih hthese)
  | second _ ih =>
    obtain ⟨these, -, hkeys⟩ := Option.bind_eq_some_iff.1 hkeys
    obtain ⟨those, hthose, rfl⟩ := Option.map_eq_some_iff.1 hkeys
    exact List.mem_append_right _ (ih hthose)
  | present _ ih =>
    obtain ⟨those, hthose, rfl⟩ := Option.map_eq_some_iff.1 hkeys
    exact List.mem_append_left _ (ih hthose)
  | absent =>
    obtain ⟨those, -, rfl⟩ := Option.map_eq_some_iff.1 hkeys
    exact List.mem_append_right _ List.mem_cons_self
  | named _ ih => exact ih hkeys

/-- One of the keys stands in every text of the shape. -/
def Mentions (shape : Shape) (keys : List (List Char)) : Prop :=
  ∀ s, shape.Takes s → ∃ key ∈ keys, key <:+: folded s

section

variable {first next shape : Shape} {keys : List (List Char)}

theorem mentions_literals (hkeys : shape.literals = some keys) : shape.Mentions keys :=
  fun _ htakes => ⟨_, htakes.folded_mem_literals hkeys, List.infix_refl _⟩

theorem Mentions.before (h : first.Mentions keys) (next : Shape) : (seq first next).Mentions keys := by
  rintro _ (_ | _ | _ | ⟨hfirst, -⟩)
  obtain ⟨key, hkey, hstands⟩ := h _ hfirst
  refine ⟨key, hkey, ?_⟩
  rw [folded_append]
  exact hstands.trans (List.prefix_append _ _).isInfix

theorem Mentions.after (h : next.Mentions keys) (first : Shape) : (seq first next).Mentions keys := by
  rintro _ (_ | _ | _ | ⟨-, hnext⟩)
  obtain ⟨key, hkey, hstands⟩ := h _ hnext
  refine ⟨key, hkey, ?_⟩
  rw [folded_append]
  exact hstands.trans (List.suffix_append _ _).isInfix

/-- A shape that mentions keys does not fit a message without them. -/
theorem Mentions.firstWay_eq_none (h : shape.Mentions keys) {s : List Char}
    (hmissing : ∀ key ∈ keys, ¬ key <:+: folded s) : shape.firstWay s = none := by
  rw [← Option.not_isSome_iff_eq_none, firstWay_isSome_iff]
  rintro ⟨taken, htakes, before, after, rfl⟩
  obtain ⟨key, hkey, hstands⟩ := h taken htakes
  refine hmissing key hkey (hstands.trans ⟨folded before, folded after, ?_⟩)
  rw [folded_append, folded_append]

end

end Shape

end HotSchema
