import HotSchema.Proofs.Text.Cut
/-!
# Runs of characters

A run is a stretch of a text whose characters are all of one class and that cannot be made longer: no character of the
class is next to it on either side. A text that is cut at every character of another class falls into its runs, in their
order, with empty segments between them, so what is looked for among the segments is found at the first run that it is.
-/

namespace HotSchema.Text

/-- The run stands in the text, between what is before it and after it. -/
structure MaximalRun (ofClass : Char → Bool) (s before run after : List Char) : Prop where
  stands : s = before ++ (run ++ after)
  ne_nil : run ≠ []
  inside : ∀ c ∈ run, ofClass c = true
  left : ∀ c ∈ before.getLast?, ofClass c = false
  right : ∀ c ∈ after.head?, ofClass c = false

/-- The run is one that is looked for, and none of those begins further left. -/
structure FirstRun (ofClass : Char → Bool) (Wanted : List Char → Prop) (s before run after : List Char) : Prop extends
    MaximalRun ofClass s before run after where
  wanted : Wanted run
  first : ∀ before' run' after', MaximalRun ofClass s before' run' after' → Wanted run' → before.length ≤ before'.length

variable {ofClass : Char → Bool} {s word rest before run after : List Char} {c : Char}

/-! ### Where the runs are -/

theorem MaximalRun.takeWhile_eq (h : MaximalRun ofClass s before run after) :
    (run ++ after).takeWhile ofClass = run := by
  have hafter : after.takeWhile ofClass = [] := by
    rcases after with _ | ⟨c, after⟩
    · rfl
    · exact List.takeWhile_cons_of_neg (by simp [h.right c rfl])
  rw [List.takeWhile_append_of_pos h.inside, hafter, List.append_nil]

/-- A run that begins within a stretch of the class at the start of the text begins the text. -/
theorem MaximalRun.eq_nil_of_prefix (h : MaximalRun ofClass s before run after) (hword : ∀ c ∈ word, ofClass c = true)
    (hbefore : before <+: word) : before = [] := by
  by_contra hne
  have hclass := hword _ (hbefore.subset (List.getLast_mem hne))
  rw [h.left _ (List.getLast?_eq_some_getLast hne)] at hclass
  cases hclass

theorem MaximalRun.eq_of_length {before' run' after' : List Char} (h : MaximalRun ofClass s before run after)
    (h' : MaximalRun ofClass s before' run' after') (hlength : before.length = before'.length) : run = run' := by
  obtain ⟨-, hrest⟩ := List.append_inj (h.stands.symm.trans h'.stands) hlength
  rw [← h.takeWhile_eq, hrest, h'.takeWhile_eq]

theorem maximalRun_whole (hword : ∀ c ∈ word, ofClass c = true) (hne : word ≠ []) : MaximalRun ofClass word [] word [] :=
  ⟨by simp, hne, hword, by simp, by simp⟩

/-- The runs are what stands before the first character of another class, unless that is nothing, and those behind it. -/
theorem maximalRun_cut_iff (hword : ∀ d ∈ word, ofClass d = true) (hc : ofClass c = false) :
    MaximalRun ofClass (word ++ c :: rest) before run after ↔
      (before = [] ∧ run = word ∧ after = c :: rest ∧ word ≠ []) ∨
      ∃ before', before = word ++ c :: before' ∧ MaximalRun ofClass rest before' run after := by
  constructor
  · intro h
    rcases List.append_eq_append_iff.1 h.stands with ⟨between, hbefore, hrest⟩ | ⟨between, hbefore, hrest⟩
    · rcases between with _ | ⟨d, before'⟩
      · -- The run would begin with the character of another class.
        obtain ⟨d, run', rfl⟩ := List.exists_cons_of_ne_nil h.ne_nil
        cases hrest
        rw [h.inside c List.mem_cons_self] at hc
        cases hc
      · cases hrest
        refine Or.inr ⟨before', hbefore, rfl, h.ne_nil, h.inside, ?_, h.right⟩
        intro e he
        apply h.left
        rw [hbefore, List.getLast?_append_cons, List.getLast?_cons, Option.mem_def.1 he]
        rfl
    · have hnil := h.eq_nil_of_prefix hword ⟨between, hbefore.symm⟩
      have hstands : run ++ after = word ++ c :: rest := by rw [h.stands, hnil, List.nil_append]
      have hrun : run = word := by
        rw [← h.takeWhile_eq, hstands, List.takeWhile_append_of_pos hword, List.takeWhile_cons_of_neg (by simp [hc]),
          List.append_nil]
      subst hrun
      exact Or.inl ⟨hnil, rfl, List.append_cancel_left hstands, h.ne_nil⟩
  · rintro (⟨rfl, rfl, rfl, hne⟩ | ⟨before', rfl, h⟩)
    · exact ⟨rfl, hne, hword, by simp, by simp [hc]⟩
    · refine ⟨by simp [h.stands], h.ne_nil, h.inside, ?_, h.right⟩
      intro d hd
      rw [List.getLast?_append_cons, List.getLast?_cons, Option.mem_some_iff] at hd
      rcases hlast : before'.getLast? with _ | e <;> rw [hlast] at hd
      · exact hd ▸ hc
      · exact hd ▸ h.left e hlast

/-! ### What is found among the segments -/

theorem MaximalRun.mem_segments (h : MaximalRun ofClass s before run after) :
    run ∈ segments (fun c => !ofClass c) s := by
  induction s using induction_on_cuts (fun c => !ofClass c) generalizing before with
  | whole word hword =>
    have hinside : ∀ c ∈ word, ofClass c = true := by simpa using hword
    have hnil := h.eq_nil_of_prefix hinside ⟨_, h.stands.symm⟩
    have hne : word ≠ [] := by
      rw [h.stands]
      simp [h.ne_nil]
    rw [segments_of_free hword, h.eq_of_length (maximalRun_whole hinside hne) (by rw [hnil])]
    exact List.mem_cons_self
  | cut word c rest hword hc ih =>
    rw [segments_cut hword hc]
    rcases (maximalRun_cut_iff (by simpa using hword) (by simpa using hc)).1 h with ⟨-, rfl, -, -⟩ | ⟨before', -, hrest⟩
    · exact List.mem_cons_self
    · exact List.mem_cons_of_mem _ (ih hrest)

section

variable {Wanted : List Char → Prop} {test : List Char → Bool}

theorem FirstRun.unique {before' run' after' : List Char} (h : FirstRun ofClass Wanted s before run after)
    (h' : FirstRun ofClass Wanted s before' run' after') : run = run' := by
  apply h.eq_of_length h'.toMaximalRun
  apply Nat.le_antisymm
  · exact h.first _ _ _ h'.toMaximalRun h'.wanted
  · exact h'.first _ _ _ h.toMaximalRun h.wanted

variable (htest : ∀ word, (∀ c ∈ word, ofClass c = true) → (test word = true ↔ word ≠ [] ∧ Wanted word))
include htest

theorem exists_firstRun (h : (segments (fun c => !ofClass c) s).find? test = some run) :
    ∃ before after, FirstRun ofClass Wanted s before run after := by
  induction s using induction_on_cuts (fun c => !ofClass c) with
  | whole word hword =>
    have hinside : ∀ c ∈ word, ofClass c = true := by simpa using hword
    rw [segments_of_free hword] at h
    cases List.mem_singleton.1 (List.mem_of_find?_eq_some h)
    obtain ⟨hne, hwanted⟩ := (htest run hinside).1 (List.find?_some h)
    exact ⟨[], [], maximalRun_whole hinside hne, hwanted, fun _ _ _ _ _ => Nat.zero_le _⟩
  | cut word c rest hword hc ih =>
    have hinside : ∀ d ∈ word, ofClass d = true := by simpa using hword
    have hcuts : ofClass c = false := by simpa using hc
    rw [segments_cut hword hc, List.find?_cons] at h
    split at h
    · next hpasses =>
      cases h
      obtain ⟨hne, hwanted⟩ := (htest run hinside).1 hpasses
      have hrun : MaximalRun ofClass (run ++ c :: rest) [] run (c :: rest) :=
        (maximalRun_cut_iff hinside hcuts).2 (Or.inl ⟨rfl, rfl, rfl, hne⟩)
      exact ⟨[], c :: rest, hrun, hwanted, fun _ _ _ _ _ => Nat.zero_le _⟩
    · next hfails =>
      obtain ⟨before, after, hfirst⟩ := ih h
      have hrun := (maximalRun_cut_iff hinside hcuts).2 (Or.inr ⟨before, rfl, hfirst.toMaximalRun⟩)
      refine ⟨word ++ c :: before, after, hrun, hfirst.wanted, ?_⟩
      intro before' run' after' hrun' hwanted'
      rcases (maximalRun_cut_iff hinside hcuts).1 hrun' with ⟨-, rfl, -, hne⟩ | ⟨before', rfl, hrest⟩
      · rw [(htest _ hinside).2 ⟨hne, hwanted'⟩] at hfails
        cases hfails
      · have hle := hfirst.first _ _ _ hrest hwanted'
        simp only [List.length_append, List.length_cons]
        omega

/-- A test that the runs looked for pass, and no other segment, finds nothing exactly if there is none of them. -/
theorem find?_segments_eq_none_iff :
    (segments (fun c => !ofClass c) s).find? test = none ↔
      ∀ before run after, MaximalRun ofClass s before run after → ¬ Wanted run := by
  constructor
  · intro hnone before run after hrun hwanted
    have hfails := List.find?_eq_none.1 hnone run hrun.mem_segments
    exact hfails ((htest run hrun.inside).2 ⟨hrun.ne_nil, hwanted⟩)
  · intro hunwanted
    rcases hfind : (segments (fun c => !ofClass c) s).find? test with _ | run
    · rfl
    · obtain ⟨before, after, hfirst⟩ := exists_firstRun htest hfind
      exact absurd hfirst.wanted (hunwanted before run after hfirst.toMaximalRun)

/-- What such a test finds is the first of them. -/
theorem find?_segments_eq_some_iff :
    (segments (fun c => !ofClass c) s).find? test = some run ↔
      ∃ before after, FirstRun ofClass Wanted s before run after := by
  constructor
  · exact exists_firstRun htest
  · rintro ⟨before, after, h⟩
    rcases hfind : (segments (fun c => !ofClass c) s).find? test with _ | run'
    · exact absurd h.wanted ((find?_segments_eq_none_iff htest).1 hfind before run after h.toMaximalRun)
    · obtain ⟨before', after', h'⟩ := exists_firstRun htest hfind
      rw [h.unique h']

end

end HotSchema.Text
